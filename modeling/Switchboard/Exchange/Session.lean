import Switchboard.Exchange.Transport

/-!
Sessions: a transport with a patience. Before each read and each write the transport is polled, and after as
many polls in vain as the patience allows the operation fails with a timeout.
-/

namespace Switchboard.Exchange

open Http (Fault)

/-- A transport with the number of polls in vain that are tolerated, at least one. -/
structure Session (σ : Type) where
  transport : σ
  timeout : Nat

/-- Polls until the transport is ready, so many times at most. -/
def waitFor {σ : Type} [Transport σ] (i : Interest) : Nat → σ → Except Fault Unit × σ
  | 0, t => (.error .timeout, t)
  | n + 1, t =>
    match Channel.poll i t with
    | (.ok true, t) => (.ok (), t)
    | (.ok false, t) => waitFor i n t
    | (.error f, t) => (.error f, t)

theorem supply_waitFor {σ : Type} [Transport σ] (i : Interest) (n : Nat) (t : σ) :
    Transport.supply (waitFor i n t).2 ≤ Transport.supply t := by
  induction n generalizing t with
  | zero => simp [waitFor]
  | succ n ih =>
    have h := Transport.supply_poll i t
    rw [waitFor]
    split
    · next he => simpa [he] using h
    · next t' he => exact Nat.le_trans (ih t') (by simpa [he] using h)
    · next he => simpa [he] using h

namespace Session

variable {σ : Type}

/-- The patience of a session unless told otherwise. -/
def defaultTimeout : Nat := 50

/-- A session over a transport. -/
def new (transport : σ) : Session σ := ⟨transport, defaultTimeout⟩

/-- The session with another patience; no patience counts as one poll. -/
def setTimeout (s : Session σ) (polls : Nat) : Session σ := { s with timeout := max polls 1 }

variable [Transport σ]

/-- Reads some bytes once the transport is ready. -/
def read (s : Session σ) (n : Nat) : Except Fault Bytes × Session σ :=
  match waitFor .reading s.timeout s.transport with
  | (.error f, t) => (.error f, { s with transport := t })
  | (.ok (), t) =>
    let (r, t) := Channel.read n t
    (r, { s with transport := t })

/-- Offers some bytes once the transport is ready. -/
def write (s : Session σ) (bytes : Bytes) : Except Fault Nat × Session σ :=
  match waitFor .writing s.timeout s.transport with
  | (.error f, t) => (.error f, { s with transport := t })
  | (.ok (), t) =>
    let (r, t) := Channel.write bytes t
    (r, { s with transport := t })

/-- Writes all bytes, offering `chunk` of them at a time, at least one. A write that takes nothing means
that the other side has closed. -/
def writeAll (chunk : Nat) (s : Session σ) (bytes : Bytes) : Except Fault Unit × Session σ :=
  if _hb : bytes = [] then (.ok (), s)
  else
    match s.write (bytes.take (max chunk 1)) with
    | (.error f, s) => (.error f, s)
    | (.ok n, s) => if _hn : n = 0 then (.error .closed, s) else writeAll chunk s (bytes.drop n)
termination_by bytes.length
decreasing_by
  have := List.length_pos_iff.2 _hb
  simp only [List.length_drop]
  omega

/-- Asks for the urgent byte, so many times at most. -/
def urgent (s : Session σ) : Nat → Except Fault (Option UInt8) × Session σ
  | 0 => (.ok none, s)
  | n + 1 =>
    match Channel.urgent s.transport with
    | (.ok (some b), t) => (.ok (some b), { s with transport := t })
    | (.ok none, t) => urgent { s with transport := t } n
    | (.error f, t) => (.error f, { s with transport := t })

/-- Closes the transport. -/
def close (s : Session σ) : Except Fault Unit × Session σ :=
  let (r, t) := Channel.close s.transport
  (r, { s with transport := t })

/-- The bytes that can still be read. -/
def supply (s : Session σ) : Nat := Transport.supply s.transport

theorem read_bound {s : Session σ} {n : Nat} {bytes : Bytes} (h : (s.read n).1 = .ok bytes) :
    bytes.length ≤ n ∧ (s.read n).2.supply + bytes.length ≤ s.supply := by
  have hw := supply_waitFor .reading s.timeout s.transport
  unfold read supply at *
  split
  · next he => simp [he] at h
  · next t he =>
    simp only [he] at h hw
    have hr := Transport.read_bound n t bytes h
    exact ⟨hr.1, Nat.le_trans hr.2 hw⟩

end Session
end Switchboard.Exchange
