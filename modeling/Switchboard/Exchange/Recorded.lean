import Switchboard.Exchange.Transport

/-!
A transport with a record of what was done to it: the polls, the writes with what was taken of them, and how
often it was closed. The record changes nothing in how the transport behaves, so what is shown of the bytes
written to a recorded transport holds of any transport.
-/

namespace Switchboard.Exchange

open Http (Fault)

/-- A write: the bytes that were offered, and how many were taken unless it failed. -/
structure Offer where
  bytes : Bytes
  taken : Option Nat
  deriving DecidableEq, Repr

/-- The bytes of an offer that were taken. -/
def Offer.accepted (o : Offer) : Bytes := o.bytes.take (o.taken.getD 0)

/-- A transport with its record. -/
structure Recorded (σ : Type) where
  inner : σ
  /-- The polls made so far. -/
  polls : Nat := 0
  /-- The writes so far, the last write first. -/
  offers : List Offer := []
  /-- How often it was closed. -/
  closed : Nat := 0
  deriving Repr

namespace Recorded

variable {σ : Type}

/-- The bytes written so far. -/
def written (s : Recorded σ) : Bytes := (s.offers.reverse.map Offer.accepted).flatten

/-- The number of bytes taken by each write so far that did not fail. -/
def pieces (s : Recorded σ) : List Nat := s.offers.reverse.filterMap Offer.taken

/-- Forgets the polls and the writes so far. -/
def forget (s : Recorded σ) : Recorded σ := { s with polls := 0, offers := [] }

variable [Transport σ]

/-- A poll. -/
def poll (i : Interest) (s : Recorded σ) : Except Fault Bool × Recorded σ :=
  let (r, inner) := Channel.poll i s.inner
  (r, { s with inner, polls := s.polls + 1 })

/-- A read. -/
def read (n : Nat) (s : Recorded σ) : Except Fault Bytes × Recorded σ :=
  let (r, inner) := Channel.read n s.inner
  (r, { s with inner })

/-- A write. -/
def write (bytes : Bytes) (s : Recorded σ) : Except Fault Nat × Recorded σ :=
  let (r, inner) := Channel.write bytes s.inner
  (r, { s with inner, offers := ⟨bytes, r.toOption⟩ :: s.offers })

/-- An attempt at the urgent byte. -/
def urgent (s : Recorded σ) : Except Fault (Option UInt8) × Recorded σ :=
  let (r, inner) := Channel.urgent s.inner
  (r, { s with inner })

/-- Closing. -/
def close (s : Recorded σ) : Except Fault Unit × Recorded σ :=
  let (r, inner) := Channel.close s.inner
  (r, { s with inner, closed := s.closed + 1 })

instance : Transport (Recorded σ) where
  poll := poll
  read := read
  write := write
  urgent := urgent
  close := close
  read_length n s := Channel.read_length n s.inner
  write_bound bytes s := Channel.write_bound bytes s.inner
  supply s := Transport.supply s.inner
  supply_poll i s := Transport.supply_poll i s.inner
  supply_read n s := Transport.supply_read n s.inner
  read_supply n s := Transport.read_supply n s.inner
  supply_write bytes s := Transport.supply_write bytes s.inner

theorem written_poll (i : Interest) (s : Recorded σ) : (s.poll i).2.written = s.written := rfl

theorem written_read (n : Nat) (s : Recorded σ) : (s.read n).2.written = s.written := rfl

theorem written_urgent (s : Recorded σ) : s.urgent.2.written = s.written := rfl

theorem written_close (s : Recorded σ) : s.close.2.written = s.written := rfl

theorem written_write (bytes : Bytes) (s : Recorded σ) :
    (s.write bytes).2.written = s.written ++ bytes.take ((s.write bytes).1.toOption.getD 0) := by
  simp [write, written, Offer.accepted]

end Recorded
end Switchboard.Exchange
