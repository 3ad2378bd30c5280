import Switchboard.Proofs.Exchange.Sending
import Switchboard.Proofs.Exchange.Steady

/-!
Sessions that bring a known stream and take all that is written (`Duplex`). Sending to such a session succeeds
and leaves the stream as it was. A recorded session does what the session in it does (`duplex_recorded`), and
its record grows by what is sent and by nothing else (`sendParts_recording`, `feeds_recording`). Scripts that
bring their bytes steadily and take some bytes of every offer are such sessions (`duplex_brings`).
-/

namespace Switchboard.Exchange

open Http (Fault)

variable {σ : Type} [Transport σ]

/-- Sessions that take some bytes of every offer, and stay such sessions. -/
def Accepts (P : Session σ → Prop) : Prop :=
  ∀ {x : Session σ} {bytes : Bytes}, P x → bytes ≠ [] → ∃ n y, 0 < n ∧ x.write bytes = (.ok n, y) ∧ P y

/-- Sessions of one patience that bring a known stream and take some bytes of every offer. -/
structure Duplex (patience : Nat) (P : Session σ → Bytes → Prop) : Prop where
  feeds : Feeds P
  takes {x : Session σ} {stream bytes : Bytes} (h : P x stream) (hb : bytes ≠ []) :
    ∃ n y, 0 < n ∧ x.write bytes = (.ok n, y) ∧ P y stream
  timeout {x : Session σ} {stream : Bytes} (h : P x stream) : x.timeout = patience

section Sending

variable {P : Session σ → Prop}

/-- All bytes are taken. -/
theorem writeAll_accepts (hP : Accepts P) {x : Session σ} (h : P x) (chunk : Nat) (bytes : Bytes) :
    ∃ y, x.writeAll chunk bytes = (.ok (), y) ∧ P y := by
  -- the induction is on what is left to write, of which every write takes one byte at least
  induction hn : bytes.length using Nat.strongRecOn generalizing x bytes with
  | ind k ih =>
    by_cases hb : bytes = []
    · refine ⟨x, ?_, h⟩
      rw [Session.writeAll, dif_pos hb]
    · have htake : bytes.take (max chunk 1) ≠ [] := by
        rw [ne_eq, List.take_eq_nil_iff]
        exact not_or.2 ⟨by omega, hb⟩
      obtain ⟨n, y, hpos, hw, hy⟩ := hP h htake
      have hlt : (bytes.drop n).length < k := by
        have := List.length_pos_iff.2 hb
        rw [List.length_drop]
        omega
      obtain ⟨z, hz, hPz⟩ := ih _ hlt hy (bytes.drop n) rfl
      refine ⟨z, ?_, hPz⟩
      rw [Session.writeAll, dif_neg hb, hw]
      simp only
      rw [dif_neg (Nat.ne_of_gt hpos)]
      exact hz

theorem send_accepts (hP : Accepts P) {x : Link σ} (h : P x.session) (bytes : Bytes) :
    ∃ session, x.send bytes = (.ok (), { x with session }) ∧ P session := by
  obtain ⟨y, hw, hy⟩ := writeAll_accepts hP h x.slot.limits.writeSize bytes
  refine ⟨y, ?_, hy⟩
  rw [Link.send, hw]

/-- A head and a body are taken. -/
theorem sendParts_accepts (hP : Accepts P) {x : Link σ} (h : P x.session) (head body : Bytes) :
    ∃ session, x.sendParts head body = (.ok (), { x with session }) ∧ P session := by
  obtain ⟨y, hhead, hy⟩ := send_accepts hP h head
  obtain ⟨z, hbody, hz⟩ := send_accepts hP (x := { x with session := y }) hy body
  refine ⟨z, ?_, hz⟩
  rw [Link.sendParts, hhead]
  exact hbody

theorem Duplex.accepts {patience : Nat} {P : Session σ → Bytes → Prop} (hD : Duplex patience P) (stream : Bytes) :
    Accepts fun x => P x stream := fun h hb => hD.takes h hb

end Sending

/-! ## Recorded sessions -/

/-- The session whose transport is recorded. -/
def Session.inner (x : Session (Recorded σ)) : Session σ := ⟨x.transport.inner, x.timeout⟩

/-- A wait on a recorded transport is one on the transport in it. -/
theorem waitFor_recorded (i : Interest) (n : Nat) (t : Recorded σ) :
    ∃ polls, waitFor i n t =
      ((waitFor i n t.inner).1, { t with inner := (waitFor i n t.inner).2, polls }) := by
  induction n generalizing t with
  | zero => exact ⟨t.polls, rfl⟩
  | succ n ih =>
    have hpoll : Channel.poll i t = ((Channel.poll i t.inner).1,
        { t with inner := (Channel.poll i t.inner).2, polls := t.polls + 1 }) := rfl
    rw [waitFor, waitFor, hpoll]
    rcases Channel.poll i t.inner with ⟨f | ready, t'⟩
    · exact ⟨t.polls + 1, rfl⟩
    · cases ready with
      | true => exact ⟨t.polls + 1, rfl⟩
      | false => exact ih { t with inner := t', polls := t.polls + 1 }

/-- A read from a recorded session is one from the session in it, and records nothing. -/
theorem read_recorded (x : Session (Recorded σ)) (n : Nat) :
    ∃ y, x.read n = ((x.inner.read n).1, y) ∧ y.inner = (x.inner.read n).2 ∧
      y.transport.written = x.transport.written := by
  obtain ⟨polls, hw⟩ := waitFor_recorded .reading x.timeout x.transport
  rw [Session.read, Session.read, hw, Session.inner]
  rcases waitFor .reading x.timeout x.transport.inner with ⟨f | _, t⟩
  · exact ⟨_, rfl, rfl, rfl⟩
  · exact ⟨_, rfl, rfl, rfl⟩

theorem write_recorded (x : Session (Recorded σ)) (bytes : Bytes) :
    ∃ y, x.write bytes = ((x.inner.write bytes).1, y) ∧ y.inner = (x.inner.write bytes).2 := by
  obtain ⟨polls, hw⟩ := waitFor_recorded .writing x.timeout x.transport
  rw [Session.write, Session.write, hw, Session.inner]
  rcases waitFor .writing x.timeout x.transport.inner with ⟨f | _, t⟩
  · exact ⟨_, rfl, rfl⟩
  · exact ⟨_, rfl, rfl⟩

/-- A recorded session that stands in a relation to a stream, and has written some bytes. -/
structure Recording (P : Session σ → Bytes → Prop) (written : Bytes) (x : Session (Recorded σ))
    (stream : Bytes) : Prop where
  inner : P x.inner stream
  written : x.transport.written = written

section Recording

variable {patience : Nat} {P : Session σ → Bytes → Prop} {stream written : Bytes}

theorem feeds_recording (hF : Feeds P) (written : Bytes) : Feeds (Recording P written) where
  more := by
    intro x stream n h hs hn
    obtain ⟨piece, rest, y, hp, hst, hr, hy⟩ := hF.more h.inner hs hn
    obtain ⟨z, hz, hinner, hwritten⟩ := read_recorded x n
    rw [hr] at hz hinner
    refine ⟨piece, rest, z, hp, hst, hz, ?_, hwritten.trans h.written⟩
    rw [hinner]
    exact hy
  done := by
    intro x n h hn
    obtain ⟨y, hy, hr⟩ := hF.done h.inner hn
    obtain ⟨z, hz, hinner, hwritten⟩ := read_recorded x n
    refine ⟨z, ⟨?_, hwritten.trans h.written⟩, ?_⟩
    · have hinner : z.inner = y := by
        rw [hinner]
        rcases hr with hr | hr <;> rw [hr]
      rw [hinner]
      exact hy
    · rcases hr with hr | hr <;> rw [hr] at hz
      · exact Or.inl hz
      · exact Or.inr hz

/-- Recording changes nothing in what is brought and taken. -/
theorem duplex_recorded (hD : Duplex patience P) :
    Duplex patience fun (x : Session (Recorded σ)) stream => P x.inner stream where
  feeds := {
    more := by
      intro x stream n h hs hn
      obtain ⟨piece, rest, y, hp, hst, hr, hy⟩ := (feeds_recording hD.feeds _).more ⟨h, rfl⟩ hs hn
      exact ⟨piece, rest, y, hp, hst, hr, hy.inner⟩
    done := by
      intro x n h hn
      obtain ⟨y, hy, hr⟩ := (feeds_recording hD.feeds _).done ⟨h, rfl⟩ hn
      exact ⟨y, hy.inner, hr⟩ }
  takes := by
    intro x stream bytes h hb
    obtain ⟨n, y, hn, hw, hy⟩ := hD.takes h hb
    obtain ⟨z, hz, hinner⟩ := write_recorded x bytes
    rw [hw] at hz hinner
    refine ⟨n, z, hn, hz, ?_⟩
    rw [hinner]
    exact hy
  timeout := by
    intro x stream h
    exact hD.timeout h

/-- What is sent is taken and recorded. -/
theorem send_recording (hD : Duplex patience P) {x : Link (Recorded σ)}
    (h : Recording P written x.session stream) (bytes : Bytes) :
    ∃ session, x.send bytes = (.ok (), { x with session }) ∧
      Recording P (written ++ bytes) session stream := by
  obtain ⟨session, hsend, hP⟩ := send_accepts ((duplex_recorded hD).accepts stream) h.inner bytes
  refine ⟨session, hsend, hP, ?_⟩
  rw [← h.written]
  exact written_send hsend

theorem sendParts_recording (hD : Duplex patience P) {x : Link (Recorded σ)}
    (h : Recording P written x.session stream) (head body : Bytes) :
    ∃ session, x.sendParts head body = (.ok (), { x with session }) ∧
      Recording P (written ++ (head ++ body)) session stream := by
  obtain ⟨session, hsend, hP⟩ := sendParts_accepts ((duplex_recorded hD).accepts stream) h.inner head body
  refine ⟨session, hsend, hP, ?_⟩
  rw [← h.written]
  exact written_sendParts hsend

end Recording

/-! ## Scripts -/

namespace Script

/-- A script takes some bytes of every offer before the patience is spent. -/
structure Takes (patience : Nat) (t : Script) : Prop where
  some : t.writeMax ≠ some 0
  room : t.writeRoom = none
  stall : t.writeStall < patience

variable {patience : Nat} {t : Script}

/-- A wait for room ends where the stall does. -/
theorem waitFor_writing {k : Nat} (h : t.writeStall < k) :
    waitFor .writing k t = (.ok (), { t with writeStall := 0 }) := by
  induction k generalizing t with
  | zero => exact absurd h (Nat.not_lt_zero _)
  | succ k ih =>
    cases hs : t.writeStall with
    | zero =>
      simp only [waitFor, Channel.poll, poll, hs]
      rw [← hs]
    | succ n =>
      simp only [waitFor, Channel.poll, poll, hs]
      rw [hs] at h
      rw [ih (Nat.lt_of_succ_lt_succ h)]

/-- The session `x` has this patience, and its script brings the stream and takes what is written. -/
structure BringsAndTakes (patience : Nat) (x : Session Script) (stream : Bytes) : Prop where
  timeout : x.timeout = patience
  steady : Steady patience 0 x.transport.deliveries
  data : dataOf x.transport.deliveries = stream
  takes : Takes patience x.transport

theorem write_takes (h : Takes patience t) {bytes : Bytes} (hb : bytes ≠ []) :
    ∃ n, 0 < n ∧ Session.write ⟨t, patience⟩ bytes = (.ok n, ⟨{ t with writeStall := 0 }, patience⟩) := by
  have hroom : ({ t with writeStall := 0 } : Script).writeRoom = none := h.room
  have hlen := List.length_pos_iff.2 hb
  refine ⟨({ t with writeStall := 0 } : Script).accepted bytes.length, ?_, ?_⟩
  · simp only [accepted, h.room, Option.getD_none]
    cases hm : t.writeMax with
    | none =>
      simp only [Option.getD_none]
      omega
    | some m =>
      have hm0 : m ≠ 0 := fun h0 => h.some (by rw [hm, h0])
      simp only [Option.getD_some]
      omega
  · simp only [Session.write, waitFor_writing h.stall, Channel.write, write, h.room]
    rfl

theorem duplex_brings (patience : Nat) : Duplex patience (BringsAndTakes patience) where
  feeds := {
    more := by
      intro x stream n h hs hn
      obtain ⟨piece, rest, y, hp, hst, hr, ds, hy, hsteady, hdata⟩ := (feeds_brings x).more
        ⟨x.transport.deliveries, rfl, by rw [h.timeout]; exact h.steady, h.data⟩ hs hn
      rw [h.timeout] at hsteady
      refine ⟨piece, rest, y, hp, hst, hr, ?_⟩
      rw [hy]
      exact ⟨h.timeout, hsteady, hdata, h.takes.some, h.takes.room, h.takes.stall⟩
    done := by
      intro x n h hn
      obtain ⟨y, ⟨ds, hy, hsteady, hdata⟩, hr⟩ := (feeds_brings x).done
        ⟨x.transport.deliveries, rfl, by rw [h.timeout]; exact h.steady, h.data⟩ hn
      rw [h.timeout] at hsteady
      refine ⟨y, ?_, hr⟩
      rw [hy]
      exact ⟨h.timeout, hsteady, hdata, h.takes.some, h.takes.room, h.takes.stall⟩ }
  takes := by
    intro x stream bytes h hb
    obtain ⟨n, hn, hw⟩ := write_takes h.takes hb
    obtain rfl := h.timeout
    refine ⟨n, _, hn, hw, rfl, h.steady, h.data, h.takes.some, h.takes.room, ?_⟩
    exact Nat.lt_of_le_of_lt (Nat.zero_le _) h.takes.stall
  timeout := by
    intro x stream h
    exact h.timeout

end Script

end Switchboard.Exchange
