import Switchboard.Exchange.Receive

/-!
Sessions that bring a known stream of bytes. `FeedsUntil E P Over` says of a relation between sessions and
streams that reading gives the stream piece by piece, in whatever pieces, and meets one of the faults `E` once
the stream is used up. A loop that reads until a test is satisfied is then an induction over the stream: what
holds of the slot and the bytes still to come before each test holds after it (`pump_until`). `Feeds P` is the
case in which it is left open whether the stream ends or stalls.
-/

namespace Switchboard.Exchange

open Http (Fault)

variable {σ : Type} [Transport σ]

/-- A session that stands in this relation to a stream brings the stream and nothing else. -/
structure Feeds (P : Session σ → Bytes → Prop) : Prop where
  more {x : Session σ} {stream : Bytes} {n : Nat} (h : P x stream) (hs : stream ≠ []) (hn : 0 < n) :
    ∃ piece rest y, piece ≠ [] ∧ stream = piece ++ rest ∧ x.read n = (.ok piece, y) ∧ P y rest
  done {x : Session σ} {n : Nat} (h : P x []) (hn : 0 < n) :
    ∃ y, P y [] ∧ (x.read n = (.ok [], y) ∨ x.read n = (.error .timeout, y))

/-- The faults of a stream that has ended. -/
def IsEnd (f : Fault) : Prop := f = .closed ∨ f = .timeout

/-- What comes after the last byte of a stream. -/
inductive StreamEnd where
  /-- The other side closes. -/
  | closed
  /-- The other side says nothing more. -/
  | silent
  /-- The transport fails. -/
  | broken (detail : String)
  deriving DecidableEq, Repr

/-- The fault that a loop meets at the end of a stream. -/
def StreamEnd.fault : StreamEnd → Fault
  | .closed => .closed
  | .silent => .timeout
  | .broken detail => .transport detail

/-- A session that stands in this relation to a stream brings the stream, and then meets one of the faults `E`; after
that it is one of those in `Over`. A read that gives nothing means that the stream is closed. -/
structure FeedsUntil (E : Fault → Prop) (P : Session σ → Bytes → Prop) (Over : Session σ → Prop) : Prop where
  more {x : Session σ} {stream : Bytes} {n : Nat} (h : P x stream) (hs : stream ≠ []) (hn : 0 < n) :
    ∃ piece rest y, piece ≠ [] ∧ stream = piece ++ rest ∧ x.read n = (.ok piece, y) ∧ P y rest
  done {x : Session σ} {n : Nat} (h : P x []) (hn : 0 < n) :
    ∃ f y, E f ∧ Over y ∧ (f = .closed ∧ x.read n = (.ok [], y) ∨ x.read n = (.error f, y))

theorem Feeds.until {P : Session σ → Bytes → Prop} (hF : Feeds P) : FeedsUntil IsEnd P (P · []) where
  more := hF.more
  done h hn := by
    obtain ⟨y, hy, hr | hr⟩ := hF.done h hn
    · exact ⟨.closed, y, Or.inl rfl, hy, Or.inl ⟨rfl, hr⟩⟩
    · exact ⟨.timeout, y, Or.inr rfl, hy, Or.inr hr⟩

/-- How a loop leaves the session: `rest` of the stream is still to come, or the loop has met the end. -/
inductive Left {α : Type} (E : Fault → Prop) (P : Session σ → Bytes → Prop) (Over : Session σ → Prop) :
    Except Fault α → Session σ → Bytes → Prop where
  | coming {r : Except Fault α} {session : Session σ} {rest : Bytes} (h : P session rest) :
    Left E P Over r session rest
  | ended {f : Fault} {session : Session σ} (hf : E f) (h : Over session) : Left E P Over (.error f) session []

/-- The stream of a session is still to come, or it is used up. -/
def Remains (P : Session σ → Bytes → Prop) (Over : Session σ → Prop) (session : Session σ) (stream : Bytes) : Prop :=
  P session stream ∨ stream = [] ∧ Over session

section Left

omit [Transport σ]

variable {α β : Type} {E : Fault → Prop} {P : Session σ → Bytes → Prop} {Over : Session σ → Prop}
  {session : Session σ} {rest : Bytes}

theorem Left.of_feeds {r : Except Fault α} (h : Left IsEnd P (P · []) r session rest) : P session rest := by
  cases h with
  | coming h => exact h
  | ended _ h => exact h

/-- A loop that succeeds has not met the end. -/
theorem Left.of_ok {a : α} (h : Left E P Over (.ok a) session rest) : P session rest := by
  cases h with
  | coming h => exact h

/-- A loop that fails leaves the session so whatever it would have given. -/
theorem Left.of_error {f : Fault} (h : Left E P Over (.error f : Except Fault α) session rest) :
    Left E P Over (.error f : Except Fault β) session rest := by
  cases h with
  | coming h => exact .coming h
  | ended hf h => exact .ended hf h

theorem Left.remains {r : Except Fault α} (h : Left E P Over r session rest) : Remains P Over session rest := by
  cases h with
  | coming h => exact Or.inl h
  | ended _ h => exact Or.inr ⟨rfl, h⟩

end Left

namespace Link

section Fill

variable {E : Fault → Prop} {P : Session σ → Bytes → Prop} {Over : Session σ → Prop} {x : Link σ}

theorem readSize_pos (l : Http.Limits) : 0 < l.readSize :=
  Nat.lt_of_lt_of_le Nat.zero_lt_one (Nat.le_max_right l.readCache.toNat 1)

/-- Filling takes some bytes off the front of the stream. -/
theorem fill_more (hF : FeedsUntil E P Over) {stream : Bytes} (h : P x.session stream) (hs : stream ≠ []) :
    ∃ piece rest session, piece ≠ [] ∧ stream = piece ++ rest ∧ P session rest ∧
      x.fill = (.ok (), ⟨x.slot.addPending piece, session⟩) := by
  obtain ⟨piece, rest, y, hp, hst, hr, hy⟩ := hF.more h hs (readSize_pos x.slot.limits)
  refine ⟨piece, rest, y, hp, hst, hy, ?_⟩
  rw [fill, hr]
  cases piece with
  | nil => exact absurd rfl hp
  | cons b piece => rfl

/-- Filling fails once the stream is used up. -/
theorem fill_over (hF : FeedsUntil E P Over) (h : P x.session []) :
    ∃ f session, E f ∧ Over session ∧ x.fill = (.error f, ⟨x.slot, session⟩) := by
  obtain ⟨f, y, hf, hy, ⟨rfl, hr⟩ | hr⟩ := hF.done h (readSize_pos x.slot.limits)
  · exact ⟨.closed, y, hf, hy, by rw [fill, hr]⟩
  · exact ⟨f, y, hf, hy, by rw [fill, hr]⟩

theorem fill_done (hF : Feeds P) (h : P x.session []) :
    ∃ f session, IsEnd f ∧ P session [] ∧ x.fill = (.error f, ⟨x.slot, session⟩) :=
  fill_over hF.until h

end Fill

/-! ## Reading until a test is satisfied -/

section Pump

variable {α : Type} {test : Slot → Verdict Slot α} {x y : Link σ} {s : Slot} {f : Fault}

theorem pump_done {a : α} (h : test x.slot = .done a s) :
    x.pump test = (.ok a, { x with slot := s }) := by
  rw [pump, h]

theorem pump_failed (h : test x.slot = .failed f s) :
    x.pump test = (.error f, { x with slot := s }) := by
  rw [pump, h]

theorem pump_more_error (h : test x.slot = .more s) (hf : fill { x with slot := s } = (.error f, y)) :
    x.pump test = (.error f, y) := by
  rw [pump, h]
  simp only
  split
  · next heq =>
    rw [hf] at heq
    obtain ⟨he, rfl⟩ := Prod.mk.inj heq
    obtain rfl := Except.error.inj he
    rfl
  · next heq =>
    rw [hf] at heq
    exact absurd heq (by simp)

theorem pump_more_ok (h : test x.slot = .more s) (hf : fill { x with slot := s } = (.ok (), y)) :
    x.pump test = y.pump test := by
  rw [pump, h]
  simp only
  split
  · next heq =>
    rw [hf] at heq
    exact absurd heq (by simp)
  · next heq =>
    rw [hf] at heq
    obtain ⟨-, rfl⟩ := Prod.mk.inj heq
    rfl

/-- What each test preserves of the slot and the bytes still to come holds when the loop ends. -/
theorem pump_until {E : Fault → Prop} {P : Session σ → Bytes → Prop} {Over : Session σ → Prop}
    (hF : FeedsUntil E P Over) (Inv : Slot → Bytes → Prop) (Q : Except Fault α → Slot → Bytes → Prop)
    (hdone : ∀ {s s' stream a}, Inv s stream → test s = .done a s' → Q (.ok a) s' stream)
    (hfailed : ∀ {s s' stream f}, Inv s stream → test s = .failed f s' → Q (.error f) s' stream)
    (hmore : ∀ {s s' piece rest}, Inv s (piece ++ rest) → test s = .more s' →
      Inv (s'.addPending piece) rest)
    (hend : ∀ {s s' f}, Inv s [] → test s = .more s' → E f → Q (.error f) s' [])
    {stream : Bytes} (hP : P x.session stream) (hI : Inv x.slot stream) :
    ∃ r slot session rest, x.pump test = (r, ⟨slot, session⟩) ∧ Left E P Over r session rest ∧
      Q r slot rest := by
  -- the induction is on the bytes still to come, of which every fill takes one at least
  induction hn : stream.length using Nat.strongRecOn generalizing x stream with
  | ind n ih =>
    rcases ht : test x.slot with ⟨a, s⟩ | ⟨f, s⟩ | s
    · exact ⟨.ok a, s, x.session, stream, pump_done ht, .coming hP, hdone hI ht⟩
    · exact ⟨.error f, s, x.session, stream, pump_failed ht, .coming hP, hfailed hI ht⟩
    · by_cases hs : stream = []
      · subst hs
        obtain ⟨f, session, hf, hover, hfill⟩ := fill_over (x := { x with slot := s }) hF hP
        exact ⟨.error f, s, session, [], pump_more_error ht hfill, .ended hf hover, hend hI ht hf⟩
      · obtain ⟨piece, rest, session, hpiece, rfl, hP', hfill⟩ :=
          fill_more (x := { x with slot := s }) hF hP hs
        have hlt : rest.length < n := by
          have := List.length_pos_iff.2 hpiece
          rw [List.length_append] at hn
          omega
        rw [pump_more_ok ht hfill]
        exact ih rest.length hlt (x := ⟨s.addPending piece, session⟩) hP' (hmore hI ht) rfl

end Pump

end Link
end Switchboard.Exchange
