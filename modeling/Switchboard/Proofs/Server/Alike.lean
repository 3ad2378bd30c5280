import Switchboard.Proofs.Exchange.Alike
import Switchboard.Server.Cycle

/-!
Cycles over transports that behave alike. What a worker does depends on the slot only through what is left of it when it
is cleared, and on the transport only through what its operations give (`cycle_alike`). If the first transport may give up
reading before the second, its cycle is the same up to there (`cycle_unless`).
-/

namespace Switchboard.Server

open Http
open Exchange
open Readiness (Mask)

variable {σ τ : Type}

/-- Two fates that differ in the transport only, which are related. -/
inductive Fate.Alike (R : σ → τ → Prop) : Fate σ → Fate τ → Prop where
  | closed {t : σ} {u : τ} (h : R t u) : Alike R (.closed t) (.closed u)
  | handedBack {t : σ} {u : τ} (h : R t u) (peer : String) (pending : Bytes) :
    Alike R (.handedBack ⟨t, peer, pending⟩) (.handedBack ⟨u, peer, pending⟩)
  | dropped {t : σ} {u : τ} (h : R t u) : Alike R (.dropped t) (.dropped u)

/-- Two runs with the same marks, and so the same slots shown to services, that leave the same slot and come to
fates that are alike. -/
structure Run.Alike (R : σ → τ → Prop) (r : Run σ) (s : Run τ) : Prop where
  marks : r.marks = s.marks
  slot : r.slot = s.slot
  fate : r.fate.Alike R s.fate

theorem Fate.Alike.transport {R : σ → τ → Prop} {r : Fate σ} {s : Fate τ} (h : r.Alike R s) :
    R r.transport s.transport := by
  cases h with
  | closed h => exact h
  | handedBack h peer pending => exact h
  | dropped h => exact h

namespace Run.Alike

variable {R : σ → τ → Prop} {r : Run σ} {s : Run τ}

theorem through (h : r.Alike R s) (marks : List Mark) : (r.through marks).Alike R (s.through marks) :=
  ⟨congrArg (marks ++ ·) h.marks, h.slot, h.fate⟩

theorem after (h : r.Alike R s) (m : Mark) : (r.after m).Alike R (s.after m) := h.through [m]

end Run.Alike

section Cycle

variable [Transport σ] [Transport τ] {E : Fault → σ → Prop} {R : σ → τ → Prop} {x : Link σ} {y : Link τ}

/-! ## Settling -/

theorem close_alike (hR : Accords R) (marks : List Mark) (h : x.Alike R y) :
    (Worker.close marks x).Alike R (Worker.close marks y) := by
  have hc := Session.close_alike hR h.session
  unfold Worker.close
  generalize x.session.close = p, y.session.close = q at hc ⊢
  obtain ⟨r, h'⟩ := hc
  exact ⟨rfl, h.slot, .closed h'.transport⟩

theorem conclude_alike (hR : Accords R) (w : Worker) (peer : String) (keepAlive : Bool) (h : x.Alike R y) :
    (w.conclude peer keepAlive x).Alike R (w.conclude peer keepAlive y) := by
  unfold Worker.conclude
  simp only [h.slot]
  cases keepAlive with
  | false => exact close_alike hR _ h
  | true =>
    refine Run.Alike.after (Run.Alike.after ?_ _) _
    cases w.takesBack with
    | false => exact close_alike hR [] (h.withSlot _)
    | true => exact ⟨rfl, rfl, .handedBack h.session.transport peer _⟩

theorem deliver_alike (hR : Accords R) (w : Worker) (peer : String) (keepAlive : Bool) (a : Answer)
    (h : x.Alike R y) : (w.deliver peer keepAlive a x).Alike R (w.deliver peer keepAlive a y) := by
  have hs := Link.sendParts_alike hR (a.complete w.site keepAlive).response.head
    (if (a.complete w.site keepAlive).request.method == .head then []
      else (a.complete w.site keepAlive).response.body) (h.withSlot (a.complete w.site keepAlive))
  unfold Worker.deliver Link.sendResponse
  refine Run.Alike.through ?_ _
  simp only
  generalize Link.sendParts { x with slot := _ } _ _ = p, Link.sendParts { y with slot := _ } _ _ = q at hs ⊢
  obtain ⟨r, h'⟩ := hs
  rcases r with f | _
  · exact close_alike hR [] h'
  · exact conclude_alike hR w peer keepAlive h'

theorem refuse_alike (hR : Accords R) (w : Worker) (peer : String) (f : Fault) (h : x.Alike R y) :
    (w.refuse peer f x).Alike R (w.refuse peer f y) := by
  unfold Worker.refuse
  rw [h.slot]
  split
  · exact close_alike hR [] h
  split
  · exact ⟨rfl, h.slot, .dropped h.session.transport⟩
  · exact deliver_alike hR w peer false _ h

theorem execute_alike (hR : Accords R) (w : Worker) (peer : String) (keepAlive : Bool) (h : x.Alike R y) :
    (w.execute peer keepAlive x).Alike R (w.execute peer keepAlive y) := by
  unfold Worker.execute
  rw [h.slot]
  exact (deliver_alike hR w peer keepAlive _ h).after _

theorem settle_alike (hR : Accords R) (w : Worker) (peer : String) (i : Intake) (h : x.Alike R y) :
    (w.settle peer (i, x)).Alike R (w.settle peer (i, y)) := by
  cases i with
  | idle => exact close_alike hR [] h
  | mute => exact close_alike hR [] h
  | failed f => exact refuse_alike hR w peer f h
  | read keepAlive => exact execute_alike hR w peer keepAlive h

/-! ## Reading -/

/-- Reading in a cycle has failed, with its transport, in this way. -/
def Intake.Broken (E : Fault → σ → Prop) (p : Intake × Link σ) : Prop := ∃ f, p.1 = .failed f ∧ p.2.Broken E f

theorem takeBody_unless (hR : MirrorsUnless E R) (keepAlive : Bool) (h : x.Alike R y) :
    Intake.Broken E (takeBody keepAlive x) ∨ Agree (Link.Alike R) (takeBody keepAlive x) (takeBody keepAlive y) := by
  have hs := Link.sendContinue_alike hR.toAccords h
  unfold takeBody
  generalize x.sendContinue = p, y.sendContinue = q at hs ⊢
  obtain @⟨r, x', y', h'⟩ := hs
  rcases r with f | _
  · exact Or.inr (.intro _ h')
  · have hb := Link.readBody_unless hR h'
    simp only
    generalize x'.readBody = p, y'.readBody = q at hb ⊢
    obtain @⟨f, v, hE⟩ | ⟨r, h''⟩ := hb
    · exact Or.inl ⟨f, rfl, hE⟩
    rcases r with f | _
    · exact Or.inr (.intro _ h'')
    · exact Or.inr (.intro _ h'')

theorem takeIn_unless (hR : MirrorsUnless E R) (h : x.Alike R y) :
    Intake.Broken E (takeIn x).2 ∨
      (takeIn x).1 = (takeIn y).1 ∧ Agree (Link.Alike R) (takeIn x).2 (takeIn y).2 := by
  have hr := Link.readRequest_unless hR h
  unfold takeIn
  generalize x.readRequest = p, y.readRequest = q at hr ⊢
  obtain @⟨f, v, hE⟩ | ⟨r, h'⟩ := hr
  · exact Or.inl ⟨f, rfl, hE⟩
  rcases r with f | _
  · exact Or.inr ⟨rfl, .intro _ h'⟩
  · simp only [h'.slot]
    split
    · exact (takeBody_unless hR _ h').imp id fun hagree => ⟨rfl, hagree⟩
    · exact Or.inr ⟨rfl, .intro _ h'⟩

/-- What is read is alike, up to where reading is broken off, if the slots are alike once they are cleared. -/
theorem reading_unless (hR : MirrorsUnless E R) (w : Worker) {a b : Slot} (hslot : a.reset = b.reset) {t : σ} {u : τ}
    (h : R t u) (peer : String) (pending : Bytes) (mask : Mask) :
    Intake.Broken E (w.intake a ⟨t, peer, pending⟩ mask) ∨
      (w.reading a ⟨t, peer, pending⟩ mask).1 = (w.reading b ⟨u, peer, pending⟩ mask).1 ∧
        Agree (Link.Alike R) (w.intake a ⟨t, peer, pending⟩ mask) (w.intake b ⟨u, peer, pending⟩ mask) := by
  have hopening : (w.opening a ⟨t, peer, pending⟩).Alike R (w.opening b ⟨u, peer, pending⟩) := by
    refine ⟨?_, rfl, h⟩
    unfold Worker.opening
    rw [hslot]
  unfold Worker.intake Worker.reading
  simp only
  split
  · exact Or.inr ⟨rfl, .intro _ hopening⟩
  split
  · have hu := Session.urgent_alike hR.toAccords Worker.urgentAttempts hopening.session
    generalize (w.opening a ⟨t, peer, pending⟩).session.urgent Worker.urgentAttempts = p,
      (w.opening b ⟨u, peer, pending⟩).session.urgent Worker.urgentAttempts = q at hu ⊢
    obtain @⟨r, v, v', h'⟩ := hu
    have hlink : Link.Alike R { w.opening a ⟨t, peer, pending⟩ with session := v }
        { w.opening b ⟨u, peer, pending⟩ with session := v' } := ⟨hopening.slot, h'⟩
    rcases r with f | _ | b
    · exact Or.inr ⟨rfl, .intro _ hlink⟩
    · exact Or.inr ⟨rfl, .intro _ hlink⟩
    · exact (takeIn_unless hR hlink).imp id fun hagree => ⟨congrArg _ hagree.1, hagree.2⟩
  split
  · exact takeIn_unless hR hopening
  · exact Or.inr ⟨rfl, .intro _ hopening⟩

/-! ## Cycles -/

/-- Cycles are alike, up to where reading is broken off, if the slots are alike once they are cleared. -/
theorem cycle_unless (hR : MirrorsUnless E R) (w : Worker) {a b : Slot} (hslot : a.reset = b.reset) {t : σ} {u : τ}
    (h : R t u) (peer : String) (pending : Bytes) (mask : Mask) :
    Intake.Broken E (w.intake a ⟨t, peer, pending⟩ mask) ∨
      Agree (Link.Alike R) (w.intake a ⟨t, peer, pending⟩ mask) (w.intake b ⟨u, peer, pending⟩ mask) ∧
        (w.cycle a ⟨t, peer, pending⟩ mask).Alike R (w.cycle b ⟨u, peer, pending⟩ mask) := by
  obtain hbroken | ⟨hmarks, hread⟩ := reading_unless hR w hslot h peer pending mask
  · exact Or.inl hbroken
  refine Or.inr ⟨hread, ?_⟩
  unfold Worker.cycle
  rw [hmarks]
  refine Run.Alike.through ?_ _
  generalize w.intake a ⟨t, peer, pending⟩ mask = p, w.intake b ⟨u, peer, pending⟩ mask = q at hread ⊢
  obtain ⟨i, h'⟩ := hread
  exact settle_alike hR.toAccords w peer i h'

end Cycle

end Switchboard.Server
