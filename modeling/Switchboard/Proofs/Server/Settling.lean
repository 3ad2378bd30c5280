import Switchboard.Proofs.Exchange.Tape
import Switchboard.Proofs.Http.Fields
import Switchboard.Proofs.Server.Pipelining

/-!
How a cycle ends once it has read, over any transport and with any services. An answer is written as a whole or up to
where the transport does not take it, and only after it is written as a whole may the connection be handed back
(`deliver_settled`); a connection that is closed gets nothing more (`close_settled`). What is written is the answer as
it was completed: with its status (`status_complete`), and with what becomes of the connection
(`connection_complete`). One service is called at most (`calls_answer`).
-/

namespace Switchboard.Server

open Http
open Exchange
open Readiness (Mask)

variable {σ : Type}

/-! ## Marks -/

/-- The slot on which a mark tells that a service was called. -/
def Mark.shown? : Mark → Option Slot
  | .enter _ => none
  | .call shown => some shown
  | .access _ => none

/-- The slots on which services were called, in order. -/
def calls (marks : List Mark) : List Slot := marks.filterMap Mark.shown?

/-- A run has come back to wait for the next connection, having called services on these slots. -/
def Run.Waits (r : Run σ) (shown : List Slot) : Prop :=
  ∃ front, r.marks = front ++ [.enter .wait] ∧ calls front = shown

theorem Run.Waits.through {r : Run σ} {shown : List Slot} (h : r.Waits shown) (marks : List Mark) :
    (r.through marks).Waits (calls marks ++ shown) := by
  obtain ⟨front, hmarks, hcalls⟩ := h
  refine ⟨marks ++ front, ?_, ?_⟩
  · show marks ++ r.marks = _
    rw [hmarks, List.append_assoc]
  · rw [← hcalls]
    exact List.filterMap_append

/-- A mark that tells of no call. -/
theorem Run.Waits.after {r : Run σ} {shown : List Slot} (h : r.Waits shown) {m : Mark}
    (hm : m.shown? = none) : (r.after m).Waits shown := by
  have hnone : calls [m] = [] := by simp [calls, hm]
  have := h.through [m]
  rwa [hnone] at this

theorem Run.Waits.calls_marks {r : Run σ} {shown : List Slot} (h : r.Waits shown) :
    calls r.marks = shown ∧ r.marks.getLast? = some (.enter .wait) := by
  obtain ⟨front, hmarks, hcalls⟩ := h
  refine ⟨?_, by rw [hmarks, List.getLast?_concat]⟩
  rw [hmarks, ← hcalls, calls, List.filterMap_append]
  exact List.append_nil _

/-! ## How a cycle settles -/

/-- The transport does not take the whole of an answer. -/
def Worker.Undelivered [Transport σ] (w : Worker) (keepAlive : Bool) (a : Answer) (x : Link σ) :
    Prop :=
  let s := a.complete w.site keepAlive
  ∃ f y, Link.sendResponse { x with slot := s } (s.request.method == .head) = (.error f, y)

/-- What an answer written over a link comes to, of which `final` is what should be written, `b` the bytes past the
request, and `shown` the slots on which services were called: all of `final` is written, or a first part of it if the
writing was cut off, which is not so if the connection is handed back, with the bytes past the request. -/
structure Settled (peer : String) (keepAlive : Bool) (final b : Bytes) (shown : List Slot) (cut : Prop)
    (t : Recorded (Taped σ)) (r : Run (Recorded (Taped σ))) : Prop where
  waits : r.Waits shown
  written : ∃ sent, Passed t r.fate.transport [] sent ∧ sent <+: final ∧ (sent = final ∨ cut) ∧
    ∀ next, r.fate = .handedBack next → sent = final
  stays : ∀ t, r.fate ≠ .dropped t
  handedBack : ∀ next, r.fate = .handedBack next →
    keepAlive = true ∧ next.peer = peer ∧ next.pending = b

namespace Settled

variable {peer : String} {keepAlive : Bool} {final b : Bytes} {shown : List Slot} {cut : Prop}
  {t : Recorded (Taped σ)} {r : Run (Recorded (Taped σ))}

theorem through (h : Settled peer keepAlive final b shown cut t r) (marks : List Mark) :
    Settled peer keepAlive final b (calls marks ++ shown) cut t (r.through marks) :=
  ⟨h.waits.through marks, h.written, h.stays, h.handedBack⟩

theorem after (h : Settled peer keepAlive final b shown cut t r) {m : Mark} (hm : m.shown? = none) :
    Settled peer keepAlive final b shown cut t (r.after m) :=
  ⟨h.waits.after hm, h.written, h.stays, h.handedBack⟩

/-- Something was written before. -/
theorem written_before {u : Recorded (Taped σ)} {sent : Bytes} (hpassed : Passed u t [] sent)
    (hsent : sent <+: final) (hcut : sent = final ∨ cut) (hall : (∃ next, r.fate = .handedBack next) → sent = final)
    (h : Settled peer keepAlive [] b shown False t r) : Settled peer keepAlive final b shown cut u r := by
  obtain ⟨sent', hpassed', hpart, -⟩ := h.written
  obtain rfl := List.prefix_nil.1 hpart
  exact ⟨h.waits, ⟨sent, hpassed.after hpassed', hsent, hcut, fun next hnext => hall ⟨next, hnext⟩⟩, h.stays,
    h.handedBack⟩

end Settled

section Settling

variable [Transport σ] {w : Worker} {peer : String} {keepAlive : Bool}

/-- Closing writes nothing. -/
theorem close_settled (x : Link (Recorded (Taped σ))) (b : Bytes) {marks : List Mark} (hm : calls marks = []) :
    Settled peer keepAlive [] b [] False x.session.transport (Worker.close marks x) := by
  refine ⟨⟨.enter .close :: marks, rfl, ?_⟩,
    ⟨[], ?_, List.prefix_rfl, Or.inl rfl, fun _ h => absurd h (by simp [Worker.close])⟩,
    fun _ h => absurd h (by simp [Worker.close]), fun _ h => absurd h (by simp [Worker.close])⟩
  · exact hm
  · exact close_taped x.session.transport

theorem conclude_settled (x : Link (Recorded (Taped σ))) :
    Settled peer keepAlive [] x.slot.buffer [] False x.session.transport (w.conclude peer keepAlive x) := by
  unfold Worker.conclude
  cases keepAlive with
  | false => exact close_settled x x.slot.buffer rfl
  | true =>
    refine Settled.after (Settled.after ?_ rfl) rfl
    by_cases hback : w.takesBack = true
    · rw [if_pos hback]
      refine ⟨⟨[], rfl, rfl⟩, ⟨[], .refl _, List.prefix_rfl, Or.inl rfl, fun _ _ => rfl⟩,
        fun _ h => absurd h (by simp), fun next h => ?_⟩
      obtain rfl := Fate.handedBack.inj h
      exact ⟨rfl, rfl, rfl⟩
    · rw [if_neg hback]
      exact close_settled ⟨{ x.slot with buffer := [] }, x.session⟩ x.slot.buffer rfl

/-- One answer is written, or a first part of it if the transport does not take it, after which the connection is
closed. -/
theorem deliver_settled (w : Worker) (peer : String) (keepAlive : Bool) (a : Answer)
    (x : Link (Recorded (Taped σ))) :
    Settled peer keepAlive (responseBytes (a.complete w.site keepAlive))
      (a.complete w.site keepAlive).buffer (calls a.marks) (w.Undelivered keepAlive a x) x.session.transport
      (w.deliver peer keepAlive a x) := by
  have hmarks : calls (a.marks ++ [.enter (.ofClass a.way), .enter .pack]) ++ [] = calls a.marks := by
    rw [List.append_nil, calls, List.filterMap_append]
    exact List.append_nil _
  obtain ⟨hslot, sent, hpassed, hpart, hall⟩ := Link.sendParts_taped
    ⟨a.complete w.site keepAlive, x.session⟩ (a.complete w.site keepAlive).response.head
    (if (a.complete w.site keepAlive).request.method == .head then []
      else (a.complete w.site keepAlive).response.body)
  unfold Worker.deliver
  simp only
  rw [← hmarks]
  refine Settled.through ?_ _
  rcases hs : Link.sendResponse ⟨a.complete w.site keepAlive, x.session⟩
    ((a.complete w.site keepAlive).request.method == .head) with ⟨f | _, y⟩
  · have hcut : w.Undelivered keepAlive a x := ⟨f, y, hs⟩
    have hs : Link.sendParts _ _ _ = _ := hs
    rw [hs] at hslot hpassed
    refine Settled.written_before hpassed hpart (Or.inr hcut) ?_ (close_settled y _ rfl)
    rintro ⟨next, hnext⟩
    exact absurd hnext (by simp [Worker.close])
  · have hs : Link.sendParts _ _ _ = _ := hs
    rw [hs] at hslot hpassed hall
    have hbuffer : (a.complete w.site keepAlive).buffer = y.slot.buffer :=
      congrArg Slot.buffer hslot.symm
    rw [hbuffer]
    exact Settled.written_before hpassed hpart (Or.inl (hall rfl)) (fun _ => hall rfl) (conclude_settled y)

/-! ## Answers -/

theorem marks_after (m : Mark) (a : Answer) : (a.after m).marks = m :: a.marks := rfl

theorem slot_after (m : Mark) (a : Answer) : (a.after m).slot = a.slot := rfl

theorem marks_documentAnswer (site : Site) (s : Slot) : (documentAnswer site s).marks = [] := by
  unfold documentAnswer
  rcases site.documents.read s.request.path with ⟨f | type, content⟩
  · rfl
  · rfl

/-- What came of serving a path is answered without calling a service. -/
theorem calls_outcomeAnswer (site : Site) (s : Slot) (o : Route.Outcome) :
    calls (outcomeAnswer site s o).marks = [] := by
  cases o with
  | notFound =>
    show calls (unroutedAnswer site s).marks = []
    unfold unroutedAnswer
    cases s.request.method
    case get =>
      rw [marks_after, marks_documentAnswer]
      rfl
    case head =>
      rw [marks_after, marks_documentAnswer]
      rfl
    all_goals rfl
  | _ => rfl

/-- The service that is called, if any, is shown the slot with the request that was read. -/
theorem calls_answer (site : Site) (s : Slot) :
    calls (answer site s).marks = [] ∨ calls (answer site s).marks = [mapResponse (·.setStatus .ok) s] := by
  unfold answer
  simp only
  split
  · unfold routedAnswer
    rcases site.registry.resolve (mapResponse (·.setStatus .ok) s).request.path with o | f
    · exact Or.inl (calls_outcomeAnswer site _ o)
    · right
      show mapResponse (·.setStatus .ok) s :: calls (outcomeAnswer site _ _).marks = _
      rw [calls_outcomeAnswer]
  · exact Or.inl rfl

/-- All services of a site leave the bytes past the request as they are. -/
def Site.LeavesRest (site : Site) : Prop :=
  ∀ path f, site.registry.resolve path = .ok f → ∀ t s, (f t s).1.buffer = s.buffer

/-- An answer to the request in a slot that changes the response only. -/
def Answer.Responds (a : Answer) (s : Slot) : Prop := a.slot = { s with response := a.slot.response }

theorem Answer.Responds.after {a : Answer} {s : Slot} (h : a.Responds s) (m : Mark) : (a.after m).Responds s := h

theorem Answer.Responds.buffer {a : Answer} {s : Slot} (h : a.Responds s) : a.slot.buffer = s.buffer := by
  rw [show a.slot = _ from h]

theorem responds_mapResponse (f : Response → Response) (marks : List Mark) (way : Status.Class) (s : Slot) :
    Answer.Responds ⟨mapResponse f s, marks, way⟩ s := rfl

theorem responds_documentAnswer (site : Site) (s : Slot) : (documentAnswer site s).Responds s := by
  unfold documentAnswer
  rcases site.documents.read s.request.path with ⟨f | type, content⟩
  · rfl
  · rfl

/-- What came of serving a path is answered by changing the response only. -/
theorem responds_outcomeAnswer (site : Site) (s : Slot) (o : Route.Outcome) : (outcomeAnswer site s o).Responds s := by
  cases o with
  | ok =>
    show (serviceAnswer s).Responds s
    unfold serviceAnswer
    simp only
    by_cases hv : s.response.status.isValid
    · rw [if_pos hv]
      rfl
    · rw [if_neg hv]
      exact responds_mapResponse _ _ _ s
  | notFound =>
    show (unroutedAnswer site s).Responds s
    unfold unroutedAnswer
    cases s.request.method
    case get => exact (responds_documentAnswer site s).after _
    case head => exact (responds_documentAnswer site s).after _
    all_goals exact responds_mapResponse _ _ _ s
  | _ => exact responds_mapResponse _ _ _ s

/-- Where services leave the bytes past the request, so does the answer. -/
theorem buffer_answer {site : Site} (hsite : site.LeavesRest) (s : Slot) :
    (answer site s).slot.buffer = s.buffer := by
  unfold answer
  simp only
  split
  · unfold routedAnswer
    rcases hf : site.registry.resolve (mapResponse (·.setStatus .ok) s).request.path with o | f
    · exact (responds_outcomeAnswer site _ o).buffer
    · exact (responds_outcomeAnswer site _ _).buffer.trans (hsite _ _ hf _ _)
  · rfl

theorem Site.IsLocal.leavesRest {site : Site} (h : site.IsLocal) : site.LeavesRest := by
  intro path f hf t s
  have hrest : f t s = ((f t s).1.withRest s.buffer s.decoder, (f t s).2) := (h path f hf).apart t s s.buffer s.decoder
  rw [hrest]
  rfl

/-- A complete answer says first in its connection field whether the connection is kept. -/
theorem connection_complete (site : Site) (keepAlive : Bool) (a : Answer) :
    (a.complete site keepAlive).response.fields.get? "Connection" =
      some (if keepAlive then "keep-alive" else "close") := by
  have hlength : Text.foldCase "Content-Length" ≠ Text.foldCase "Connection" := by decide
  have hcoding : Text.foldCase "Transfer-Encoding" ≠ Text.foldCase "Connection" := by decide
  have hallow : Text.foldCase "Allow" ≠ Text.foldCase "Connection" := by decide
  have htype : Text.foldCase "Content-Type" ≠ Text.foldCase "Connection" := by decide
  have hfields : ∀ (status : Status) (length : Nat) (h : Fields),
      (completeFields site keepAlive status length h).get? "Connection" =
        some (if keepAlive then "keep-alive" else "close") := by
    intro status length h
    have hmedia : ∀ h : Fields,
        (withMediaType Files.defaultMediaType h).get? "Connection" = h.get? "Connection" := by
      intro h
      unfold withMediaType
      split
      · rfl
      · exact Fields.get?_set_of_ne htype h _
    unfold completeFields
    simp only
    rw [Fields.get?_set_of_ne hlength, Fields.get?_remove_of_ne hcoding]
    split
    · rw [Fields.get?_set_of_ne hallow, hmedia, Fields.get?_set]
    · rw [hmedia, Fields.get?_set]
  exact hfields _ _ _

/-- Completing an answer keeps its status. -/
theorem status_complete (site : Site) (keepAlive : Bool) (a : Answer) :
    (a.complete site keepAlive).response.status = a.slot.response.status := by
  have hpage : ∀ r : Response, (withPage r).status = r.status := by
    intro r
    unfold withPage
    split <;> rfl
  unfold Answer.complete mapResponse completeResponse
  simp only
  split
  · exact hpage _
  · exact hpage _
  · rfl
  · rfl

end Settling

end Switchboard.Server
