import Switchboard.Server.Answer

/-!
Answers to requests that are alike. Answering looks at the path, at whether the method may be served and whether it
asks for a document, and at the response so far. A relation between slots that agree in these (`Likeness`) is kept by
answering if the services of the site keep it: the answers are alike, and they are completed in the same way
(`answer_like`).
-/

namespace Switchboard.Server

open Http
open Exchange (Slot)

/-- A request that no service serves is answered by its document, if that is what the method asks for. -/
theorem unroutedAnswer_cases (site : Site) (s : Slot) :
    ((s.request.method = .get ∨ s.request.method = .head) ∧
      ∃ stage, unroutedAnswer site s = (documentAnswer site s).after (.enter stage)) ∨
    (s.request.method ≠ .get ∧ s.request.method ≠ .head) ∧ unroutedAnswer site s = failWith .notFound s := by
  unfold unroutedAnswer
  cases s.request.method
  case get => exact Or.inl ⟨Or.inl rfl, .getFile, rfl⟩
  case head => exact Or.inl ⟨Or.inr rfl, .headFile, rfl⟩
  all_goals exact Or.inr ⟨⟨by simp, by simp⟩, rfl⟩

/-- A relation between slots that agree in all that answering looks at, and go on to be related when their responses
change in the same way. -/
structure Likeness (R : Slot → Slot → Prop) : Prop where
  path {s t : Slot} (h : R s t) : t.request.path = s.request.path
  dispatched {s t : Slot} (h : R s t) : t.request.method.isDispatchable = s.request.method.isDispatchable
  reads {s t : Slot} (h : R s t) :
    (t.request.method = .get ∨ t.request.method = .head) ↔ (s.request.method = .get ∨ s.request.method = .head)
  response {s t : Slot} (h : R s t) : t.response = s.response
  respond {s t : Slot} (h : R s t) (f : Response → Response) : R (mapResponse f s) (mapResponse f t)

/-- All services of a site keep a relation between slots, and return the same. -/
def Site.Keeps (site : Site) (R : Slot → Slot → Prop) : Prop :=
  ∀ path f, site.registry.resolve path = .ok f →
    ∀ table s t, R s t → R (f table s).1 (f table t).1 ∧ (f table t).2 = (f table s).2

/-- Two answers are alike: their slots are related, and they are completed in the same way. -/
structure Answer.Like (R : Slot → Slot → Prop) (a b : Answer) : Prop where
  slot : R a.slot b.slot
  way : b.way = a.way

section Like

variable {R : Slot → Slot → Prop} {site : Site} {s t : Slot}

/-- The marks of an answer do not matter. -/
theorem Answer.Like.after {a b : Answer} (h : a.Like R b) (m m' : Mark) : (a.after m).Like R (b.after m') :=
  ⟨h.slot, h.way⟩

/-- Responses that are made in the same way from the responses so far. -/
theorem mapResponse_like (hR : Likeness R) (h : R s t) (f : Response → Response) (marks marks' : List Mark)
    (way : Status.Class) : Answer.Like R ⟨mapResponse f s, marks, way⟩ ⟨mapResponse f t, marks', way⟩ :=
  ⟨hR.respond h f, rfl⟩

theorem failWith_like (hR : Likeness R) (h : R s t) (status : Status) :
    (failWith status s).Like R (failWith status t) :=
  mapResponse_like hR h _ [] [] (failureWay status)

theorem documentAnswer_like (hR : Likeness R) (h : R s t) (site : Site) :
    (documentAnswer site s).Like R (documentAnswer site t) := by
  unfold documentAnswer
  rw [hR.path h]
  rcases site.documents.read s.request.path with ⟨f | type, content⟩
  · exact failWith_like hR (hR.respond h _) (fileStatus f)
  · exact mapResponse_like hR (hR.respond h _) _ [] [] .success

theorem unroutedAnswer_like (hR : Likeness R) (h : R s t) (site : Site) :
    (unroutedAnswer site s).Like R (unroutedAnswer site t) := by
  rcases unroutedAnswer_cases site s with ⟨hs, stage, hstage⟩ | ⟨hs, hnone⟩
  · rcases unroutedAnswer_cases site t with ⟨-, stage', hstage'⟩ | ⟨ht, -⟩
    · rw [hstage, hstage']
      exact (documentAnswer_like hR h site).after _ _
    · exact absurd ((hR.reads h).2 hs) (not_or.2 ht)
  · rcases unroutedAnswer_cases site t with ⟨ht, -⟩ | ⟨-, hnone'⟩
    · exact absurd ((hR.reads h).1 ht) (not_or.2 hs)
    · rw [hnone, hnone']
      exact failWith_like hR h .notFound

theorem serviceAnswer_like (hR : Likeness R) (h : R s t) : (serviceAnswer s).Like R (serviceAnswer t) := by
  unfold serviceAnswer
  simp only [hR.response h]
  split
  · exact ⟨h, rfl⟩
  · exact mapResponse_like hR h _ [] [] _

theorem outcomeAnswer_like (hR : Likeness R) (h : R s t) (site : Site) (o : Route.Outcome) :
    (outcomeAnswer site s o).Like R (outcomeAnswer site t o) := by
  cases o with
  | ok => exact serviceAnswer_like hR h
  | notFound => exact unroutedAnswer_like hR h site
  | unsupported => exact failWith_like hR h .notImplemented
  | serviceError code => exact failWith_like hR h .internalServerError
  | noSuchLibrary => exact failWith_like hR h .internalServerError

theorem routedAnswer_like (hR : Likeness R) (hsite : site.Keeps R) (h : R s t) :
    (routedAnswer site s).Like R (routedAnswer site t) := by
  unfold routedAnswer
  rw [hR.path h]
  rcases hr : site.registry.resolve s.request.path with o | f
  · exact outcomeAnswer_like hR h site o
  · obtain ⟨hleft, hcode⟩ := hsite _ f hr site.registry.table s t h
    simp only [hcode]
    exact (outcomeAnswer_like hR hleft site _).after _ _

/-- Requests that are alike get answers that are alike. -/
theorem answer_like (hR : Likeness R) (hsite : site.Keeps R) (h : R s t) :
    (answer site s).Like R (answer site t) := by
  have hok := hR.respond h (·.setStatus .ok)
  unfold answer
  simp only [hR.dispatched hok]
  split
  · exact routedAnswer_like hR hsite hok
  · exact mapResponse_like hR hok _ [] [] .clientError

end Like

end Switchboard.Server
