import Switchboard.Proofs.Files.Reading
import Switchboard.Proofs.Http.Framing
import Switchboard.Proofs.Route.Resolution
import Switchboard.Proofs.Server.Completion

/-!
What is answered to a request. `Told` lists all cases: the method, what the path is resolved to, what the service
returns, and what becomes of the document. In each it gives a status and a body; every request falls into one case
(`exists_told`), and the answer has that status and that body (`answer_of_told`). A body that is empty is then replaced
by the page of the status if this is one of the errors (`complete_of_tells`). The fields of the answer are not the subject
here, but for the media type of a page.
-/

namespace Switchboard.Server

open Http
open Exchange
open Readiness (Mask)

/-- The status and the body with which a request is answered, by what becomes of it. -/
inductive Told (site : Site) (s : Slot) : Status → Bytes → Prop where
  /-- The method may not be served. -/
  | notAllowed (h : s.request.method.isDispatchable = false) : Told site s .methodNotAllowed []
  /-- The route is not native. -/
  | unsupported (h : s.request.method.isDispatchable = true)
    (hpath : site.registry.Resolves s.request.path (.error .unsupported)) : Told site s .notImplemented []
  /-- The library of the route cannot be had. -/
  | noLibrary (h : s.request.method.isDispatchable = true)
    (hpath : site.registry.Resolves s.request.path (.error .noSuchLibrary)) :
    Told site s .internalServerError []
  /-- The service fails. -/
  | failed {f : Route.Service} {left : Slot} {code : Int} (h : s.request.method.isDispatchable = true)
    (hpath : site.registry.Resolves s.request.path (.ok f))
    (hf : f site.registry.table (mapResponse (·.setStatus .ok) s) = (left, code)) (hcode : code ≠ 0) :
    Told site s .internalServerError []
  /-- The service succeeds; its status counts if it is in the table. -/
  | served {f : Route.Service} {left : Slot} (h : s.request.method.isDispatchable = true)
    (hpath : site.registry.Resolves s.request.path (.ok f))
    (hf : f site.registry.table (mapResponse (·.setStatus .ok) s) = (left, 0)) :
    Told site s (if left.response.status.isValid then left.response.status else .ok) left.response.body
  /-- There is no service, and the document is read to its end. -/
  | document {content : Bytes} (h : s.request.method = .get ∨ s.request.method = .head)
    (hpath : site.registry.Resolves s.request.path (.error .notFound))
    (hfile : site.documents.Holds s.request.path content) : Told site s .ok content
  /-- There is neither a service nor a document. -/
  | noDocument (h : s.request.method = .get ∨ s.request.method = .head)
    (hpath : site.registry.Resolves s.request.path (.error .notFound))
    (hfile : site.documents.Missing s.request.path) : Told site s .notFound []
  /-- There is no service, and the document may not be read. -/
  | forbidden (h : s.request.method = .get ∨ s.request.method = .head)
    (hpath : site.registry.Resolves s.request.path (.error .notFound))
    (hfile : site.documents.Forbidden s.request.path) : Told site s .forbidden []
  /-- There is no service, and reading the document fails, be it after a part of it. -/
  | unreadable (h : s.request.method = .get ∨ s.request.method = .head)
    (hpath : site.registry.Resolves s.request.path (.error .notFound))
    (hfile : site.documents.Unreadable s.request.path) : Told site s .internalServerError []
  /-- There is no service, and the method asks for no document. -/
  | noResource (h : s.request.method.isDispatchable = true)
    (hmethod : s.request.method ≠ .get ∧ s.request.method ≠ .head)
    (hpath : site.registry.Resolves s.request.path (.error .notFound)) : Told site s .notFound []

section Telling

variable {site : Site} {s : Slot} {status : Status} {body : Bytes}

theorem isDispatchable_of_reads (h : s.request.method = .get ∨ s.request.method = .head) :
    s.request.method.isDispatchable = true := by
  rcases h with h | h <;> rw [h] <;> rfl

/-- Looking for a service comes to nothing else but these. -/
theorem error_of_resolves {path : String} {o : Route.Outcome} (h : site.registry.Resolves path (.error o)) :
    o = .notFound ∨ o = .unsupported ∨ o = .noSuchLibrary := by
  cases h with
  | noRoute => exact Or.inl rfl
  | unsupported => exact Or.inr (Or.inl rfl)
  | noSymbol => exact Or.inl rfl
  | noLibrary => exact Or.inr (Or.inr rfl)
  | noFunction => exact Or.inl rfl

/-- Every request is told something. -/
theorem exists_told (site : Site) (s : Slot) : ∃ status body, Told site s status body := by
  rcases h : s.request.method.isDispatchable
  · exact ⟨_, _, .notAllowed h⟩
  have hpath := Route.Registry.resolves_resolve site.registry s.request.path
  rcases hr : site.registry.resolve s.request.path with o | f <;> rw [hr] at hpath
  · rcases error_of_resolves hpath with rfl | rfl | rfl
    · by_cases hreads : s.request.method = .get ∨ s.request.method = .head
      · rcases site.documents.read_cases s.request.path with
          ⟨-, content, -, hfile⟩ | ⟨-, hfile⟩ | ⟨-, hfile⟩ | ⟨-, -, hfile⟩
        · exact ⟨_, _, .document hreads hpath hfile⟩
        · exact ⟨_, _, .noDocument hreads hpath hfile⟩
        · exact ⟨_, _, .forbidden hreads hpath hfile⟩
        · exact ⟨_, _, .unreadable hreads hpath hfile⟩
      · exact ⟨_, _, .noResource h (not_or.1 hreads) hpath⟩
    · exact ⟨_, _, .unsupported h hpath⟩
    · exact ⟨_, _, .noLibrary h hpath⟩
  · rcases hf : f site.registry.table (mapResponse (·.setStatus .ok) s) with ⟨left, code⟩
    by_cases hcode : code = 0
    · rw [hcode] at hf
      exact ⟨_, _, .served h hpath hf⟩
    · exact ⟨_, _, .failed h hpath hf hcode⟩

/-! ## The answer -/

/-- An answer has this status and this body, and is completed as the status says. -/
structure Answer.Tells (a : Answer) (st : Status) (content : Bytes) : Prop where
  status : a.slot.response.status = st
  body : a.slot.response.body = content
  way : a.way = st.classify

theorem Answer.Tells.after {a : Answer} (h : a.Tells status body) (m : Mark) : (a.after m).Tells status body :=
  ⟨h.status, h.body, h.way⟩

/-- Giving up tells the status of the failure and no body. -/
theorem tells_failWith (h : failureWay status = status.classify) (s : Slot) :
    (failWith status s).Tells status [] := ⟨rfl, rfl, h⟩

/-- What a service leaves that succeeds is told. A status that is none is completed as a success. -/
theorem tells_serviceAnswer (left : Slot) :
    (serviceAnswer left).Tells
      (if left.response.status.isValid then left.response.status else .ok) left.response.body := by
  have hway : (serviceAnswer left).way = left.response.status.classify := rfl
  by_cases hv : left.response.status.isValid = true
  · refine ⟨?_, ?_, ?_⟩
    · rw [response_serviceAnswer, if_pos hv, if_pos hv]
    · rw [response_serviceAnswer, if_pos hv]
    · rw [hway, if_pos hv]
  · refine ⟨?_, ?_, ?_⟩
    · rw [response_serviceAnswer, if_neg hv, if_neg hv]
      rfl
    · rw [response_serviceAnswer, if_neg hv]
      rfl
    · rw [hway, if_neg hv, Status.classify, if_neg hv]
      decide

/-- When the document cannot be read, what was read of it is dropped. -/
theorem documentAnswer_of_error {fault : Files.Fault} (h : (site.documents.read s.request.path).1 = .error fault) :
    documentAnswer site s = failWith (fileStatus fault) s := by
  unfold documentAnswer
  rcases hread : site.documents.read s.request.path with ⟨r, content⟩
  rw [hread] at h
  obtain rfl : r = .error fault := h
  rfl

/-- A document is told after what is in the body already. -/
theorem tells_document {type : String} {content : Bytes} (hstatus : s.response.status = .ok)
    (hbody : s.response.body = []) (h : site.documents.read s.request.path = (.ok type, content)) :
    (documentAnswer site s).Tells .ok content := by
  unfold documentAnswer
  rw [h]
  refine ⟨hstatus, ?_, rfl⟩
  show s.response.body ++ content = content
  rw [hbody]
  rfl

/-- A request in a slot without a body in its response is answered as it is told. -/
theorem answer_of_told (hempty : s.response.body = []) (h : Told site s status body) :
    (answer site s).Tells status body := by
  have hunrouted : s.request.method = .get ∨ s.request.method = .head →
      site.registry.Resolves s.request.path (.error .notFound) →
      ∃ stage, answer site s = (documentAnswer site (mapResponse (·.setStatus .ok) s)).after (.enter stage) := by
    intro hreads hpath
    rw [answer_of_unresolved (isDispatchable_of_reads hreads) (Route.Registry.resolves_iff.1 hpath)]
    rcases unroutedAnswer_cases site (mapResponse (·.setStatus .ok) s) with ⟨-, h⟩ | ⟨hnot, -⟩
    · exact h
    · exact absurd hreads (not_or.2 hnot)
  have hfault : ∀ fault st, s.request.method = .get ∨ s.request.method = .head →
      site.registry.Resolves s.request.path (.error .notFound) →
      (site.documents.read s.request.path).1 = .error fault → fileStatus fault = st →
      failureWay st = st.classify → (answer site s).Tells st [] := by
    rintro fault - hreads hpath hfile rfl hway
    obtain ⟨stage, h⟩ := hunrouted hreads hpath
    have hfile : (site.documents.read (mapResponse (·.setStatus .ok) s).request.path).1 = .error fault := hfile
    rw [h, documentAnswer_of_error hfile]
    exact (tells_failWith hway _).after _
  cases h with
  | notAllowed h =>
    rw [answer_of_refused site (by rw [h]; exact Bool.false_ne_true)]
    exact ⟨rfl, hempty, rfl⟩
  | unsupported h hpath =>
    rw [answer_of_unresolved h (Route.Registry.resolves_iff.1 hpath)]
    exact tells_failWith (by decide) _
  | noLibrary h hpath =>
    rw [answer_of_unresolved h (Route.Registry.resolves_iff.1 hpath)]
    exact tells_failWith (by decide) _
  | failed h hpath hf hcode =>
    have houtcome : Route.Outcome.ofCode _ = .serviceError _ := if_neg hcode
    rw [answer_of_called h (Route.Registry.resolves_iff.1 hpath) hf, houtcome]
    exact (tells_failWith (by decide) _).after _
  | served h hpath hf =>
    rw [answer_of_called h (Route.Registry.resolves_iff.1 hpath) hf]
    exact (tells_serviceAnswer _).after _
  | document hreads hpath hfile =>
    obtain ⟨stage, h⟩ := hunrouted hreads hpath
    obtain ⟨type, hread⟩ := hfile.read
    rw [h]
    exact (tells_document (s := mapResponse (·.setStatus .ok) s) rfl hempty hread).after _
  | noDocument hreads hpath hfile => exact hfault _ _ hreads hpath hfile.read rfl (by decide)
  | forbidden hreads hpath hfile => exact hfault _ _ hreads hpath hfile.read rfl (by decide)
  | unreadable hreads hpath hfile =>
    obtain ⟨detail, hread⟩ := hfile.read
    exact hfault _ _ hreads hpath hread rfl (by decide)
  | noResource h hmethod hpath =>
    rw [answer_of_unresolved h (Route.Registry.resolves_iff.1 hpath)]
    rcases unroutedAnswer_cases site (mapResponse (·.setStatus .ok) s) with ⟨hreads, -⟩ | ⟨-, h⟩
    · exact absurd hreads (not_or.2 hmethod)
    · show (unroutedAnswer site _).Tells _ _
      rw [h]
      exact tells_failWith (by decide) _

/-- A request is told one thing only. -/
theorem Told.unique {status' : Status} {body' : Bytes} (hempty : s.response.body = [])
    (h : Told site s status body) (h' : Told site s status' body') : status' = status ∧ body' = body := by
  have ha := answer_of_told hempty h
  have ha' := answer_of_told hempty h'
  exact ⟨ha'.status.symm.trans ha.status, ha'.body.symm.trans ha.body⟩

end Telling

/-! ## The final response -/

/-- A status that is completed as an error. -/
def IsError (status : Status) : Prop := status.classify = .clientError ∨ status.classify = .serverError

section Final

variable {site : Site} {keepAlive : Bool} {a : Answer} {status : Status} {content : Bytes}

/-- Completing keeps a media type that is there. -/
theorem getAll_contentType_completeFields (status : Status) (length : Nat) {h : Fields}
    (hne : h.getAll "Content-Type" ≠ []) :
    (completeFields site keepAlive status length h).getAll "Content-Type" = h.getAll "Content-Type" := by
  have hlength : Text.foldCase "Content-Length" ≠ Text.foldCase "Content-Type" := by decide
  have hcoding : Text.foldCase "Transfer-Encoding" ≠ Text.foldCase "Content-Type" := by decide
  have hallow : Text.foldCase "Allow" ≠ Text.foldCase "Content-Type" := by decide
  have hkeep : Text.foldCase "Connection" ≠ Text.foldCase "Content-Type" := by decide
  have hdate : Text.foldCase "Date" ≠ Text.foldCase "Content-Type" := by decide
  have hserver : Text.foldCase "Server" ≠ Text.foldCase "Content-Type" := by decide
  have hmedia : ∀ h : Fields, h.getAll "Content-Type" ≠ [] → withMediaType Files.defaultMediaType h = h :=
    fun h hne => if_pos (Fields.contains_iff.2 hne)
  have hset : (((h.set "Server" site.settings.serverName).set "Date" site.date).set "Connection"
      (if keepAlive then "keep-alive" else "close")).getAll "Content-Type" = h.getAll "Content-Type" := by
    rw [Fields.getAll_set hkeep, Fields.getAll_set hdate, Fields.getAll_set hserver]
  unfold completeFields
  simp only
  rw [Fields.getAll_set hlength, Fields.getAll_remove hcoding, hmedia _ (by rw [hset]; exact hne)]
  split
  · rw [Fields.getAll_set hallow, hset]
  · exact hset

/-- An error without a body gets the page of its status, as a page. -/
theorem paged_of_error (herror : a.way = .clientError ∨ a.way = .serverError)
    (hbody : a.slot.response.body = []) :
    a.paged = { a.slot.response with
      body := errorPage a.slot.response.status
      fields := a.slot.response.fields.set "Content-Type" "text/html" } := by
  have hpage : a.paged = withPage a.slot.response := by
    unfold Answer.paged
    rcases herror with h | h <;> rw [h]
  rw [hpage, withPage, if_pos (by rw [hbody]; rfl)]

theorem paged_of_success (h : ¬ (a.way = .clientError ∨ a.way = .serverError)) :
    a.paged = a.slot.response := by
  unfold Answer.paged
  cases hway : a.way
  case clientError => exact absurd (Or.inl hway) h
  case serverError => exact absurd (Or.inr hway) h
  all_goals rfl

/-- A complete answer has the status and the body that are told, but for an error without a body, which gets the page
of its status. -/
theorem complete_of_tells (site : Site) (keepAlive : Bool) (h : a.Tells status content) :
    (a.complete site keepAlive).response.status = status ∧
      (content = [] ∧ IsError status →
        (a.complete site keepAlive).response.body = errorPage status ∧
          (a.complete site keepAlive).response.fields.get? "Content-Type" = some "text/html") ∧
      (¬ (content = [] ∧ IsError status) → (a.complete site keepAlive).response.body = content) := by
  have hiff : IsError status ↔ a.way = .clientError ∨ a.way = .serverError := by
    rw [h.way]
    exact Iff.rfl
  refine ⟨(status_complete site keepAlive a).trans h.status, ?_, ?_⟩
  · rintro ⟨hnil, herror⟩
    have hpaged := paged_of_error (hiff.1 herror) (h.body.trans hnil)
    have htype : a.paged.fields.get? "Content-Type" = some "text/html" := by
      rw [hpaged]
      exact Fields.get?_set _ _ _
    refine ⟨?_, ?_⟩
    · show a.paged.body = _
      rw [hpaged, ← h.status]
    · rw [Fields.get?_eq_head?] at htype ⊢
      have hne : a.paged.fields.getAll "Content-Type" ≠ [] := by
        intro hnil
        rw [hnil] at htype
        exact absurd htype (by simp)
      show ((completeFields site keepAlive _ _ a.paged.fields).getAll "Content-Type").head? = _
      rw [getAll_contentType_completeFields _ _ hne, htype]
  · intro hplain
    show a.paged.body = content
    by_cases herror : IsError status
    · have hne : a.slot.response.body ≠ [] := fun hnil => hplain ⟨h.body.symm.trans hnil, herror⟩
      rcases paged_cases a with hp | ⟨hnil, -⟩
      · rw [hp, h.body]
      · exact absurd hnil hne
    · rw [paged_of_success fun hway => herror (hiff.2 hway), h.body]

end Final

section Cycle

variable {σ : Type} [Transport σ] {w : Worker} {slot : Slot} {conn : Connection (Recorded (Taped σ))}
  {mask : Mask} {keepAlive : Bool} {x : Link (Recorded (Taped σ))}

/-- What a cycle writes for a request that it has read is told by one case of the table: the final response has its
status, and its body, but for an error without a body, which is the page of its status, as a page. -/
theorem outcome_of_cycle (hread : w.intake slot conn mask = (.read keepAlive, x)) :
    let final := w.final keepAlive x.slot
    (∃ got goAhead head rest,
      Obeys w slot conn mask got goAhead (responseBytes ((answer w.site x.slot).complete w.site keepAlive)) ∧
      Complete (w.opening slot conn).slot (conn.pending ++ got) head x.slot.request rest) ∧
    ∃ status body, Told w.site x.slot status body ∧
      (∀ status' body', Told w.site x.slot status' body' → status' = status ∧ body' = body) ∧
      final.status = status ∧
      (body = [] ∧ IsError status →
        final.body = errorPage status ∧ final.fields.get? "Content-Type" = some "text/html") ∧
      (¬ (body = [] ∧ IsError status) → final.body = body) := by
  intro final
  have hempty : x.slot.response.body = [] := by
    have hcleared : (w.intake slot conn mask).2.slot.response = .cleared :=
      (receives_intake w slot conn mask).response
    rw [hread] at hcleared
    exact congrArg Response.body hcleared
  obtain ⟨got, goAhead, head, rest, hobeys, hcomplete, -⟩ := obeys_of_intake hread
  obtain ⟨status, body, htold⟩ := exists_told w.site x.slot
  obtain ⟨hstatus, hpage, hbody⟩ :=
    complete_of_tells w.site keepAlive (answer_of_told hempty htold)
  exact ⟨⟨got, goAhead, head, rest, hobeys, hcomplete⟩, status, body, htold,
    fun _ _ h => htold.unique hempty h, hstatus, hpage, hbody⟩

end Cycle

/-- A worker whose routes ask for a library that there is not. -/
def bareWorker : Worker := echoWorker.withLibraries {}

/-- Where the library of a route cannot be had, the page of an internal error is the answer. -/
theorem missing_library_answered :
    bareWorker.intake (.new {}) noContentConnection .read = (.read true, noContentLink) ∧
    (bareWorker.final true noContentLink.slot).status = .internalServerError ∧
    (bareWorker.final true noContentLink.slot).body = errorPage .internalServerError ∧
    (bareWorker.final true noContentLink.slot).fields.get? "Content-Type" = some "text/html" := by
  have hread : bareWorker.intake (.new {}) noContentConnection .read = (.read true, noContentLink) :=
    Prod.ext (by decide +kernel) rfl
  have hpath : noContentLink.slot.request.path = "/echo" := by decide +kernel
  have htold : Told bareWorker.site noContentLink.slot .internalServerError [] := by
    refine .noLibrary (by decide +kernel) ?_
    rw [hpath]
    exact Route.Registry.resolves_iff.2 rfl
  obtain ⟨-, status, body, -, hunique, hstatus, hpage, -⟩ := outcome_of_cycle hread
  obtain ⟨rfl, rfl⟩ := hunique _ _ htold
  obtain ⟨hbody, htype⟩ := hpage ⟨rfl, Or.inr (by decide)⟩
  exact ⟨hread, hstatus, hbody, htype⟩

end Switchboard.Server
