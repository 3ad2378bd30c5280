import Switchboard.Proofs.Exchange.Responses
import Switchboard.Proofs.Server.Protocol

/-!
Whether server and client agree on where a response ends. A complete answer declares the length of its body and no
coding (`isFramed_complete`), and it can be written if what the service left can be (`writable_complete`). The server
writes the body for every status, while the client reads none after some, and takes an interim response for no final
one. So a client gets the answer of a service that succeeds, and leaves exactly what follows it, if and only if the
answer ends alike for both (`service_answer_got_iff`); a body of an answer without content is left unread
(`noContent_with_body_not_got`).
-/

namespace Switchboard.Server

open Http
open Exchange
open Readiness (Mask)

/-! ## Complete answers -/

/-- A text that can be the value of a field: its only control characters are tabs. -/
def IsFieldText (text : String) : Prop := ∀ c ∈ text.toList, Text.isControl c = true → c = '\t'

/-- The texts of a site that every answer carries can be values of fields. -/
structure Site.IsPresentable (site : Site) : Prop where
  name : IsFieldText site.settings.serverName
  date : IsFieldText site.date

section Complete

variable {site : Site} {keepAlive : Bool}

theorem isFieldText_of_all {text : String} (h : text.toList.all (fun c => !Text.isControl c) = true) :
    IsFieldText text := by
  intro c hc hcontrol
  have := List.all_eq_true.1 h c hc
  rw [hcontrol] at this
  exact absurd this (by simp)

theorem isFieldText_decimal (n : Nat) : IsFieldText (Text.decimal n) := by
  intro c hc hcontrol
  have hdigit := Text.isDigit_iff.1 (Text.isDigit_of_mem_decimal hc)
  rw [Text.isControl, Bool.or_eq_true, decide_eq_true_eq, beq_iff_eq] at hcontrol
  omega

theorem writable_withMediaType {h : Fields} {type : String} (htype : IsFieldText type)
    (hw : ∀ f ∈ h.toList, f.Writable) : ∀ f ∈ (withMediaType type h).toList, f.Writable := by
  unfold withMediaType
  split
  · exact hw
  · exact Fields.writable_set hw (by decide) (by decide) htype

/-- The fields of a complete answer can be written if those of the answer can be. -/
theorem writable_completeFields (hsite : site.IsPresentable) (status : Status) (length : Nat) {h : Fields}
    (hw : ∀ f ∈ h.toList, f.Writable) :
    ∀ f ∈ (completeFields site keepAlive status length h).toList, f.Writable := by
  have hconnection : IsFieldText (if keepAlive then "keep-alive" else "close") := by
    apply isFieldText_of_all
    cases keepAlive <;> decide
  have hserver := Fields.writable_set hw (by decide : "Server".toList ≠ []) (by decide) hsite.name
  have hdate := Fields.writable_set hserver (by decide : "Date".toList ≠ []) (by decide) hsite.date
  have hkeep := Fields.writable_set hdate (by decide : "Connection".toList ≠ []) (by decide) hconnection
  have hmedia : IsFieldText Files.defaultMediaType := isFieldText_of_all (by decide)
  have hmethods : IsFieldText allowedMethods := isFieldText_of_all (by decide)
  have htype := writable_withMediaType hmedia hkeep
  have hallow := Fields.writable_set htype (by decide : "Allow".toList ≠ []) (by decide) hmethods
  have hall : ∀ h' : Fields, (∀ f ∈ h'.toList, f.Writable) →
      ∀ f ∈ ((h'.remove "Transfer-Encoding").set "Content-Length" (Text.decimal length)).toList,
        f.Writable := by
    intro h' hw'
    refine Fields.writable_set ?_ (by decide) (by decide) (isFieldText_decimal length)
    intro f hf
    exact hw' f (List.mem_filter.1 hf).1
  unfold completeFields
  simp only
  split
  · exact hall _ hallow
  · exact hall _ htype

/-- A complete answer declares the length of its body, and no coding. -/
theorem isFramed_complete (site : Site) (keepAlive : Bool) (a : Answer) :
    (a.complete site keepAlive).response.IsFramed := by
  have hne : Text.foldCase "Content-Length" ≠ Text.foldCase "Transfer-Encoding" := by decide
  refine ⟨Fields.get?_set _ _ _, ?_⟩
  show Fields.getAll (completeFields site keepAlive _ _ _) "Transfer-Encoding" = []
  unfold completeFields
  simp only
  rw [Fields.getAll_set hne, Fields.getAll_remove_self]

/-- The response of an answer with the page that its way of completion asks for. -/
def Answer.paged (a : Answer) : Response :=
  match a.way with
  | .clientError | .serverError => withPage a.slot.response
  | .success | .redirection => a.slot.response

theorem response_complete (site : Site) (keepAlive : Bool) (a : Answer) :
    (a.complete site keepAlive).response =
      completeResponse site keepAlive a.slot.request.version a.paged := rfl

/-- A page is put in the place of an empty body only. -/
theorem paged_cases (a : Answer) :
    a.paged = a.slot.response ∨ a.slot.response.body = [] ∧ a.paged =
      { a.slot.response with
        body := errorPage a.slot.response.status
        fields := a.slot.response.fields.set "Content-Type" "text/html" } := by
  have hpage : ∀ r : Response, withPage r = r ∨ r.body = [] ∧
      withPage r = { r with body := errorPage r.status, fields := r.fields.set "Content-Type" "text/html" } := by
    intro r
    unfold withPage
    split
    next hempty => exact Or.inr ⟨List.isEmpty_iff.1 hempty, rfl⟩
    next => exact Or.inl rfl
  unfold Answer.paged
  split
  · exact hpage _
  · exact hpage _
  · exact Or.inl rfl
  · exact Or.inl rfl

/-- A body is kept. -/
theorem body_complete {a : Answer} (h : a.slot.response.body ≠ []) :
    (a.complete site keepAlive).response.body = a.slot.response.body := by
  show a.paged.body = _
  rcases paged_cases a with hp | ⟨hnil, -⟩
  · rw [hp]
  · exact absurd hnil h

/-- A complete answer can be written if the answer can be. -/
theorem writable_complete {a : Answer} (hsite : site.IsPresentable) (ha : a.slot.response.Writable) :
    (a.complete site keepAlive).response.Writable := by
  have hpaged : a.paged.Writable := by
    rcases paged_cases a with hp | ⟨-, hp⟩ <;> rw [hp]
    · exact ha
    · refine ⟨ha.status, ha.reason, ?_⟩
      exact Fields.writable_set ha.fields (by decide) (by decide) (isFieldText_of_all (by decide))
  rw [response_complete]
  exact ⟨hpaged.status, hpaged.reason, writable_completeFields hsite _ _ hpaged.fields⟩

end Complete

/-! ## Answers of services -/

/-- A service that is called is answered by what came of it and what it has left. -/
theorem answer_of_called {site : Site} {s left : Slot} {f : Route.Service} {code : Int}
    (hdispatched : s.request.method.isDispatchable = true) (hf : site.registry.resolve s.request.path = .ok f)
    (hleft : f site.registry.table (mapResponse (·.setStatus .ok) s) = (left, code)) :
    answer site s =
      (outcomeAnswer site left (.ofCode code)).after (.call (mapResponse (·.setStatus .ok) s)) := by
  have hdispatched : (mapResponse (·.setStatus .ok) s).request.method.isDispatchable = true := hdispatched
  have hresolve : site.registry.resolve (mapResponse (·.setStatus .ok) s).request.path = .ok f := hf
  unfold answer
  simp only
  rw [if_pos hdispatched]
  unfold routedAnswer
  rw [hresolve]
  simp only [hleft]

/-- Where no service is found, the request is answered by what came of looking for one. -/
theorem answer_of_unresolved {site : Site} {s : Slot} {o : Route.Outcome}
    (hdispatched : s.request.method.isDispatchable = true) (ho : site.registry.resolve s.request.path = .error o) :
    answer site s = outcomeAnswer site (mapResponse (·.setStatus .ok) s) o := by
  have hdispatched : (mapResponse (·.setStatus .ok) s).request.method.isDispatchable = true := hdispatched
  have hresolve : site.registry.resolve (mapResponse (·.setStatus .ok) s).request.path = .error o := ho
  unfold answer
  simp only
  rw [if_pos hdispatched]
  unfold routedAnswer
  rw [hresolve]

/-- A method that may not be served is refused. -/
theorem answer_of_refused (site : Site) {s : Slot} (h : ¬ s.request.method.isDispatchable = true) :
    answer site s = ⟨mapResponse (·.setStatus .methodNotAllowed) (mapResponse (·.setStatus .ok) s), [], .clientError⟩ :=
  if_neg h

/-- A service succeeds on the request in the slot `s` and leaves the slot `left`, with a reason and fields that can be
written. The status and the body are its own choice. -/
structure Served (site : Site) (s left : Slot) : Prop where
  dispatched : s.request.method.isDispatchable = true
  called : ∃ f, site.registry.resolve s.request.path = .ok f ∧
    f site.registry.table (mapResponse (·.setStatus .ok) s) = (left, 0)
  method : left.request.method = s.request.method
  reason : ∀ reason, left.response.customReason = some reason → '\r' ∉ reason.toList
  fields : ∀ f ∈ left.response.fields.toList, f.Writable

section Served

variable {site : Site} {s left : Slot}

/-- What a service that succeeds has left is the answer. -/
theorem answer_of_served (h : Served site s left) :
    answer site s = (serviceAnswer left).after (.call (mapResponse (·.setStatus .ok) s)) := by
  obtain ⟨f, hf, hleft⟩ := h.called
  rw [answer_of_called h.dispatched hf hleft]
  rfl

/-- A status outside the table is answered as success, the others as they are. -/
theorem response_serviceAnswer (left : Slot) :
    (serviceAnswer left).slot = { left with
      response := if left.response.status.isValid then left.response else left.response.setStatus .ok } := by
  unfold serviceAnswer
  simp only
  split
  · rfl
  · rfl

/-- The answer of a service can be written, has its status or that of success, and its body. -/
theorem answer_served (h : Served site s left) :
    (answer site s).slot.response.Writable ∧
      (answer site s).slot.request.method = s.request.method ∧
      (answer site s).slot.response.status =
        (if left.response.status.isValid then left.response.status else .ok) ∧
      (answer site s).slot.response.body = left.response.body := by
  rw [answer_of_served h, slot_after, response_serviceAnswer]
  by_cases hv : left.response.status.isValid = true
  · simp only [if_pos hv]
    have hcode := Status.code_lt_of_isValid hv
    exact ⟨⟨by omega, h.reason, h.fields⟩, h.method, trivial, trivial⟩
  · simp only [if_neg hv]
    have hcode : Status.ok.code < 1000 := by decide
    exact ⟨⟨hcode, fun _ hr => absurd hr (by simp [Response.setStatus]), h.fields⟩, h.method, rfl, rfl⟩

end Served

/-! ## Agreement -/

/-- The final response to the request in a slot. -/
def Worker.final (w : Worker) (keepAlive : Bool) (s : Slot) : Response :=
  ((answer w.site s).complete w.site keepAlive).response

section Agreement

variable {σ : Type} [Transport σ] {w : Worker} {slot left : Slot} {conn : Connection (Recorded (Taped σ))}
  {mask : Mask} {keepAlive : Bool} {x : Link (Recorded (Taped σ))}

/-- A service is asked with a request that was read, and succeeds. Its answer is what the cycle writes, with the status
and the body that the service has chosen; and a client that is sent the answer gets it and leaves what follows it, if
and only if the answer ends alike for both sides. -/
theorem service_answer_got_iff (hread : w.intake slot conn mask = (.read keepAlive, x))
    (hserved : Served w.site x.slot left) (hsite : w.site.IsPresentable) :
    let toHead := x.slot.request.method == .head
    let final := w.final keepAlive x.slot
    (∃ got goAhead, Obeys w slot conn mask got goAhead (sentBytes toHead final)) ∧
      final.status = (if left.response.status.isValid then left.response.status else .ok) ∧
      (left.response.body ≠ [] → final.body = left.response.body) ∧
      (final.fields.size ≤ Head.maxFields →
        ∀ (c : Client Script) (more : Bytes), c.lastMethod = x.slot.request.method →
          Holds c.link.slot.limits final → c.link.IsSteady →
          c.link.unread = sentBytes toHead final ++ more →
            (c.Gets final (if toHead then [] else final.body) more ↔ EndsAlike toHead final)) := by
  intro toHead final
  obtain ⟨hwritable, hmethod, hstatus, hbody⟩ := answer_served hserved
  refine ⟨?_, ?_, ?_, ?_⟩
  · obtain ⟨got, goAhead, -, -, hobeys, -, -⟩ := obeys_of_intake hread
    have hbytes : responseBytes ((answer w.site x.slot).complete w.site keepAlive) =
        sentBytes toHead final := by
      show final.head ++ (if (answer w.site x.slot).slot.request.method == .head then [] else final.body) = _
      rw [hmethod]
      rfl
    rw [hbytes] at hobeys
    exact ⟨got, goAhead, hobeys⟩
  · rw [← hstatus]
    exact status_complete _ _ _
  · intro hne
    rw [← hbody] at hne
    exact (body_complete hne).trans hbody
  · intro hcount c more hlast hholds hsteady hunread
    have htoHead : toHead = (c.lastMethod == .head) := by rw [hlast]
    rw [htoHead] at hunread ⊢
    exact gets_iff (writable_complete hsite hwritable) (isFramed_complete _ _ _) hcount hholds hsteady hunread

end Agreement

/-- A service that tells that there is no content, and gives some. -/
def noContentService : Route.Service :=
  Route.Canned.service { status := some 204, body := some (Text.utf8 "hello") }

/-- A worker with that service. -/
def noContentWorker : Worker where
  site :=
    { echoWorker.site with
      registry := ⟨echoWorker.site.registry.table, { known := [("demo", [("echo", noContentService)])] }⟩ }

/-- A connection on which the service is asked for. -/
def noContentConnection : Connection (Recorded (Taped Script)) where
  transport := { inner := { inner := { deliveries := [.bytes (Text.utf8 "GET /echo HTTP/1.1\r\n\r\n")] } } }
  peer := "127.0.0.1:4711"

/-- What reading on the connection comes to. -/
def noContentLink : Link (Recorded (Taped Script)) :=
  (noContentWorker.intake (.new {}) noContentConnection .read).2

/-- What the service leaves there. -/
def noContentLeft : Slot :=
  (noContentService noContentWorker.site.registry.table
    (mapResponse (·.setStatus .ok) noContentLink.slot)).1

/-- The answer of the service there. -/
def noContentAnswer : Response := noContentWorker.final true noContentLink.slot

/-- A client that is sent the answer. -/
def noContentClient : Client Script where
  link :=
    { slot := .new {}
      session := .new { deliveries := [.bytes (sentBytes false noContentAnswer)] } }

theorem served_noContentLeft : Served noContentWorker.site noContentLink.slot noContentLeft := by
  have hpath : noContentLink.slot.request.path = "/echo" := by decide +kernel
  have hresolve : noContentWorker.site.registry.resolve "/echo" = .ok noContentService := rfl
  have hfields : noContentLeft.response.fields.toList = [] := by decide +kernel
  refine ⟨by decide +kernel, ⟨noContentService, ?_, rfl⟩, rfl, ?_, ?_⟩
  · rw [hpath]
    exact hresolve
  · intro reason hreason
    exact absurd hreason (by simp [noContentLeft, noContentService, Route.Canned.service, Response.setStatus])
  · intro f hf
    rw [hfields] at hf
    exact absurd hf List.not_mem_nil

theorem noContent_with_body_not_got :
    (∃ got goAhead, Obeys noContentWorker (.new {}) noContentConnection .read got goAhead
      (sentBytes false noContentAnswer)) ∧
    noContentAnswer.status = ⟨204⟩ ∧ noContentAnswer.body = Text.utf8 "hello" ∧
    noContentClient.link.unread = sentBytes false noContentAnswer ++ [] ∧
    ¬ noContentClient.Gets noContentAnswer (Text.utf8 "hello") [] := by
  have hread : noContentWorker.intake (.new {}) noContentConnection .read = (.read true, noContentLink) :=
    Prod.ext (by decide +kernel) rfl
  have hmethod : (noContentLink.slot.request.method == .head) = false := by decide +kernel
  have hsite : noContentWorker.site.IsPresentable :=
    ⟨isFieldText_of_all (by decide), isFieldText_of_all (by decide)⟩
  obtain ⟨hobeys, hstatus, hbody, hgets⟩ := service_answer_got_iff hread served_noContentLeft hsite
  have hanswer : noContentAnswer.body = Text.utf8 "hello" := hbody (by decide +kernel)
  rw [hmethod] at hobeys hgets
  have hunread : noContentClient.link.unread = sentBytes false noContentAnswer ++ [] := rfl
  have hholds : Holds noContentClient.link.slot.limits noContentAnswer := by
    refine ⟨?_, ?_, ?_, ?_⟩ <;> decide +kernel
  have hiff := hgets (by decide +kernel) noContentClient [] (by decide +kernel) hholds (by decide +kernel) hunread
  refine ⟨hobeys, hstatus, hanswer, hunread, fun hgot => ?_⟩
  rw [← hanswer] at hgot
  have hfull : noContentAnswer.body ≠ [] := by
    rw [hanswer]
    decide
  have hcode : noContentAnswer.status.code = 204 := congrArg Status.code hstatus
  have hends := (hiff.1 hgot).2
  exact hends.elim Bool.false_ne_true fun h => h.elim hfull fun h => h.1 hcode

end Switchboard.Server
