import Switchboard.Proofs.Server.Agreement

/-!
What is left of a service that fails. The answer to its request is the page of an internal error: the status, the
reason, the version and the body that the service has set are all dropped (`response_of_failed`). The fields are not:
the answer has them all, completed by those that every answer has. So the answers of two services that fail on one
request are the same if and only if the fields that they leave come out the same when they are completed, and they
are not if the services leave different values under a name that completing does not touch
(`failed_answers_same_iff`).
-/

namespace Switchboard.Server

open Http
open Exchange
open Readiness (Mask)

/-! ## Fields that completing leaves alone -/

/-- The names under which completing an answer that failed may set or remove fields. -/
def completedNames : List String :=
  ["Server", "Date", "Connection", "Content-Type", "Transfer-Encoding", "Content-Length"]

/-- A name under which completing an answer that failed leaves the fields as they are. -/
def IsKept (name : String) : Prop := ∀ other ∈ completedNames, Text.foldCase other ≠ Text.foldCase name

instance (name : String) : Decidable (IsKept name) := inferInstanceAs (Decidable (∀ _ ∈ _, _))

section Kept

variable {site : Site} {keepAlive : Bool} {name : String}

theorem getAll_withMediaType (hname : Text.foldCase "Content-Type" ≠ Text.foldCase name) (type : String)
    (h : Fields) : (withMediaType type h).getAll name = h.getAll name := by
  unfold withMediaType
  split
  · rfl
  · exact Fields.getAll_set hname h type

/-- Completing leaves the fields under other names as they are, unless the method was not allowed. -/
theorem getAll_completeFields (hname : IsKept name) {status : Status} (hstatus : status ≠ .methodNotAllowed)
    (length : Nat) (h : Fields) :
    (completeFields site keepAlive status length h).getAll name = h.getAll name := by
  unfold completeFields
  simp only [if_neg hstatus]
  rw [Fields.getAll_set (hname "Content-Length" (by decide)),
    Fields.getAll_remove (hname "Transfer-Encoding" (by decide)),
    getAll_withMediaType (hname "Content-Type" (by decide)),
    Fields.getAll_set (hname "Connection" (by decide)), Fields.getAll_set (hname "Date" (by decide)),
    Fields.getAll_set (hname "Server" (by decide))]

end Kept

/-! ## The answer of a service that fails -/

/-- The fields of the answer of a service that fails and leaves these fields. -/
def failureFields (site : Site) (keepAlive : Bool) (h : Fields) : Fields :=
  completeFields site keepAlive .internalServerError (errorPage .internalServerError).length
    (h.set "Content-Type" "text/html")

/-- The answer of a service that fails and leaves these fields. -/
def failureResponse (site : Site) (keepAlive : Bool) (version : Version) (h : Fields) : Response where
  version := version
  status := .internalServerError
  fields := failureFields site keepAlive h
  body := errorPage .internalServerError

/-- A service fails on the request in the slot `s`: it returns a code other than zero, and has written to the
response only, which it leaves as `left`. -/
structure Failed (site : Site) (s : Slot) (left : Response) : Prop where
  dispatched : s.request.method.isDispatchable = true
  called : ∃ f code, site.registry.resolve s.request.path = .ok f ∧ code ≠ 0 ∧
    f site.registry.table (mapResponse (·.setStatus .ok) s) = ({ s with response := left }, code)

section Failed

variable {site : Site} {keepAlive : Bool} {s : Slot} {left : Response}

/-- Giving up drops the body and the status that the service has set, and nothing else. -/
theorem answer_of_failed (h : Failed site s left) :
    answer site s = (failWith .internalServerError { s with response := left }).after
      (.call (mapResponse (·.setStatus .ok) s)) := by
  obtain ⟨f, code, hf, hcode, hleft⟩ := h.called
  have houtcome : Route.Outcome.ofCode code = .serviceError code := if_neg hcode
  rw [answer_of_called h.dispatched hf hleft, houtcome]
  rfl

/-- The page of an internal error stands in for the body that was dropped. -/
theorem paged_failWith (s : Slot) :
    (failWith .internalServerError s).paged =
      { s.response.setStatus .internalServerError with
        body := errorPage .internalServerError
        fields := s.response.fields.set "Content-Type" "text/html" } := by
  have hway : (failWith .internalServerError s).way = .serverError := rfl
  unfold Answer.paged
  rw [hway]
  exact if_pos rfl

/-- The answer of a service that fails depends on the fields that it has left, and on nothing else that it has left. -/
theorem response_of_failed (h : Failed site s left) :
    ((answer site s).complete site keepAlive).response =
      failureResponse site keepAlive s.request.version left.fields := by
  rw [answer_of_failed h, response_complete]
  show completeResponse site keepAlive _ (failWith .internalServerError { s with response := left }).paged = _
  rw [paged_failWith]
  unfold failureResponse failureFields completeResponse Response.setStatus
  simp only
  rfl

theorem responseBytes_of_failed (h : Failed site s left) :
    responseBytes ((answer site s).complete site keepAlive) =
      Text.utf8 (failureResponse site keepAlive s.request.version left.fields).line ++ Text.crlf ++
        (failureFields site keepAlive left.fields).wire ++
        if s.request.method == .head then [] else errorPage .internalServerError := by
  have hmethod : ((answer site s).complete site keepAlive).request.method = s.request.method := by
    rw [answer_of_failed h]
    rfl
  unfold responseBytes
  rw [response_of_failed h, hmethod]
  simp only [Response.head, failureResponse]

/-- What a service that fails has left under a name that completing does not touch is in the answer. -/
theorem getAll_failureFields {name : String} (hname : IsKept name) (h : Fields) :
    (failureFields site keepAlive h).getAll name = h.getAll name := by
  unfold failureFields
  rw [getAll_completeFields hname (by decide), Fields.getAll_set (hname "Content-Type" (by decide))]

theorem writable_failureFields (hsite : site.IsPresentable) {h : Fields} (hw : ∀ f ∈ h.toList, f.Writable) :
    ∀ f ∈ (failureFields site keepAlive h).toList, f.Writable :=
  writable_completeFields hsite _ _
    (Fields.writable_set hw (by decide) (by decide) (isFieldText_of_all (by decide)))

end Failed

/-! ## Two services that fail -/

/-- The worker with other libraries behind the same routes. -/
def Worker.withLibraries (w : Worker) (libraries : Route.Libraries) : Worker :=
  { w with site := { w.site with registry := { w.site.registry with libraries } } }

section Comparison

variable {σ : Type} [Transport σ] {w : Worker} {slot : Slot} {conn : Connection (Recorded (Taped σ))}
  {mask : Mask} {keepAlive : Bool} {x : Link (Recorded (Taped σ))} {libraries : Route.Libraries}
  {left left' : Response}

/-- Two services fail on one request, whatever they have left in the response. Each is answered by one response, and
the two responses are the same if and only if the fields that the services have left are the same once they are
completed; values under a name that completing does not touch tell them apart. -/
theorem failed_answers_same_iff (hread : w.intake slot conn mask = (.read keepAlive, x))
    (h : Failed w.site x.slot left) (h' : Failed (w.withLibraries libraries).site x.slot left') :
    let final := responseBytes ((answer w.site x.slot).complete w.site keepAlive)
    let final' := responseBytes
      ((answer (w.withLibraries libraries).site x.slot).complete (w.withLibraries libraries).site keepAlive)
    (∃ got goAhead, Obeys w slot conn mask got goAhead final) ∧
      (∃ got goAhead, Obeys (w.withLibraries libraries) slot conn mask got goAhead final') ∧
      (final = final' ↔
        (failureFields w.site keepAlive left.fields).wire = (failureFields w.site keepAlive left'.fields).wire) ∧
      (w.site.IsPresentable → (∀ f ∈ left.fields.toList, f.Writable) → (∀ f ∈ left'.fields.toList, f.Writable) →
        ∀ name, IsKept name → left.fields.getAll name ≠ left'.fields.getAll name → final ≠ final') := by
  intro final final'
  have hread' : (w.withLibraries libraries).intake slot conn mask = (.read keepAlive, x) := hread
  have hiff : final = final' ↔
      (failureFields w.site keepAlive left.fields).wire = (failureFields w.site keepAlive left'.fields).wire := by
    have hfinal : final = _ := responseBytes_of_failed h
    have hfinal' : final' = _ := responseBytes_of_failed h'
    rw [hfinal, hfinal', List.append_left_inj]
    exact List.append_right_inj _
  refine ⟨?_, ?_, hiff, ?_⟩
  · obtain ⟨got, goAhead, -, -, hobeys, -, -⟩ := obeys_of_intake hread
    exact ⟨got, goAhead, hobeys⟩
  · obtain ⟨got, goAhead, -, -, hobeys, -, -⟩ := obeys_of_intake hread'
    exact ⟨got, goAhead, hobeys⟩
  · intro hsite hw hw' name hname hne hsame
    have hfields := Fields.wire_inj (writable_failureFields hsite hw) (writable_failureFields hsite hw')
      (hiff.1 hsame)
    have hvalues := congrArg (Fields.getAll · name) hfields
    rw [getAll_failureFields hname, getAll_failureFields hname] at hvalues
    exact hne hvalues

end Comparison

theorem failed_canned {site : Site} {s : Slot} {c : Route.Canned} (hcode : c.code ≠ 0)
    (hmethod : s.request.method.isDispatchable = true)
    (hresolve : site.registry.resolve s.request.path = .ok c.service) :
    Failed site s (c.service site.registry.table (mapResponse (·.setStatus .ok) s)).1.response :=
  ⟨hmethod, c.service, c.code, hresolve, hcode, rfl⟩

/-- A library with one service. -/
def soleService (c : Route.Canned) : Route.Libraries where
  known := [("demo", [("echo", c.service)])]

/-- A service that fails after it has written to every part of the response. -/
def leakyService : Route.Canned where
  status := some 201
  reason := some "Mine"
  edits := [.insert "X-Partial" "secret"]
  body := some (Text.utf8 "half")
  code := 1

/-- A service that fails at once. -/
def silentService : Route.Canned where
  code := 1

/-- A worker with the service that writes before it fails. -/
def leakyWorker : Worker := echoWorker.withLibraries (soleService leakyService)

/-- The same worker with the service that fails at once. -/
def silentWorker : Worker := leakyWorker.withLibraries (soleService silentService)

theorem partial_output_shows :
    let final := responseBytes ((answer leakyWorker.site noContentLink.slot).complete leakyWorker.site true)
    let final' := responseBytes ((answer silentWorker.site noContentLink.slot).complete silentWorker.site true)
    (∃ got goAhead, Obeys leakyWorker (.new {}) noContentConnection .read got goAhead final) ∧
      (∃ got goAhead, Obeys silentWorker (.new {}) noContentConnection .read got goAhead final') ∧
      final ≠ final' := by
  intro final final'
  have hread : leakyWorker.intake (.new {}) noContentConnection .read = (.read true, noContentLink) :=
    Prod.ext (by decide +kernel) rfl
  have hpath : noContentLink.slot.request.path = "/echo" := by decide +kernel
  have hmethod : noContentLink.slot.request.method.isDispatchable = true := by decide +kernel
  have hleaky : Failed leakyWorker.site noContentLink.slot _ :=
    failed_canned (c := leakyService) (by decide) hmethod (hpath ▸ rfl)
  have hsilent : Failed silentWorker.site noContentLink.slot _ :=
    failed_canned (c := silentService) (by decide) hmethod (hpath ▸ rfl)
  have hsite : leakyWorker.site.IsPresentable :=
    ⟨isFieldText_of_all (by decide), isFieldText_of_all (by decide)⟩
  have hfields : (leakyService.service leakyWorker.site.registry.table
      (mapResponse (·.setStatus .ok) noContentLink.slot)).1.response.fields = .ofPairs [("X-Partial", "secret")] := by
    decide +kernel
  have hnone : (silentService.service silentWorker.site.registry.table
      (mapResponse (·.setStatus .ok) noContentLink.slot)).1.response.fields = .empty := by
    decide +kernel
  obtain ⟨hobeys, hobeys', -, htold⟩ := failed_answers_same_iff hread hleaky hsilent
  refine ⟨hobeys, hobeys', htold hsite ?_ ?_ "X-Partial" (by decide) ?_⟩
  · rw [hfields]
    intro f hf
    obtain rfl := List.mem_singleton.1 hf
    exact (Field.sendable_of_graphic (by decide) (List.all_eq_true.1 (by decide)) (by decide)).writable
  · rw [hnone]
    exact fun f hf => absurd hf List.not_mem_nil
  · rw [hfields, hnone]
    decide

end Switchboard.Server
