import Switchboard.Server.Page
import Switchboard.Server.Site
import Switchboard.Server.Stage

/-!
Answers. A request that was read is answered by the service of its route, by a document, or by an error; the
answer is then completed by the fields that every answer has. All this happens in the slot.
-/

namespace Switchboard.Server

open Exchange (Slot)
open Http

/-- An answer before it is completed: the slot that holds it, the marks left in finding it, and the way to
complete it. -/
structure Answer where
  slot : Slot
  marks : List Mark
  way : Status.Class

/-- Applies a function to the response of a slot. -/
def mapResponse (f : Response → Response) (s : Slot) : Slot := { s with response := f s.response }

/-- The way to complete a failure: the fault of the server, or of the client. -/
def failureWay (s : Status) : Status.Class :=
  if s.isServerError then .serverError else .clientError

/-- Gives up: drops the body of the answer and tells the status. -/
def failWith (status : Status) (slot : Slot) : Answer where
  slot := mapResponse (fun r => { r with body := [] }.setStatus status) slot
  marks := []
  way := failureWay status

/-- Tells the status of a fault in what the client sent. -/
def faultAnswer (f : Fault) (slot : Slot) : Answer where
  slot := mapResponse (·.setStatus ⟨f.statusCodeOf⟩) slot
  marks := []
  way := if f.statusCodeOf ≥ 500 then .serverError else .clientError

/-- The status that answers a file fault. -/
def fileStatus : Files.Fault → Status
  | .notFound => .notFound
  | .noAccess => .forbidden
  | .io _ => .internalServerError

/-- The fields with a media type, unless they have one. -/
def withMediaType (type : String) (h : Fields) : Fields :=
  if h.contains "Content-Type" then h else h.set "Content-Type" type

/-- Answers with the document of the requested path. A part that was read before reading failed is dropped again. -/
def documentAnswer (site : Site) (slot : Slot) : Answer :=
  let (r, content) := site.documents.read slot.request.path
  let slot := mapResponse (fun r => { r with body := r.body ++ content }) slot
  match r with
  | .error f => failWith (fileStatus f) slot
  | .ok type =>
    { slot := mapResponse (fun r => { r with fields := withMediaType type r.fields }) slot
      marks := []
      way := .success }

/-- The answer with a mark before its marks. -/
def Answer.after (m : Mark) (a : Answer) : Answer := { a with marks := m :: a.marks }

/-- Answers a request that no service serves. -/
def unroutedAnswer (site : Site) (slot : Slot) : Answer :=
  match slot.request.method with
  | .get => (documentAnswer site slot).after (.enter .getFile)
  | .head => (documentAnswer site slot).after (.enter .headFile)
  | _ => failWith .notFound slot

/-- The answer of a service as it left it. A status that is none counts as success. -/
def serviceAnswer (slot : Slot) : Answer :=
  let status := slot.response.status
  { slot := if status.isValid then slot else mapResponse (·.setStatus .ok) slot
    marks := []
    way := status.classify }

/-- Answers with what came of serving the path. -/
def outcomeAnswer (site : Site) (slot : Slot) : Route.Outcome → Answer
  | .ok => serviceAnswer slot
  | .notFound => unroutedAnswer site slot
  | .unsupported => failWith .notImplemented slot
  | .serviceError _ => failWith .internalServerError slot
  | .noSuchLibrary => failWith .internalServerError slot

/-- Answers a request whose method may be served: calls the service of its path, if there is one. -/
def routedAnswer (site : Site) (slot : Slot) : Answer :=
  match site.registry.resolve slot.request.path with
  | .error o => outcomeAnswer site slot o
  | .ok service =>
    let (left, code) := service site.registry.table slot
    (outcomeAnswer site left (.ofCode code)).after (.call slot)

/-- Answers a request that was read. -/
def answer (site : Site) (slot : Slot) : Answer :=
  let slot := mapResponse (·.setStatus .ok) slot
  if slot.request.method.isDispatchable then routedAnswer site slot
  else
    { slot := mapResponse (·.setStatus .methodNotAllowed) slot
      marks := []
      way := .clientError }

/-! ## Completion -/

/-- The methods that an answer tells when the method was not allowed. -/
def allowedMethods : String := "GET, HEAD, POST, PUT, PATCH, DELETE"

/-- An answer without a body gets the page of its status. -/
def withPage (r : Response) : Response :=
  if r.body.isEmpty then
    { r with body := errorPage r.status, fields := r.fields.set "Content-Type" "text/html" }
  else r

/-- The fields of a complete answer. -/
def completeFields (site : Site) (keepAlive : Bool) (status : Status) (length : Nat) (h : Fields) :
    Fields :=
  let h := h.set "Server" site.settings.serverName
  let h := h.set "Date" site.date
  let h := h.set "Connection" (if keepAlive then "keep-alive" else "close")
  let h := withMediaType Files.defaultMediaType h
  let h := if status = .methodNotAllowed then h.set "Allow" allowedMethods else h
  (h.remove "Transfer-Encoding").set "Content-Length" (Text.decimal length)

/-- The response with the fields of a complete answer. -/
def completeResponse (site : Site) (keepAlive : Bool) (version : Version) (r : Response) : Response :=
  { r with
    version
    fields := completeFields site keepAlive r.status r.body.length r.fields }

/-- Completes an answer: an error gets its page, and every answer the fields of a complete one. -/
def Answer.complete (site : Site) (keepAlive : Bool) (a : Answer) : Slot :=
  let finish (r : Response) : Response :=
    let r := match a.way with
      | .clientError | .serverError => withPage r
      | .success | .redirection => r
    completeResponse site keepAlive a.slot.request.version r
  mapResponse finish a.slot

end Switchboard.Server
