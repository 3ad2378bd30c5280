import Switchboard.Exchange.Slot

/-!
The stages that a connection goes through in one cycle, and the marks that a cycle leaves: the stages it
enters, the service it calls with what that was shown, and the line of the access log.
-/

namespace Switchboard.Server

/-- A stage. -/
inductive Stage where
  /-- No connection is at hand. -/
  | wait
  /-- An urgent byte is drained. -/
  | urgent
  /-- The request is read. -/
  | parse
  /-- The client is told to go ahead, and the body is read. -/
  | shake
  /-- The route is found and its service is run. -/
  | execute
  /-- A document is read. -/
  | getFile
  /-- A document is read for its head only. -/
  | headFile
  | success
  | redirection
  | clientError
  | serverError
  /-- The answer is written. -/
  | pack
  /-- The connection is handed back. -/
  | keepAlive
  /-- The connection is closed. -/
  | close
  deriving DecidableEq, Repr

namespace Stage

/-- The label of a stage. -/
def label : Stage → String
  | wait => "GetWait"
  | urgent => "IsOob"
  | parse => "HttpParse"
  | shake => "HttpShake"
  | execute => "ExecService"
  | getFile => "HttpGet"
  | headFile => "HttpHead"
  | success => "Http2xx"
  | redirection => "Http3xx"
  | clientError => "Http4xx"
  | serverError => "Http5xx"
  | pack => "HttpPack"
  | keepAlive => "ConnKeepalive"
  | close => "ConnClose"

/-- The stage in which an answer of a class is completed. -/
def ofClass : Http.Status.Class → Stage
  | .success => success
  | .redirection => redirection
  | .clientError => clientError
  | .serverError => serverError

end Stage

/-- A line of the access log. -/
structure Access where
  peer : String
  method : Http.Method
  target : String
  version : Http.Version
  status : Http.Status
  /-- The length of the body. -/
  length : Nat
  deriving DecidableEq, Repr

/-- The line for what is in a slot. -/
def Access.ofSlot (peer : String) (s : Exchange.Slot) : Access where
  peer := peer
  method := s.request.method
  target := s.request.target
  version := s.request.version
  status := s.response.status
  length := s.response.body.length

/-- A mark that a cycle leaves. -/
inductive Mark where
  | enter (s : Stage)
  /-- A service was called on this slot. -/
  | call (shown : Exchange.Slot)
  | access (a : Access)
  deriving DecidableEq, Repr

/-- What the marks of a cycle tell outside: each step from one stage to the next, and the access log. -/
inductive Event where
  | step (source target : Stage)
  | access (a : Access)
  deriving DecidableEq, Repr

/-- The events of some marks, read on from a stage. -/
def eventsFrom (source : Option Stage) : List Mark → List Event
  | [] => []
  | .access a :: rest => .access a :: eventsFrom source rest
  | .call _ :: rest => eventsFrom source rest
  | .enter s :: rest =>
    match source with
    | none => eventsFrom (some s) rest
    | some t => .step t s :: eventsFrom (some s) rest

/-- The events of the marks of a cycle. -/
def events (marks : List Mark) : List Event := eventsFrom none marks

end Switchboard.Server
