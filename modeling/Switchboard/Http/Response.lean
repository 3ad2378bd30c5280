import Switchboard.Http.Framing
import Switchboard.Http.Method
import Switchboard.Http.Status

/-!
Responses. A reason of one's own stays until the status is set again.
-/

namespace Switchboard.Http

/-- A response. -/
structure Response where
  version : Version := .http11
  status : Status := .unset
  customReason : Option String := none
  fields : Fields := .empty
  body : Bytes := []
  deriving DecidableEq, Repr

namespace Response

/-- The response of a cleared slot. -/
def cleared : Response := {}

/-- Clears all that a response has. -/
def clear (r : Response) : Response :=
  { r with
    version := .http11
    status := .unset
    customReason := none
    fields := .empty
    body := [] }

theorem clear_eq (r : Response) : r.clear = cleared := rfl

/-- Sets the status and drops a reason of one's own. -/
def setStatus (r : Response) (s : Status) : Response := { r with status := s, customReason := none }

/-- Sets a reason of one's own. -/
def setReason (r : Response) (reason : String) : Response := { r with customReason := some reason }

/-- The reason: one's own if set, else the phrase of the table. -/
def reason (r : Response) : String := r.customReason.getD r.status.phrase

/-- The declared length of the body. -/
def contentLength (r : Response) : Except Fault (Option Nat) := r.fields.contentLength

/-- The body comes in the chunked coding. -/
def isChunked (r : Response) : Bool := r.fields.isChunked

/-- The status line as it is sent. -/
def line (r : Response) : String :=
  s!"{r.version.name} {Text.decimal3 r.status.code} {r.reason}"

/-- The head as it is sent. -/
def head (r : Response) : Bytes := Text.utf8 r.line ++ Text.crlf ++ r.fields.wire

/-- The whole response as it is sent. -/
def wire (r : Response) : Bytes := r.head ++ r.body

/-- The interim response that asks for the body. -/
def interim (version : Version) : Response := { version, status := .continue100 }

end Response
end Switchboard.Http
