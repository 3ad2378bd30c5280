import Switchboard.Http.Framing
import Switchboard.Http.Target

/-!
Requests. The parts of the target are functions of its text, so they cannot disagree with it.
-/

namespace Switchboard.Http

/-- A request. -/
structure Request where
  expectContinue : Bool := false
  method : Method := .get
  target : String := ""
  version : Version := .http11
  fields : Fields := .empty
  body : Bytes := []
  deriving DecidableEq, Repr

namespace Request

/-- The request of a cleared slot. -/
def cleared : Request := {}

/-- Clears all that a request has. -/
def clear (r : Request) : Request :=
  { r with
    expectContinue := false
    method := .get
    target := ""
    version := .http11
    fields := .empty
    body := [] }

theorem clear_eq (r : Request) : r.clear = cleared := rfl

/-- The percent-decoded path. -/
def path (r : Request) : String := (Target.ofText r.target).path

/-- The query as it was sent. -/
def rawQuery (r : Request) : String := (Target.ofText r.target).rawQuery

/-- The decoded names and values of the query, in order. -/
def query (r : Request) : List (String × String) := (Target.ofText r.target).query

/-- The fragment of the target. -/
def fragment (r : Request) : String := (Target.ofText r.target).fragment

/-- The first value under a name of the query. -/
def queryParam? (r : Request) (name : String) : Option String :=
  (r.query.find? (·.1 == name)).map (·.2)

/-- The declared length of the body. -/
def contentLength (r : Request) : Except Fault (Option Nat) := r.fields.contentLength

/-- The body comes in the chunked coding. -/
def isChunked (r : Request) : Bool := r.fields.isChunked

/-- A body follows the head. -/
def expectsBody (r : Request) : Bool :=
  r.isChunked || match r.contentLength with
    | .ok (some n) => 0 < n
    | _ => false

/-- The client wants to go on with this connection. The newer version says so unless it asks to close, the
older one only if it asks to keep alive. -/
def keepAlive (r : Request) : Bool :=
  match r.version with
  | .http11 => !r.fields.hasToken "Connection" "close"
  | .http10 => r.fields.hasToken "Connection" "keep-alive"

/-- The request line of a request. -/
def line (r : Request) : RequestLine := ⟨r.method, r.target, r.version⟩

/-- The head as it is sent. -/
def head (r : Request) : Bytes := Text.utf8 r.line.render ++ Text.crlf ++ r.fields.wire

/-- The whole request as it is sent. -/
def wire (r : Request) : Bytes := r.head ++ r.body

end Request
end Switchboard.Http
