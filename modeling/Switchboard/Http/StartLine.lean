import Switchboard.Http.Method
import Switchboard.Http.Status
import Switchboard.Text.Ascii
import Switchboard.Text.Parts

/-!
The first line of a message. A request line is a method, a target and a version with one space between
them; a status line is a version, three characters of status and, if wanted, a reason.
-/

namespace Switchboard.Http

/-- A request line. -/
structure RequestLine where
  method : Method
  target : String
  version : Version
  deriving DecidableEq, Repr

namespace RequestLine

/-- The three parts of a line: up to the first space, up to the second, and the rest. -/
def parts? (line : List Char) : Option (List Char × List Char × List Char) := do
  let (first, rest) ← Text.splitOnce? ' ' line
  let (second, third) ← Text.splitOnce? ' ' rest
  some (first, second, third)

/-- Reads a request line whose target has `maxUrl` bytes at most. The shape is tested first, then the
method, the length and the characters of the target, and the version. -/
def parse (line : String) (maxUrl : Nat) : Except Fault RequestLine := do
  match parts? line.toList with
  | none => .error (.requestLine line)
  | some (first, second, third) =>
    if first.isEmpty || second.isEmpty then .error (.requestLine line)
    else
      let target := String.ofList second
      let method ← Method.ofName (String.ofList first)
      if Text.byteLength target > maxUrl then .error (.urlTooLong maxUrl)
      else if !second.all Text.isGraphic then .error (.requestTarget target)
      else
        let version ← Version.ofName (String.ofList third)
        .ok ⟨method, target, version⟩

/-- The text of a request line. -/
def render (r : RequestLine) : String := s!"{r.method.name} {r.target} {r.version.name}"

end RequestLine

/-- A status line. -/
structure StatusLine where
  version : Version
  status : Status
  reason : Option String
  deriving DecidableEq, Repr

namespace StatusLine

/-- Reads a status line. The status takes three bytes; an empty reason is no reason. -/
def parse (line : String) : Except Fault StatusLine := do
  let (first, rest) := (Text.splitOnce? ' ' line.toList).getD (line.toList, [])
  let (second, third) := (Text.splitOnce? ' ' rest).getD (rest, [])
  let version ← Version.ofName (String.ofList first)
  let text := String.ofList second
  if Text.byteLength text ≠ 3 then .error (.statusCode text)
  else match Text.readUnsigned? 65536 second with
    | none => .error (.statusCode text)
    | some code =>
      .ok ⟨version, ⟨code⟩, if third.isEmpty then none else some (String.ofList third)⟩

end StatusLine
end Switchboard.Http
