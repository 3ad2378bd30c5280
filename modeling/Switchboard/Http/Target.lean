import Switchboard.Http.StartLine
import Switchboard.Text.Lossy

/-!
Request targets. A target is a path, a query after the first question mark, and a fragment after the first
number sign. The path and the names and values of the query are percent-decoded; in the query a plus sign
stands for a space.
-/

namespace Switchboard.Http

/-- The bytes with each percent sign that two hexadecimal digits follow replaced, with them, by the byte
they denote; `plusIsSpace` turns plus signs into spaces. -/
def percentDecodeBytes (plusIsSpace : Bool) : Bytes → Bytes
  | [] => []
  | 37 :: a :: b :: rest =>
    match Text.hexValue? a, Text.hexValue? b with
    | some high, some low =>
      UInt8.ofNat (high * 16 + low) :: percentDecodeBytes plusIsSpace rest
    | _, _ => 37 :: percentDecodeBytes plusIsSpace (a :: b :: rest)
  | b :: rest =>
    (if plusIsSpace && b == 43 then 32 else b) :: percentDecodeBytes plusIsSpace rest

/-- The percent-decoded text. -/
def percentDecode (plusIsSpace : Bool) (cs : List Char) : String :=
  Text.lossy (percentDecodeBytes plusIsSpace (cs.flatMap String.utf8EncodeChar))

/-- The names and values of a query: its nonempty parts between ampersands, each cut at its first equals
sign. -/
def parseQuery (raw : List Char) : List (String × String) :=
  ((Text.splitAll '&' raw).filter (!·.isEmpty)).map fun pair =>
    match Text.splitOnce? '=' pair with
    | some (name, value) => (percentDecode true name, percentDecode true value)
    | none => (percentDecode true pair, "")

/-- A target in its parts. -/
structure Target where
  path : String
  rawQuery : String
  query : List (String × String)
  fragment : String
  deriving DecidableEq, Repr

/-- The parts of a target. -/
def Target.ofText (raw : String) : Target :=
  let (rest, fragment) := (Text.splitOnce? '#' raw.toList).getD (raw.toList, [])
  let (path, query) := (Text.splitOnce? '?' rest).getD (rest, [])
  { path := percentDecode false path
    rawQuery := String.ofList query
    query := parseQuery query
    fragment := String.ofList fragment }

end Switchboard.Http
