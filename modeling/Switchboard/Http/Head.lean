import Switchboard.Http.Fields
import Switchboard.Text.Lossy

/-!
The head of a message: a first line, field lines, and a blank line. The functions here find the lines in a
buffer and read the field lines; they know nothing of where the bytes come from.
-/

namespace Switchboard.Http.Head

/-- The greatest number of fields in a head. -/
def maxFields : Nat := 128

/-- The bytes before and after the first line end. -/
def splitLine? : Bytes → Option (Bytes × Bytes)
  | [] => none
  | 13 :: 10 :: rest => some ([], rest)
  | b :: rest => (splitLine? rest).map fun p => (b :: p.1, p.2)

/-- The bytes up to and including the first blank line, and those after it. -/
def split? : Bytes → Option (Bytes × Bytes)
  | [] => none
  | 13 :: 10 :: 13 :: 10 :: rest => some ([13, 10, 13, 10], rest)
  | b :: rest => (split? rest).map fun p => (b :: p.1, p.2)

/-- The bytes after the blank lines that they start with. -/
def dropBlankLines : Bytes → Bytes
  | 13 :: 10 :: rest => dropBlankLines rest
  | bytes => bytes

/-- The lines that end in the bytes, the first of them continuing `acc` in reverse. -/
def linesFrom : Bytes → Bytes → List Bytes
  | _, [] => []
  | acc, 13 :: 10 :: rest => acc.reverse :: linesFrom [] rest
  | acc, b :: rest => linesFrom (b :: acc) rest

/-- The lines before the blank line. -/
def fieldLines (section_ : Bytes) : List Bytes := (linesFrom [] section_).takeWhile (· ≠ [])

/-- Reads field lines, of which `seen` came before. -/
def readFields (maxHeader : Nat) : Nat → List Bytes → Except Fault (List Field)
  | _, [] => .ok []
  | seen, line :: rest =>
    if seen ≥ maxFields then .error (.headerTooLarge maxHeader)
    else do
      let field ← Field.ofLine (Text.lossy line)
      let fields ← readFields maxHeader (seen + 1) rest
      .ok (field :: fields)

/-- Reads a complete head into its first line and its fields. The section after the first line has
`maxHeader` bytes at most. -/
def parse (head : Bytes) (maxHeader : Nat) : Except Fault (String × Fields) :=
  match splitLine? head with
  | none => .error .missingStartLine
  | some (start, rest) =>
    if rest.length > maxHeader then .error (.headerTooLarge maxHeader)
    else do
      let fields ← readFields maxHeader 0 (fieldLines rest)
      .ok (Text.lossy start, ⟨fields⟩)

end Switchboard.Http.Head
