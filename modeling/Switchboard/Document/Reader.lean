import Switchboard.Document.Quotation
import Switchboard.Document.Scalar

/-!
Reading a document in the TOML format: keys, values, statements, and the whole. Values nest to a fixed
depth, and a dotted key has a fixed number of parts at most; the reader recurses on these bounds.
-/

namespace Switchboard.Document

/-- Drops blanks, line ends and comments; the flag says that a comment has begun. -/
def dropFiller : Bool → List Char → List Char
  | true, '\n' :: rest => dropFiller false rest
  | true, '\r' :: '\n' :: rest => dropFiller false rest
  | true, c :: rest => if isTextChar c then dropFiller true rest else c :: rest
  | false, ' ' :: rest => dropFiller false rest
  | false, '\t' :: rest => dropFiller false rest
  | false, '\n' :: rest => dropFiller false rest
  | false, '\r' :: '\n' :: rest => dropFiller false rest
  | false, '#' :: rest => dropFiller true rest
  | _, cs => cs

/-- The rest after blanks, a comment if there is one, and the end of the line or of the document. -/
def endLine (cs : List Char) : Option (List Char) :=
  let cs := dropSpaces cs
  let cs := match cs with
    | '#' :: rest => rest.dropWhile isTextChar
    | _ => cs
  if cs.isEmpty then some [] else dropLineEnd? cs

/-! ## Keys -/

/-- The most parts of a dotted key. -/
def maxParts : Nat := 79

/-- A character of a bare key. -/
def isBareChar (c : Char) : Bool := c.isAlphanum || c == '-' || c == '_'

/-- Reads one part of a key. -/
def readPart : Reader String
  | '"' :: rest => (readQuoted rest).map fun p => (String.ofList p.1, p.2)
  | '\'' :: rest => (readVerbatim rest).map fun p => (String.ofList p.1, p.2)
  | cs =>
    let name := cs.takeWhile isBareChar
    if name.isEmpty then none else some (String.ofList name, cs.dropWhile isBareChar)

/-- Reads the parts of a key, so many at most, with the blanks around them. -/
def readParts : Nat → Reader (List String)
  | 0, _ => none
  | n + 1, cs => do
    let (part, cs) ← readPart (dropSpaces cs)
    match dropSpaces cs with
    | '.' :: rest =>
      let (parts, rest) ← readParts n rest
      return (part :: parts, rest)
    | cs => return ([part], cs)

/-- Reads a key: the keys that lead to it, and its own. -/
def readKey (cs : List Char) : Option ((List String × String) × List Char) := do
  let (parts, rest) ← readParts maxParts cs
  return ((parts.dropLast, ← parts.getLast?), rest)

/-! ## Values -/

/-- The most arrays and tables within each other. -/
def maxDepth : Nat := 79

/-- Reads a quotation or a plain scalar. -/
def readLeaf (cs : List Char) : Option (Value × List Char) :=
  match cs with
  | '"' :: _ => (readQuotation cs).map fun p => (.text p.1, p.2)
  | '\'' :: _ => (readQuotation cs).map fun p => (.text p.1, p.2)
  | _ =>
    let (literal, rest) := splitLiteral cs
    (scalar? literal).map (·, rest)

/-- Reads the items of an array after its bracket or a comma, so many at most. -/
def readItems (item : Reader Value) : Nat → Reader (List Value)
  | 0, _ => none
  | n + 1, cs =>
    match dropFiller false cs with
    | ']' :: rest => some ([], rest)
    | cs => do
      let (v, cs) ← item cs
      match dropFiller false cs with
      | ']' :: rest => return ([v], rest)
      | ',' :: rest =>
        let (vs, rest) ← readItems item n rest
        return (v :: vs, rest)
      | _ => none

/-- Reads a key, an equals sign and a value. -/
def readPair (item : Reader Value) (cs : List Char) : Option (Pair × List Char) := do
  let ((path, key), cs) ← readKey cs
  match cs with
  | '=' :: rest =>
    let (value, rest) ← item (dropSpaces rest)
    return (⟨path, key, value⟩, rest)
  | _ => none

/-- Reads the pairs of a table between braces, so many at most. -/
def readPairs (item : Reader Value) : Nat → Reader (List Pair)
  | 0, _ => none
  | n + 1, cs => do
    let (p, cs) ← readPair item cs
    match dropSpaces cs with
    | '\x7d' :: rest => return ([p], rest)
    | ',' :: rest =>
      let (ps, rest) ← readPairs item n rest
      return (p :: ps, rest)
    | _ => none

/-- Reads a table after its opening brace. -/
def readTable (item : Reader Value) (cs : List Char) : Option (Value × List Char) :=
  match dropSpaces cs with
  | '\x7d' :: rest => some (.table .inline [], rest)
  | _ => do
    let (ps, rest) ← readPairs item cs.length cs
    return (.table .inline (← assignAll [] ps), rest)

/-- Reads a value with so many arrays and tables within each other. -/
def readValue : Nat → Reader Value
  | 0 => readLeaf
  | depth + 1 => fun cs =>
    match cs with
    | '[' :: rest =>
      (readItems (readValue depth) rest.length rest).map fun p => (.array p.1, p.2)
    | '\x7b' :: rest => readTable (readValue depth) rest
    | _ => readLeaf cs

/-! ## Statements -/

/-- Reads a header after its opening brackets. -/
def readHeader (cs : List Char) : Option (Header × List Char) :=
  match cs with
  | '[' :: rest => do
    let ((path, key), rest) ← readKey rest
    match rest with
    | ']' :: ']' :: rest => return (.element path key, rest)
    | _ => none
  | _ => do
    let ((path, key), rest) ← readKey cs
    match rest with
    | ']' :: rest => return (.table path key, rest)
    | _ => none

/-- Reads the statements of a document, so many lines at most. -/
def readStatements : Nat → List Char → Option (List Statement)
  | 0, _ => none
  | n + 1, cs =>
    let cs := dropSpaces cs
    match cs with
    | [] => some []
    | '[' :: rest => do
      let (h, rest) ← readHeader rest
      return .header h :: (← readStatements n (← endLine rest))
    | '#' :: _ => do readStatements n (← endLine cs)
    | '\n' :: rest => readStatements n rest
    | '\r' :: _ => do readStatements n (← dropLineEnd? cs)
    | _ => do
      let (p, rest) ← readPair (readValue maxDepth) cs
      return .pair p :: (← readStatements n (← endLine rest))

/-- The entries of a document. A byte order mark at its start is no part of it. -/
def read? (source : String) : Option Entries := do
  let cs := match source.toList with
    | '\uFEFF' :: rest => rest
    | cs => cs
  build (← readStatements (cs.length + 1) cs)

end Switchboard.Document
