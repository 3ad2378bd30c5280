import Switchboard.Text.Numeral

/-!
The quotations of a document: texts between single or double quotes, over one line or several. Between
double quotes a backslash starts an escape; over several lines a backslash before a line end drops all
blanks and line ends after it. Readers take what follows the opening quote and give the text with what
follows the closing one.
-/

namespace Switchboard.Document

/-- A reader: takes something from the front of a text and leaves the rest. -/
abbrev Reader (α : Type) := List Char → Option (α × List Char)

/-- A character that a line of text may hold. -/
def isTextChar (c : Char) : Bool := c == '\t' || (' ' ≤ c && c != '\x7f')

/-- Drops blanks and line ends. -/
def dropGap : List Char → List Char
  | ' ' :: rest => dropGap rest
  | '\t' :: rest => dropGap rest
  | '\n' :: rest => dropGap rest
  | '\r' :: '\n' :: rest => dropGap rest
  | cs => cs

theorem length_dropGap (cs : List Char) : (dropGap cs).length ≤ cs.length := by
  fun_induction dropGap cs <;> simp <;> omega

/-- Drops a line end at the front. -/
def dropLineEnd? : List Char → Option (List Char)
  | '\n' :: rest => some rest
  | '\r' :: '\n' :: rest => some rest
  | _ => none

/-- Drops spaces and tabs at the front. -/
def dropSpaces (cs : List Char) : List Char := cs.dropWhile fun c => c == ' ' || c == '\t'

/-- The character with this number in hexadecimal. -/
def coded? (cs : List Char) : Option Char := do
  let n := (← cs.mapM (Text.digitIn? 16)).foldl (fun n d => n * 16 + d) 0
  if n.isValidChar then some (Char.ofNat n) else none

/-- Reads an escape after its backslash. -/
def readEscape : Reader Char
  | 'b' :: rest => some ('\x08', rest)
  | 't' :: rest => some ('\t', rest)
  | 'n' :: rest => some ('\n', rest)
  | 'f' :: rest => some ('\x0c', rest)
  | 'r' :: rest => some ('\r', rest)
  | '"' :: rest => some ('"', rest)
  | '\\' :: rest => some ('\\', rest)
  | 'u' :: a :: b :: c :: d :: rest => (coded? [a, b, c, d]).map (·, rest)
  | 'U' :: a :: b :: c :: d :: e :: f :: g :: h :: rest =>
    (coded? [a, b, c, d, e, f, g, h]).map (·, rest)
  | _ => none

theorem length_of_readEscape {cs rest : List Char} {c : Char} (h : readEscape cs = some (c, rest)) :
    rest.length < cs.length := by
  unfold readEscape at h
  split at h
  case h_8 | h_9 =>
    obtain ⟨_, _, h⟩ := Option.map_eq_some_iff.1 h
    cases h
    simp only [List.length_cons]
    omega
  case h_10 => cases h
  all_goals
    cases h
    simp

/-- Puts a character in front of what a reader gives. -/
def consRead (c : Char) (r : Option (List Char × List Char)) : Option (List Char × List Char) :=
  r.map fun p => (c :: p.1, p.2)

/-- Reads on to the closing double quote of one line. -/
def readQuoted (cs : List Char) : Option (List Char × List Char) :=
  match cs with
  | [] => none
  | '"' :: rest => some ([], rest)
  | '\\' :: rest =>
    match h : readEscape rest with
    | none => none
    | some (c, after) =>
      have := length_of_readEscape h
      consRead c (readQuoted after)
  | c :: rest => if isTextChar c then consRead c (readQuoted rest) else none
termination_by cs.length

/-- Reads on to the closing single quote of one line. -/
def readVerbatim : Reader (List Char)
  | [] => none
  | '\'' :: rest => some ([], rest)
  | c :: rest => if isTextChar c then consRead c (readVerbatim rest) else none

/-- Reads three closing quotes. Two more quotes may stand before them, which belong to the text. -/
def readClosing (quote : Char) (cs : List Char) : Option (List Char × List Char) :=
  let run := (cs.takeWhile (· == quote)).length
  if run < 3 then none
  else
    let extra := min (run - 3) 2
    some (List.replicate extra quote, cs.drop (3 + extra))

/-- The blanks after a backslash reach to the end of the line. -/
def endsLine (cs : List Char) : Bool := (dropLineEnd? (dropSpaces cs)).isSome

/-- Reads on to the closing double quotes of a text over several lines. -/
def readLongQuoted (cs : List Char) : Option (List Char × List Char) :=
  match cs with
  | [] => none
  | '"' :: rest =>
    match readClosing '"' ('"' :: rest) with
    | some r => some r
    | none => consRead '"' (readLongQuoted rest)
  | '\\' :: rest =>
    if endsLine rest then
      have := length_dropGap rest
      readLongQuoted (dropGap rest)
    else
      match h : readEscape rest with
      | none => none
      | some (c, after) =>
        have := length_of_readEscape h
        consRead c (readLongQuoted after)
  | '\n' :: rest => consRead '\n' (readLongQuoted rest)
  | '\r' :: '\n' :: rest => consRead '\n' (readLongQuoted rest)
  | c :: rest => if isTextChar c then consRead c (readLongQuoted rest) else none
termination_by cs.length

/-- Reads on to the closing single quotes of a text over several lines. -/
def readLongVerbatim : Reader (List Char)
  | [] => none
  | '\'' :: rest =>
    match readClosing '\'' ('\'' :: rest) with
    | some r => some r
    | none => consRead '\'' (readLongVerbatim rest)
  | '\n' :: rest => consRead '\n' (readLongVerbatim rest)
  | '\r' :: '\n' :: rest => consRead '\n' (readLongVerbatim rest)
  | c :: rest => if isTextChar c then consRead c (readLongVerbatim rest) else none

/-- Reads a quotation. A line end right after three opening quotes is dropped. -/
def readQuotation (cs : List Char) : Option (String × List Char) :=
  let text := match cs with
    | '"' :: '"' :: '"' :: rest => readLongQuoted ((dropLineEnd? rest).getD rest)
    | '"' :: rest => readQuoted rest
    | '\'' :: '\'' :: '\'' :: rest => readLongVerbatim ((dropLineEnd? rest).getD rest)
    | '\'' :: rest => readVerbatim rest
    | _ => none
  text.map fun p => (String.ofList p.1, p.2)

end Switchboard.Document
