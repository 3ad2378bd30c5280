import Switchboard.Text.Property.Binary
import Switchboard.Text.Property.CaseFold
import Switchboard.Text.Property.Script
import Switchboard.Text.Blank

/-!
Classes of code points, as expressions over ranges, properties and the set operations. Membership is
evaluated on the expression. A class of bytes is a class whose members are byte values.
-/

namespace Switchboard.Pattern

/-- A class of code points. -/
inductive CodeClass where
  | none
  | any
  | range (low high : Nat)
  /-- Word characters, Unicode ones. -/
  | word
  /-- Blanks, Unicode ones. -/
  | blank
  | categories (names : List String)
  | script (name : String)
  /-- The code points used with a script. -/
  | scriptExtension (name : String)
  /-- A binary property by its spelling. -/
  | property (spelling : String)
  | not (c : CodeClass)
  | union (a b : CodeClass)
  | inter (a b : CodeClass)
  /-- The code points that differ in case only from a member. -/
  | anyCase (c : CodeClass)
  /-- The bytes that differ in the case of an ASCII letter only from a member. -/
  | anyAsciiCase (c : CodeClass)
  deriving DecidableEq, Repr

namespace CodeClass

/-- The code point with the other case of its ASCII letter, if it is one. -/
def otherAsciiCase (n : Nat) : Nat :=
  if 0x41 ≤ n ∧ n ≤ 0x5A then n + 32 else if 0x61 ≤ n ∧ n ≤ 0x7A then n - 32 else n

/-- Membership in a class. -/
def contains : CodeClass → Nat → Bool
  | .none, _ => false
  | .any, _ => true
  | .range low high, n => low ≤ n && n ≤ high
  | .word, n => Text.isWordCode n
  | .blank, n => Text.isBlank (Char.ofNat n)
  | .categories names, n => Text.hasCategory names n
  | .script name, n => Text.scriptOf n == name
  | .scriptExtension name, n => (Text.scriptsOf n).contains name
  | .property spelling, n => ((Text.binaryProperty? spelling).map (· n)).getD false
  | .not c, n => !c.contains n
  | .union a b, n => a.contains n || b.contains n
  | .inter a b, n => a.contains n && b.contains n
  | .anyCase c, n => (Text.caseClass n).any c.contains
  | .anyAsciiCase c, n => c.contains n || c.contains (otherAsciiCase n)

/-- One code point. -/
def single (n : Nat) : CodeClass := .range n n

/-- The union of several ranges. -/
def ofRanges (rs : List (Nat × Nat)) : CodeClass :=
  rs.foldl (fun c r => .union c (.range r.1 r.2)) .none

/-- The members of the first class that are not in the second. -/
def diff (a b : CodeClass) : CodeClass := .inter a (.not b)

/-- The members of exactly one of two classes. -/
def symmetricDiff (a b : CodeClass) : CodeClass := .union (a.diff b) (b.diff a)

/-- The named ASCII classes. -/
def ascii? (name : String) : Option CodeClass :=
  (match name with
  | "alnum" => some [(0x30, 0x39), (0x41, 0x5A), (0x61, 0x7A)]
  | "alpha" => some [(0x41, 0x5A), (0x61, 0x7A)]
  | "ascii" => some [(0, 0x7F)]
  | "blank" => some [(0x09, 0x09), (0x20, 0x20)]
  | "cntrl" => some [(0, 0x1F), (0x7F, 0x7F)]
  | "digit" => some [(0x30, 0x39)]
  | "graph" => some [(0x21, 0x7E)]
  | "lower" => some [(0x61, 0x7A)]
  | "print" => some [(0x20, 0x7E)]
  | "punct" => some [(0x21, 0x2F), (0x3A, 0x40), (0x5B, 0x60), (0x7B, 0x7E)]
  | "space" => some [(0x09, 0x0D), (0x20, 0x20)]
  | "upper" => some [(0x41, 0x5A)]
  | "word" => some [(0x30, 0x39), (0x41, 0x5A), (0x5F, 0x5F), (0x61, 0x7A)]
  | "xdigit" => some [(0x30, 0x39), (0x41, 0x46), (0x61, 0x66)]
  | _ => Option.none).map ofRanges

/-- The ASCII word characters. -/
def asciiWord : CodeClass := ofRanges [(0x30, 0x39), (0x41, 0x5A), (0x5F, 0x5F), (0x61, 0x7A)]

/-- The spelling of a property name: lower case, without spaces, dashes and underscores, without a leading
`is`, and without what is not ASCII. -/
def looseName (name : String) : String :=
  let cs := name.toList
  let (isPrefixed, cs) := match cs with
    | a :: b :: rest =>
      if (a == 'i' || a == 'I') && (b == 's' || b == 'S') then (true, rest) else (false, cs)
    | _ => (false, cs)
  let kept := (cs.filter fun c => c != ' ' && c != '_' && c != '-' && c.toNat < 0x80).map Char.toLower
  if isPrefixed && kept == ['c'] then "isc" else String.ofList kept

/-- The class of a general category or group, given its spelling. -/
def category? (spelling : String) : Option CodeClass :=
  match spelling with
  | "any" => some .any
  | "assigned" => some (.not (.categories ["Cn"]))
  | "ascii" => some (.range 0 0x7F)
  | _ => (Text.categoryNamed? spelling).map fun name => .categories (Text.categoryGroup name)

/-- The class that a name alone stands for: a binary property, a general category or a script. Three
spellings are both and mean the category. -/
def named? (name : String) : Option CodeClass :=
  let spelling := looseName name
  if (spelling == "cf" || spelling == "sc" || spelling == "lc").not &&
      (Text.binaryProperty? spelling).isSome then some (.property spelling)
  else (category? spelling).orElse fun _ => (Text.scriptNamed? spelling).map .script

/-- The class of a property with a value. -/
def valued? (name value : String) : Option CodeClass :=
  let spelling := looseName value
  match looseName name with
  | "gc" | "generalcategory" => category? spelling
  | "sc" | "script" => (Text.scriptNamed? spelling).map .script
  | "scx" | "scriptextensions" => (Text.scriptNamed? spelling).map .scriptExtension
  | _ => Option.none

end CodeClass
end Switchboard.Pattern
