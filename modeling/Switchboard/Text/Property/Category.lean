import Switchboard.Text.Property.Ranges
import Switchboard.Text.Property.CategoryRuns

/-!
General categories. Every code point has exactly one of thirty; a group is a set of categories.
-/

namespace Switchboard.Text

/-- The runs of code points with one general category each. -/
def categoryTable : Array (Nat × Nat × String) := readRuns categoryRuns

/-- The general category of a code point, by its short name. -/
def categoryOf (n : Nat) : String :=
  match categoryTable.find? fun run => n ≤ run.2.1 with
  | some run => run.2.2
  | none => "Cn"

/-- The categories of a group, or the category itself. -/
def categoryGroup (name : String) : List String :=
  match name with
  | "C" => ["Cc", "Cf", "Cn", "Co", "Cs"]
  | "L" => ["Ll", "Lm", "Lo", "Lt", "Lu"]
  | "LC" => ["Ll", "Lt", "Lu"]
  | "M" => ["Mc", "Me", "Mn"]
  | "N" => ["Nd", "Nl", "No"]
  | "P" => ["Pc", "Pd", "Pe", "Pf", "Pi", "Po", "Ps"]
  | "S" => ["Sc", "Sk", "Sm", "So"]
  | "Z" => ["Zl", "Zp", "Zs"]
  | _ => [name]

/-- The short name of each category and group, then its spellings in lower case. -/
def categoryNames : List (String × List String) :=
  [("C", ["c", "other"]), ("Cc", ["cc", "control", "cntrl"]), ("Cf", ["cf", "format"]),
   ("Cn", ["cn", "unassigned"]), ("Co", ["co", "privateuse"]), ("Cs", ["cs", "surrogate"]),
   ("L", ["l", "letter"]), ("LC", ["lc", "casedletter"]), ("Ll", ["ll", "lowercaseletter"]),
   ("Lm", ["lm", "modifierletter"]), ("Lo", ["lo", "otherletter"]),
   ("Lt", ["lt", "titlecaseletter"]), ("Lu", ["lu", "uppercaseletter"]),
   ("M", ["m", "mark", "combiningmark"]), ("Mc", ["mc", "spacingmark"]),
   ("Me", ["me", "enclosingmark"]), ("Mn", ["mn", "nonspacingmark"]), ("N", ["n", "number"]),
   ("Nd", ["nd", "decimalnumber", "digit"]), ("Nl", ["nl", "letternumber"]),
   ("No", ["no", "othernumber"]), ("P", ["p", "punctuation", "punct"]),
   ("Pc", ["pc", "connectorpunctuation"]), ("Pd", ["pd", "dashpunctuation"]),
   ("Pe", ["pe", "closepunctuation"]), ("Pf", ["pf", "finalpunctuation"]),
   ("Pi", ["pi", "initialpunctuation"]), ("Po", ["po", "otherpunctuation"]),
   ("Ps", ["ps", "openpunctuation"]), ("S", ["s", "symbol"]), ("Sc", ["sc", "currencysymbol"]),
   ("Sk", ["sk", "modifiersymbol"]), ("Sm", ["sm", "mathsymbol"]), ("So", ["so", "othersymbol"]),
   ("Z", ["z", "separator"]), ("Zl", ["zl", "lineseparator"]),
   ("Zp", ["zp", "paragraphseparator"]), ("Zs", ["zs", "spaceseparator"])]

/-- The category or group with this spelling in lower case. -/
def categoryNamed? (spelling : String) : Option String :=
  (categoryNames.find? fun entry => entry.2.contains spelling).map (·.1)

/-- The code point belongs to one of the categories. -/
def hasCategory (names : List String) (n : Nat) : Bool := names.contains (categoryOf n)

end Switchboard.Text
