import Switchboard.Text.Property.Ranges
import Switchboard.Text.Property.ScriptRuns

/-!
Scripts. Every code point has one script of its own; some are used with others as well.
-/

namespace Switchboard.Text

/-- The runs of code points with one script each. -/
def scriptTable : Array (Nat × Nat × String) := readRuns scriptRuns

/-- The script of a code point, by its short name. -/
def scriptOf (n : Nat) : String :=
  match scriptTable.find? fun run => n ≤ run.2.1 with
  | some run => run.2.2
  | none => "Zzzz"

/-- The shared ranges with the scripts that use them. -/
def sharedScriptTable : Array ((Nat × Nat) × List String) :=
  ((tableEntries sharedScriptRanges).map fun entry =>
    match entry.splitOn ":" with
    | [range, scripts] => (readRange range, scripts.splitOn "+")
    | _ => ((1, 0), [])).toArray

/-- The scripts that a code point is used with. -/
def scriptsOf (n : Nat) : List String :=
  match sharedScriptTable.find? fun entry => entry.1.1 ≤ n && n ≤ entry.1.2 with
  | some entry => entry.2
  | none => [scriptOf n]

/-- The short name of each script, with its spellings in lower case. -/
def scriptNameTable : List (String × List String) :=
  (tableEntries scriptNames).filterMap fun entry =>
    match entry.splitOn "+" with
    | short :: spellings => some (short, spellings)
    | [] => none

/-- The script with this spelling in lower case. -/
def scriptNamed? (spelling : String) : Option String :=
  (scriptNameTable.find? fun entry => entry.2.contains spelling).map (·.1)

end Switchboard.Text
