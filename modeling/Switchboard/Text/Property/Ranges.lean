/-!
Sets of code points given by ranges, and the reader of their tables.
-/

namespace Switchboard.Text

/-- A set of code points: ranges with both ends included. -/
structure CodeSet where
  ranges : Array (Nat × Nat)

/-- Membership in a set of code points. -/
def CodeSet.contains (s : CodeSet) (n : Nat) : Bool :=
  s.ranges.any fun r => r.1 ≤ n && n ≤ r.2

/-- The value of a lower-case hexadecimal digit. -/
def hexDigitOf (c : Char) : Nat :=
  if c.isDigit then c.toNat - '0'.toNat else c.toNat - 'a'.toNat + 10

/-- A character that is a lower-case hexadecimal digit. -/
def isTableDigit (c : Char) : Bool := c.isDigit || ('a' ≤ c && c ≤ 'f')

/-- The number that lower-case hexadecimal digits denote. -/
def hexNumber (cs : List Char) : Nat := cs.foldl (fun n c => n * 16 + hexDigitOf c) 0

/-- The entries of a table, which stand between the spaces of its lines. -/
def tableEntries (table : List String) : List String := table.flatMap (·.splitOn " ")

/-- A range, written as its ends with a dash between them, or as its only member. -/
def readRange (entry : String) : Nat × Nat :=
  match entry.splitOn "-" with
  | [low, high] => (hexNumber low.toList, hexNumber high.toList)
  | _ => (hexNumber entry.toList, hexNumber entry.toList)

/-- The set that a table of ranges denotes. -/
def CodeSet.ofTable (table : List String) : CodeSet :=
  ⟨((tableEntries table).map readRange).toArray⟩

/-- The runs of a table, each with its first and last code point and its label. -/
def readRuns (table : List String) : Array (Nat × Nat × String) :=
  ((tableEntries table).foldl (fun (acc : Nat × Array (Nat × Nat × String)) entry =>
    let cs := entry.toList
    let size := hexNumber (cs.takeWhile isTableDigit)
    let label := String.ofList (cs.dropWhile isTableDigit)
    (acc.1 + size, acc.2.push (acc.1, acc.1 + size - 1, label))) (0, #[])).2

end Switchboard.Text
