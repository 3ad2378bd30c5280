import Switchboard.Text.Property.Ranges
import Switchboard.Text.Property.CaseRuns

/-!
Simple case folding of code points. Two code points are equal without regard to case when their folded forms
are equal; the members of such a class are listed by searching the table backwards.
-/

namespace Switchboard.Text

/-- Code points `first`, `first + stride`, … that fold to `target`, `target + stride`, … -/
structure CaseRun where
  first : Nat
  count : Nat
  stride : Nat
  target : Nat

/-- The runs of the table. -/
def caseTable : Array CaseRun :=
  ((tableEntries caseRuns).filterMap fun entry =>
    match entry.splitOn ":" with
    | [first, count, stride, target] =>
      some ⟨hexNumber first.toList, hexNumber count.toList, hexNumber stride.toList,
        hexNumber target.toList⟩
    | _ => none).toArray

/-- The code point is `start` plus a multiple of the stride, less than `count` of them. -/
def CaseRun.offset? (run : CaseRun) (start n : Nat) : Option Nat :=
  if start ≤ n ∧ n < start + run.count * run.stride ∧ (n - start) % run.stride = 0 then
    some (n - start)
  else none

/-- The folded form of a code point. -/
def foldCode (n : Nat) : Nat :=
  (caseTable.findSome? fun run => (run.offset? run.first n).map (run.target + ·)).getD n

/-- The code points that differ from this one in case only, itself included. -/
def caseClass (n : Nat) : List Nat :=
  let folded := foldCode n
  folded :: (caseTable.toList.filterMap fun run =>
    (run.offset? run.target folded).map (run.first + ·))

end Switchboard.Text
