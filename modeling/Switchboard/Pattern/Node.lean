import Switchboard.Pattern.CodeClass

/-!
Patterns as trees. A leaf consumes one character in its UTF-8 form, or one byte, or nothing at a place that
fulfils a condition.
-/

namespace Switchboard.Pattern

/-- A condition on a place between two bytes. -/
inductive Look where
  | textStart
  | textEnd
  | lineStart
  | lineEnd
  /-- The start of a line that a carriage return may end too. -/
  | anyLineStart
  /-- The end of a line that a carriage return may end too. -/
  | anyLineEnd
  /-- The edges of words, by Unicode characters or by ASCII bytes. -/
  | wordEdge (unicode : Bool)
  | notWordEdge (unicode : Bool)
  | wordStart (unicode : Bool)
  | wordEnd (unicode : Bool)
  | wordStartHalf (unicode : Bool)
  | wordEndHalf (unicode : Bool)
  deriving DecidableEq, Repr

/-- A pattern. -/
inductive Node where
  | empty
  /-- One character of a class, in UTF-8. -/
  | char (c : CodeClass)
  /-- One byte of a class. -/
  | byte (c : CodeClass)
  | look (l : Look)
  | seq (a b : Node)
  | alt (a b : Node)
  /-- Between `least` and `most` times, or any number from `least` on. -/
  | repeated (a : Node) (least : Nat) (most : Option Nat)
  deriving DecidableEq, Repr

namespace Node

/-- The bytes that a pattern consumes at most are none. -/
def isEmptyOnly : Node → Bool
  | .empty => true
  | .char _ => false
  | .byte _ => false
  | .look _ => true
  | .seq a b => a.isEmptyOnly && b.isEmptyOnly
  | .alt a b => a.isEmptyOnly && b.isEmptyOnly
  | .repeated a _ most => a.isEmptyOnly || most == some 0

/-- The bytes of one state of an automaton. -/
def stateCost : Nat := 32

/-- An estimate of the memory of the states for a class of characters, in bytes. -/
def classCost : CodeClass → Nat
  | .none => 0
  | .any => 12 * stateCost
  | .range low high =>
    if high < 0x80 then 8
    else if low = high then
      stateCost * (if low < 0x800 then 2 else if low < 0x10000 then 3 else 4)
    else 4 * stateCost
  | .word => 1440 * stateCost
  | .blank => 16 * stateCost
  | .categories ["Nd"] => 120 * stateCost
  | .categories _ => 1200 * stateCost
  | .script _ => 80 * stateCost
  | .scriptExtension _ => 80 * stateCost
  | .property _ => 1200 * stateCost
  | .not c => classCost c + 12 * stateCost
  | .union a b => classCost a + classCost b
  | .inter a b => max (classCost a) (classCost b)
  | .anyCase c => classCost c + 8
  | .anyAsciiCase c => classCost c + 8

/-- An estimate of the memory of an automaton for the pattern, in bytes. A repetition costs as many copies
as it has, one that consumes nothing a single copy. -/
def cost : Node → Nat
  | .empty => stateCost
  | .char c => stateCost + (if classCost c ≤ 8 then 0 else classCost c)
  | .byte _ => stateCost
  | .look _ => stateCost
  | .seq a b => a.cost + b.cost
  | .alt a b => a.cost + b.cost + 2 * stateCost
  | .repeated a least most =>
    let least := if a.isEmptyOnly then min least 1 else least
    let most := if a.isEmptyOnly then some (min (most.getD 1) 1) else most
    match most with
    | none => (max least 1) * a.cost + 2 * stateCost
    | some most => least * a.cost + (most - least) * (a.cost + stateCost + 8)

/-- The memory that an automaton may take. -/
def costLimit : Nat := 10 * 1024 * 1024

end Node
end Switchboard.Pattern
