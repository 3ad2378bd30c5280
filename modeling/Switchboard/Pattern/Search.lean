import Switchboard.Pattern.Node
import Switchboard.Text.Bytes

/-!
Searching. A set of places in a text is a number whose binary digits say which places belong to it; a pattern
turns the set of places where it may start into the set of places where it may end. Every pattern is a
composition of shifts and masks of such sets, so a search takes polynomial time whatever the pattern.
-/

namespace Switchboard.Pattern

/-- A set of places: place `n` belongs to it when binary digit `n` is one. -/
abbrev Places := Nat

/-- The set of all places from zero to `n`. -/
def allPlaces (n : Nat) : Places := (1 <<< (n + 1)) - 1

/-- The set of the places in a list. -/
def placesOf (places : List Nat) : Places := places.foldl (fun s n => s ||| 1 <<< n) 0

/-- The length and the code point of the UTF-8 character at the front of some bytes. -/
def decodeFirst? : Bytes → Option (Nat × Nat)
  | [] => none
  | a :: rest =>
    let tail (b : UInt8) : Bool := 0x80 ≤ b && b ≤ 0xBF
    let bits (b : UInt8) : Nat := b.toNat % 64
    if a < 0x80 then some (1, a.toNat)
    else if a < 0xC2 then none
    else if a < 0xE0 then
      match rest with
      | b :: _ => if tail b then some (2, a.toNat % 32 * 64 + bits b) else none
      | _ => none
    else if a < 0xF0 then
      match rest with
      | b :: c :: _ =>
        let n := a.toNat % 16 * 4096 + bits b * 64 + bits c
        if tail b && tail c && 0x800 ≤ n && !(0xD800 ≤ n && n ≤ 0xDFFF) then some (3, n) else none
      | _ => none
    else if a < 0xF5 then
      match rest with
      | b :: c :: d :: _ =>
        let n := a.toNat % 8 * 262144 + bits b * 4096 + bits c * 64 + bits d
        if tail b && tail c && tail d && 0x10000 ≤ n && n ≤ 0x10FFFF then some (4, n) else none
      | _ => none
    else none

/-- What is known of a place: its number, the character and the byte that start there, and the character and
the byte that end there. -/
structure Place where
  index : Nat
  charAfter : Option (Nat × Nat)
  byteAfter : Option UInt8
  charBefore : Option Nat
  byteBefore : Option UInt8

/-- The places of a text, from a place on. `ending` holds characters under way, each with the number of bytes
that it still takes. -/
def placesFrom (index : Nat) (byteBefore : Option UInt8) (ending : Option (Nat × Nat)) :
    Bytes → List Place
  | [] => [⟨index, none, none, ending.bind fun e => if e.1 = 0 then some e.2 else none, byteBefore⟩]
  | b :: rest =>
    let here := decodeFirst? (b :: rest)
    let charBefore := ending.bind fun e => if e.1 = 0 then some e.2 else none
    let underWay := match here with
      | some (length, code) => some (length - 1, code)
      | none => ending.bind fun e => if e.1 = 0 then none else some (e.1 - 1, e.2)
    ⟨index, here, some b, charBefore, byteBefore⟩ :: placesFrom (index + 1) (some b) underWay rest

/-- The places of a text. -/
def textPlaces (text : Bytes) : List Place := placesFrom 0 none none text

/-- The character before or after a place is a word character. -/
def isWordChar : Option Nat → Bool
  | some n => CodeClass.word.contains n
  | none => false

/-- The byte before or after a place is an ASCII word character. -/
def isWordByte : Option UInt8 → Bool
  | some b => CodeClass.asciiWord.contains b.toNat
  | none => false

/-- A place fulfils a condition. -/
def Look.holds (l : Look) (p : Place) : Bool :=
  let before (unicode : Bool) := if unicode then isWordChar p.charBefore else isWordByte p.byteBefore
  let after (unicode : Bool) :=
    if unicode then isWordChar (p.charAfter.map (·.2)) else isWordByte p.byteAfter
  let clearBefore (unicode : Bool) := !unicode || p.byteBefore.isNone || p.charBefore.isSome
  let clearAfter (unicode : Bool) := !unicode || p.byteAfter.isNone || p.charAfter.isSome
  match l with
  | .textStart => p.byteBefore.isNone
  | .textEnd => p.byteAfter.isNone
  | .lineStart => p.byteBefore.isNone || p.byteBefore == some 10
  | .lineEnd => p.byteAfter.isNone || p.byteAfter == some 10
  | .anyLineStart =>
    p.byteBefore.isNone || p.byteBefore == some 10 ||
      (p.byteBefore == some 13 && p.byteAfter != some 10)
  | .anyLineEnd =>
    p.byteAfter.isNone || p.byteAfter == some 13 ||
      (p.byteAfter == some 10 && p.byteBefore != some 13)
  | .wordEdge u => before u != after u
  | .notWordEdge u => clearBefore u && clearAfter u && before u == after u
  | .wordStart u => !before u && after u
  | .wordEnd u => before u && !after u
  | .wordStartHalf u => clearBefore u && !before u
  | .wordEndHalf u => clearAfter u && !after u

/-- A pattern made ready for one text: its leaves hold the places where they apply, by the number of bytes
that they consume. -/
inductive Moves where
  | stay
  | leap (places : List (Nat × Places))
  | seq (a b : Moves)
  | alt (a b : Moves)
  | repeated (a : Moves) (least : Nat) (most : Option Nat)

/-- The pattern made ready for the places of a text. -/
def Moves.ofNode (places : List Place) : Node → Moves
  | .empty => .stay
  | .char c =>
    let here := places.filterMap fun p =>
      p.charAfter.bind fun (length, code) =>
        if c.contains code then some (p.index, length) else none
    .leap ([1, 2, 3, 4].map fun n =>
      (n, placesOf ((here.filter (·.2 == n)).map (·.1))))
  | .byte c =>
    .leap [(1, placesOf (places.filterMap fun p =>
      p.byteAfter.bind fun b => if c.contains b.toNat then some p.index else none))]
  | .look l =>
    .leap [(0, placesOf (places.filterMap fun p => if l.holds p then some p.index else none))]
  | .seq a b => .seq (ofNode places a) (ofNode places b)
  | .alt a b => .alt (ofNode places a) (ofNode places b)
  | .repeated a least most => .repeated (ofNode places a) least most

/-- Applies a step so many times, or until nothing changes. -/
def iterate (step : Places → Places) : Nat → Places → Places
  | 0, s => s
  | n + 1, s =>
    let next := step s
    if next = s then s else iterate step n next

/-- All places reached by so many steps at most. Only the places reached last are stepped from. -/
def spread (step : Places → Places) : Nat → Places → Places → Places
  | 0, reached, _ => reached
  | n + 1, reached, last =>
    let next := step last
    let fresh := next ^^^ (next &&& reached)
    if fresh = 0 then reached else spread step n (reached ||| fresh) fresh

/-- The places where a pattern may end, from those where it may start; the text has less than `bound`
places. -/
def Moves.run (bound : Nat) : Moves → Places → Places
  | .stay, s => s
  | .leap leaps, s => leaps.foldl (fun ends l => ends ||| ((s &&& l.2) <<< l.1)) 0
  | .seq a b, s => b.run bound (a.run bound s)
  | .alt a b, s => a.run bound s ||| b.run bound s
  | .repeated a least most, s =>
    let start := iterate (a.run bound) least s
    match most with
    | none => spread (a.run bound) bound start start
    | some most => spread (a.run bound) (min (most - least) bound) start start

/-- The pattern is found somewhere in the text. -/
def Node.foundIn (pattern : Node) (text : Bytes) : Bool :=
  let places := textPlaces text
  (Moves.ofNode places pattern).run (places.length + 1) (allPlaces text.length) != 0

end Switchboard.Pattern
