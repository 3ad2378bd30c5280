import Switchboard.Text.Numeral

/-!
Socket addresses: an address of four octets or of eight groups, with a port. The text of eight groups leaves
out the longest run of zeros, and the last two groups may be read as four octets.
-/

namespace Switchboard.Settings

/-- A socket address. -/
inductive Address where
  | octets (a b c d : Nat) (port : Nat)
  | groups (gs : List Nat) (scope port : Nat)
  deriving DecidableEq, Repr

namespace Address

/-- Reads a number below `bound`, of `most` digits at most; a zero at the front is refused unless zeros are
allowed there. -/
def readNumber (base : Nat) (most : Option Nat) (zeros : Bool) (bound : Nat) (cs : List Char) :
    Option (Nat × List Char) :=
  let digits := cs.map (Text.digitIn? base) |>.takeWhile Option.isSome |>.filterMap id
  let n := digits.foldl (fun n d => n * base + d) 0
  if digits.isEmpty || most.any (· < digits.length) || n ≥ bound then none
  else if !zeros && digits.head? == some 0 && digits.length > 1 then none
  else some (n, cs.drop digits.length)

/-- Reads one character. -/
def readChar (c : Char) : List Char → Option (List Char)
  | d :: rest => if d = c then some rest else none
  | [] => none

/-- Reads an octet. -/
def readOctet : List Char → Option (Nat × List Char) := readNumber 10 (some 3) false 256

/-- Reads four octets with dots between them. -/
def readOctets (cs : List Char) : Option ((Nat × Nat × Nat × Nat) × List Char) := do
  let (a, cs) ← readOctet cs
  let (b, cs) ← readOctet (← readChar '.' cs)
  let (c, cs) ← readOctet (← readChar '.' cs)
  let (d, cs) ← readOctet (← readChar '.' cs)
  return ((a, b, c, d), cs)

/-- Reads groups with colons between them, so many at most, as far as there are any; the flag says whether
they ended with four octets, which count as two groups. -/
def readGroups : Nat → Bool → List Char → (List Nat × Bool) × List Char
  | 0, _, cs => (([], false), cs)
  | left + 1, isFirst, cs =>
    match if isFirst then some cs else readChar ':' cs with
    | none => (([], false), cs)
    | some inner =>
      match if left = 0 then none else readOctets inner with
      | some ((a, b, c, d), rest) => (([a * 256 + b, c * 256 + d], true), rest)
      | none =>
        match readNumber 16 (some 4) true 65536 inner with
        | none => (([], false), cs)
        | some (g, rest) =>
          let ((gs, mixed), rest) := readGroups left false rest
          ((g :: gs, mixed), rest)

/-- Reads eight groups, of which a pair of colons may leave out a run of zeros. -/
def readEight (cs : List Char) : Option (List Nat × List Char) :=
  let ((front, mixed), rest) := readGroups 8 true cs
  if front.length = 8 then some (front, rest)
  else if mixed then none
  else do
    let rest ← readChar ':' (← readChar ':' rest)
    let ((back, _), rest) := readGroups (7 - front.length) true rest
    return (front ++ List.replicate (8 - front.length - back.length) 0 ++ back, rest)

/-- Reads a colon and a port. -/
def readPort (cs : List Char) : Option (Nat × List Char) := do
  readNumber 10 none true 65536 (← readChar ':' cs)

/-- Reads the scope of an address, if there is one. -/
def readScope (cs : List Char) : Nat × List Char :=
  (do readNumber 10 none true UInt32.size (← readChar '%' cs)).getD (0, cs)

/-- Reads an address of four octets with its port. -/
def readShort (cs : List Char) : Option (Address × List Char) := do
  let ((a, b, c, d), cs) ← readOctets cs
  let (port, cs) ← readPort cs
  return (.octets a b c d port, cs)

/-- Reads an address of eight groups in brackets with its port. -/
def readLong (cs : List Char) : Option (Address × List Char) := do
  let (gs, cs) ← readEight (← readChar '[' cs)
  let (scope, cs) := readScope cs
  let (port, cs) ← readPort (← readChar ']' cs)
  return (.groups gs scope port, cs)

/-- The address that a text denotes. -/
def ofText? (s : String) : Option Address :=
  match (readShort s.toList).or (readLong s.toList) with
  | some (a, []) => some a
  | _ => none

/-! ## Text -/

/-- The start and the length of the first longest run of zeros; `i` is the position of the list, and the
run before it started at `start` with `len` zeros. -/
def longestZeros : Nat → Nat × Nat → Nat × Nat → List Nat → Nat × Nat
  | _, _, best, [] => best
  | i, (start, len), best, g :: rest =>
    if g = 0 then
      let run := (if len = 0 then i else start, len + 1)
      longestZeros (i + 1) run (if run.2 > best.2 then run else best) rest
    else longestZeros (i + 1) (0, 0) best rest

/-- Groups in hexadecimal with colons between them. -/
def groupText (gs : List Nat) : String := ":".intercalate (gs.map Text.hex)

/-- Four octets with dots between them. -/
def octetText (a b c d : Nat) : String := ".".intercalate ([a, b, c, d].map Text.decimal)

/-- The text of eight groups. An address that stands for one of four octets shows them. -/
def eightText (gs : List Nat) : String :=
  match gs with
  | [0, 0, 0, 0, 0, 0xFFFF, x, y] =>
    "::ffff:" ++ octetText (x / 256) (x % 256) (y / 256) (y % 256)
  | _ =>
    let (start, len) := longestZeros 0 (0, 0) (0, 0) gs
    if len > 1 then groupText (gs.take start) ++ "::" ++ groupText (gs.drop (start + len))
    else groupText gs

/-- The text of an address. -/
def text : Address → String
  | octets a b c d port => octetText a b c d ++ ":" ++ Text.decimal port
  | groups gs scope port =>
    let scopeText := if scope = 0 then "" else "%" ++ Text.decimal scope
    "[" ++ eightText gs ++ scopeText ++ "]:" ++ Text.decimal port

end Address
end Switchboard.Settings
