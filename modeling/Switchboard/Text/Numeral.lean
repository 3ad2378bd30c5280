/-!
Numerals. Unsigned numbers are read with an optional plus sign and an upper bound; they are written in
decimal, padded with zeros where a width is given, and in lower-case hexadecimal.
-/

namespace Switchboard.Text

/-- The number of values of a machine word. -/
def wordSize : Nat := UInt64.size

/-- The value of a digit in a base of sixteen at most, in either case. -/
def digitIn? (base : Nat) (c : Char) : Option Nat :=
  let value :=
    if '0' ≤ c ∧ c ≤ '9' then some (c.toNat - '0'.toNat)
    else if 'a' ≤ c ∧ c ≤ 'f' then some (c.toNat - 'a'.toNat + 10)
    else if 'A' ≤ c ∧ c ≤ 'F' then some (c.toNat - 'A'.toNat + 10)
    else none
  value.filter (· < base)

/-- The value of a decimal digit. -/
def digitValue? (c : Char) : Option Nat :=
  if '0' ≤ c ∧ c ≤ '9' then some (c.toNat - '0'.toNat) else none

/-- The number that a list of decimal digits denotes, read on from `acc`. -/
def readDigits? : Nat → List Char → Option Nat
  | acc, [] => some acc
  | acc, c :: rest => do readDigits? (acc * 10 + (← digitValue? c)) rest

/-- The number below `bound` that a numeral denotes: one plus sign at most, then one digit or more. -/
def readUnsigned? (bound : Nat) (cs : List Char) : Option Nat :=
  let digits := match cs with
    | '+' :: rest => rest
    | _ => cs
  if digits.isEmpty then none
  else (readDigits? 0 digits).filter (· < bound)

/-- A decimal numeral. -/
def decimal (n : Nat) : String := n.repr

/-- A decimal numeral of three digits or more. -/
def decimal3 (n : Nat) : String :=
  String.ofList (List.replicate (3 - n.repr.length) '0') ++ n.repr

/-- A lower-case hexadecimal numeral. -/
def hex (n : Nat) : String := String.ofList (Nat.toDigits 16 n)

/-- A byte as `0x` and two hexadecimal digits. -/
def hexByte (b : UInt8) : String :=
  "0x" ++ (if b < 16 then "0" else "") ++ hex b.toNat

end Switchboard.Text
