import Switchboard.Text.Bytes

/-!
The ASCII classes of the wire format: names that differ in letter case only, token characters, digits of
the two bases in use.
-/

namespace Switchboard.Text

/-- The text with its ASCII letters in lower case; other characters stay. -/
def foldCase (s : String) : List Char := s.toList.map Char.toLower

/-- Two texts are the same name when they differ in the case of ASCII letters only. -/
def sameName (a b : String) : Bool := foldCase a == foldCase b

theorem sameName_iff {a b : String} : sameName a b = true ↔ foldCase a = foldCase b := by
  simp [sameName]

/-- The characters of a token that are neither letters nor digits. -/
def tokenMarks : List Char :=
  ['!', '#', '$', '%', '&', '\'', '*', '+', '-', '.', '^', '_', '\x60', '|', '~']

/-- A character that may stand in a token. -/
def isTokenChar (c : Char) : Bool := c.isAlphanum || tokenMarks.contains c

/-- A byte that may stand in a token. -/
def isTokenByte (b : UInt8) : Bool := isTokenChar (Char.ofNat b.toNat)

/-- A printable ASCII character other than the space. -/
def isGraphic (c : Char) : Bool := 0x21 ≤ c.toNat && c.toNat ≤ 0x7E

/-- An ASCII control character. -/
def isControl (c : Char) : Bool := c.toNat < 0x20 || c.toNat == 0x7F

/-- The value of a hexadecimal digit in either case. -/
def hexValue? (b : UInt8) : Option Nat :=
  if 0x30 ≤ b ∧ b ≤ 0x39 then some (b.toNat - 0x30)
  else if 0x61 ≤ b ∧ b ≤ 0x66 then some (b.toNat - 0x61 + 10)
  else if 0x41 ≤ b ∧ b ≤ 0x46 then some (b.toNat - 0x41 + 10)
  else none

end Switchboard.Text
