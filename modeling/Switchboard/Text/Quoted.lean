import Switchboard.Text.Property.Binary
import Switchboard.Text.Numeral

/-!
Quoted text: a text between double quotes in which every character can be told by eye. Quotes and
backslashes take a backslash, four controls have letters of their own, and what cannot be printed, or would
merge with the character before it, is given by its number.
-/

namespace Switchboard.Text

/-- A character by its number in hexadecimal. -/
def codeEscape (c : Char) : List Char :=
  '\\' :: 'u' :: '\x7b' :: (Nat.toDigits 16 c.toNat ++ ['\x7d'])

/-- The quoted form of one character. -/
def quotedChar (c : Char) : List Char :=
  match c with
  | '\x00' => ['\\', '0']
  | '\t' => ['\\', 't']
  | '\r' => ['\\', 'r']
  | '\n' => ['\\', 'n']
  | '\\' => ['\\', '\\']
  | '"' => ['\\', '"']
  | c =>
    if isGraphemeExtend c.toNat then codeEscape c
    else if isPrintable c.toNat then [c]
    else codeEscape c

/-- The quoted form of a text. -/
def quoted (s : String) : String :=
  String.ofList ('"' :: s.toList.flatMap quotedChar ++ ['"'])

end Switchboard.Text
