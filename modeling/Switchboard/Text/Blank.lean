/-!
Blanks and trimming. `isBlank` is the Unicode property White_Space; `isSpaceTab` is the narrower class
of the wire format. Trimming removes the members of a class from both ends of a text.
-/

namespace Switchboard.Text

/-- The characters with the property White_Space. -/
def isBlank (c : Char) : Bool :=
  let n := c.toNat
  (9 ≤ n && n ≤ 13) || n == 0x20 || n == 0x85 || n == 0xA0 || n == 0x1680 ||
    (0x2000 ≤ n && n ≤ 0x200A) || n == 0x2028 || n == 0x2029 || n == 0x202F || n == 0x205F ||
    n == 0x3000

/-- Space and tab. -/
def isSpaceTab (c : Char) : Bool := c == ' ' || c == '\t'

/-- The list without the members of the class at its two ends. -/
def trimList (p : Char → Bool) (cs : List Char) : List Char :=
  ((cs.dropWhile p).reverse.dropWhile p).reverse

/-- The text without the members of the class at its two ends. -/
def trimBy (p : Char → Bool) (s : String) : String := String.ofList (trimList p s.toList)

/-- The text without spaces and tabs at its two ends. -/
def trimSpaceTab (s : String) : String := trimBy isSpaceTab s

@[simp] theorem trimList_nil (p : Char → Bool) : trimList p [] = [] := rfl

end Switchboard.Text
