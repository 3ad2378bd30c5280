import Mathlib.Data.List.Forall2
import Switchboard.Text.Ascii
import Switchboard.Proofs.Text.Utf8

/-!
The classes of ASCII: token characters and visible characters are ASCII, and a byte that may stand in a token
is one character. Putting a character in lower case changes the 26 capital letters only (`toNat_toLower`), and two
texts are the same name when they differ in nothing but the case of these (`foldCase_eq_iff`).
-/

namespace Switchboard.Text

theorem isGraphic_iff {c : Char} : isGraphic c = true ↔ 0x21 ≤ c.toNat ∧ c.toNat ≤ 0x7E := by
  simp [isGraphic]

theorem space_not_mem_of_graphic {cs : List Char} (h : cs.all isGraphic = true) : ' ' ∉ cs := by
  intro hm
  exact absurd (List.all_eq_true.1 h ' ' hm) (by decide)

theorem ascii_of_graphic {cs : List Char} (h : cs.all isGraphic = true) : ∀ c ∈ cs, c.toNat < 0x80 := by
  intro c hc
  have := isGraphic_iff.1 (List.all_eq_true.1 h c hc)
  omega

/-- Token characters are ASCII. -/
theorem isTokenChar_lt {c : Char} (h : isTokenChar c = true) : c.toNat < 0x80 := by
  rcases Bool.or_eq_true_iff.1 h with h | h
  · -- the last letter of either case and the last digit are ASCII
    have hbelow : ∀ last : Char, last.toNat < 0x80 → c.val ≤ last.val → c.toNat < 0x80 :=
      fun last hlast hle => Nat.lt_of_le_of_lt (UInt32.le_iff_toNat_le.1 hle) hlast
    rcases Bool.or_eq_true_iff.1 h with h | h
    · rcases Bool.or_eq_true_iff.1 h with h | h
      · exact hbelow 'Z' (by decide) (of_decide_eq_true h).2
      · exact hbelow 'z' (by decide) (of_decide_eq_true (Bool.and_eq_true_iff.1 h).2)
    · exact hbelow '9' (by decide) (of_decide_eq_true (Bool.and_eq_true_iff.1 h).2)
  · have hmarks : tokenMarks.all isGraphic = true := by decide
    exact ascii_of_graphic hmarks c (List.contains_iff_mem.1 h)

theorem isTokenByte_lt {b : UInt8} (h : isTokenByte b = true) : b < 0x80 := by
  have := isTokenChar_lt h
  rw [toNat_char_of_byte] at this
  exact UInt8.lt_iff_toNat_lt.2 this

/-- The bytes of a text of token characters may stand in a token. -/
theorem isTokenByte_of_mem_utf8 {s : String} (h : ∀ c ∈ s.toList, isTokenChar c = true) {b : UInt8}
    (hb : b ∈ utf8 s) : isTokenByte b = true := by
  have hread : lossyFrom .between (utf8 s) = s.toList := by
    rw [← String.toList_ofList (l := lossyFrom .between (utf8 s)), ← lossy, lossy_utf8]
  have hascii : ∀ c ∈ lossyFrom .between (utf8 s), c.toNat < 0x80 := by
    intro c hc
    rw [hread] at hc
    exact isTokenChar_lt (h c hc)
  exact h _ (mem_of_mem_utf8 (ascii_of_lossyFrom hascii b hb) hb)

/-- The lower case of a capital letter is 32 places after it; all other characters stay. -/
theorem toNat_toLower (c : Char) :
    c.toLower.toNat = if 65 ≤ c.toNat ∧ c.toNat ≤ 90 then c.toNat + 32 else c.toNat := by
  have hrange : (c.val ≥ 'A'.val ∧ c.val ≤ 'Z'.val) ↔ 65 ≤ c.toNat ∧ c.toNat ≤ 90 :=
    and_congr UInt32.le_iff_toNat_le UInt32.le_iff_toNat_le
  unfold Char.toLower
  by_cases h : 65 ≤ c.toNat ∧ c.toNat ≤ 90
  · rw [dif_pos (hrange.2 h), if_pos h]
    have hle : c.val.toNat ≤ 90 := h.2
    show (c.val + ('a'.val - 'A'.val)).toNat = c.val.toNat + 32
    rw [UInt32.toNat_add, show ('a'.val - 'A'.val).toNat = 32 from rfl]
    omega
  · rw [dif_neg (mt hrange.1 h), if_neg h]

/-- The lower case of a character is ASCII only if the character is. -/
theorem toLower_lt_iff {c : Char} : c.toLower.toNat < 0x80 ↔ c.toNat < 0x80 := by
  rw [toNat_toLower]
  split <;> omega

/-- A capital letter with its lower case. -/
def IsCapitalOf (c d : Char) : Prop := 65 ≤ c.toNat ∧ c.toNat ≤ 90 ∧ d.toNat = c.toNat + 32

/-- Two characters are the same, up to the case of an ASCII letter. -/
def SameLetter (c d : Char) : Prop := c = d ∨ IsCapitalOf c d ∨ IsCapitalOf d c

/-- Two texts differ in the case of ASCII letters at most. -/
def SameUpToCase (a b : String) : Prop := List.Forall₂ SameLetter a.toList b.toList

theorem toLower_eq_iff {c d : Char} : c.toLower = d.toLower ↔ SameLetter c d := by
  rw [← Char.toNat_inj, toNat_toLower, toNat_toLower, SameLetter, IsCapitalOf, IsCapitalOf, ← Char.toNat_inj]
  split <;> split <;> omega

theorem foldCase_eq_iff {a b : String} : foldCase a = foldCase b ↔ SameUpToCase a b := by
  have hletter : (fun c d : Char => c.toLower = d.toLower) = SameLetter := funext₂ fun c d => propext toLower_eq_iff
  rw [foldCase, foldCase, ← List.forall₂_eq_eq_eq, List.forall₂_map_left_iff, List.forall₂_map_right_iff, hletter,
    SameUpToCase]

theorem sameName_iff_sameUpToCase {a b : String} : sameName a b = true ↔ SameUpToCase a b :=
  sameName_iff.trans foldCase_eq_iff

instance (a b : String) : Decidable (SameUpToCase a b) := decidable_of_iff _ sameName_iff_sameUpToCase

/-- A text of visible characters of ASCII has as many bytes as characters. -/
theorem byteLength_of_graphic {s : String} (h : s.toList.all isGraphic = true) :
    byteLength s = s.toList.length := by
  rw [← length_utf8, length_utf8_of_ascii (ascii_of_graphic h)]

end Switchboard.Text
