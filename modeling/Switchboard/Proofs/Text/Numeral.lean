import Switchboard.Proofs.Text.Ascii
import Switchboard.Proofs.Text.Blank
import Switchboard.Text.Numeral

/-!
Decimal numerals, written and read back. What is read as a number is a list of decimal digits that denotes it, with or
without a plus sign before it (`readUnsigned?_eq_some_iff`). Hence a number is read back from its numeral
(`readUnsigned?_decimal`), and one with zeros before it is a numeral of the number too (`isNumeral_decimal3`).
-/

namespace Switchboard.Text

theorem isDigit_iff {c : Char} : c.isDigit = true ↔ 48 ≤ c.toNat ∧ c.toNat ≤ 57 := by
  rw [Char.isDigit, Bool.and_eq_true, decide_eq_true_eq, decide_eq_true_eq]
  exact and_congr UInt32.le_iff_toNat_le UInt32.le_iff_toNat_le

/-- Digits are visible characters. -/
theorem isGraphic_of_isDigit {c : Char} (h : c.isDigit = true) : isGraphic c = true := by
  have := isDigit_iff.1 h
  rw [isGraphic_iff]
  omega

/-- No digit is a blank. -/
theorem isBlank_of_isDigit {c : Char} (h : c.isDigit = true) : isBlank c = false := by
  have := isDigit_iff.1 h
  simp [isBlank]
  omega

/-! ## Reading digits -/

/-- Decimal digits, one at least, that denote a number. -/
structure IsNumeral (cs : List Char) (n : Nat) : Prop where
  nonempty : cs ≠ []
  digits : ∀ c ∈ cs, c.isDigit = true
  value : Nat.ofDigitChars 10 cs 0 = n

section Reading

variable {cs : List Char}

/-- A numeral has no blank at its ends. -/
theorem IsNumeral.isBare {n : Nat} (h : IsNumeral cs n) : IsBare isBlank cs :=
  ⟨fun c hc => isBlank_of_isDigit (h.digits c (List.mem_of_mem_head? hc)),
    fun c hc => isBlank_of_isDigit (h.digits c (List.mem_of_getLast? hc))⟩

theorem IsNumeral.isGraphic {n : Nat} (h : IsNumeral cs n) : cs.all Text.isGraphic = true :=
  List.all_eq_true.2 fun c hc => isGraphic_of_isDigit (h.digits c hc)

/-- What digits denote is less than the power of ten that is their number. -/
theorem IsNumeral.lt {n : Nat} (h : IsNumeral cs n) : n < 10 ^ cs.length := by
  -- the induction carries the number denoted by the digits before
  have hfrom : ∀ (cs : List Char) (acc : Nat), (∀ c ∈ cs, c.isDigit = true) →
      Nat.ofDigitChars 10 cs acc < (acc + 1) * 10 ^ cs.length := by
    intro cs
    induction cs with
    | nil =>
      intro acc _
      rw [Nat.ofDigitChars_nil, List.length_nil]
      omega
    | cons c cs ih =>
      intro acc hdigits
      obtain ⟨hc, hcs⟩ := List.forall_mem_cons.1 hdigits
      have hdigit : c.toNat - '0'.toNat ≤ 9 := by
        have := isDigit_iff.1 hc
        have : '0'.toNat = 48 := rfl
        omega
      rw [Nat.ofDigitChars_cons, List.length_cons, Nat.pow_succ']
      calc Nat.ofDigitChars 10 cs (10 * acc + (c.toNat - '0'.toNat))
          < (10 * acc + (c.toNat - '0'.toNat) + 1) * 10 ^ cs.length := ih _ hcs
        _ ≤ (acc + 1) * 10 * 10 ^ cs.length := Nat.mul_le_mul_right _ (by omega)
        _ = (acc + 1) * (10 * 10 ^ cs.length) := Nat.mul_assoc _ _ _
  have hlt := hfrom cs 0 h.digits
  rwa [h.value, Nat.zero_add, Nat.one_mul] at hlt

theorem not_isNumeral_plus {n : Nat} : ¬ IsNumeral ('+' :: cs) n :=
  fun h => absurd (h.digits '+' List.mem_cons_self) (by decide)

theorem digitValue?_eq (c : Char) : digitValue? c = if c.isDigit then some (c.toNat - '0'.toNat) else none := by
  have hrange : ('0' ≤ c ∧ c ≤ '9') ↔ c.isDigit = true := by
    rw [isDigit_iff]
    exact and_congr UInt32.le_iff_toNat_le UInt32.le_iff_toNat_le
  rw [digitValue?]
  exact if_congr hrange rfl rfl

theorem readDigits?_eq_some_iff {acc n : Nat} :
    readDigits? acc cs = some n ↔ (∀ c ∈ cs, c.isDigit = true) ∧ Nat.ofDigitChars 10 cs acc = n := by
  induction cs generalizing acc with
  | nil => simp [readDigits?]
  | cons c cs ih =>
    rw [readDigits?, digitValue?_eq, List.forall_mem_cons]
    by_cases hc : c.isDigit = true
    · rw [if_pos hc, Nat.ofDigitChars_cons, Nat.mul_comm 10 acc, and_iff_right hc]
      exact ih
    · rw [if_neg hc]
      exact iff_of_false (by simp) fun h => hc h.1.1

theorem readNumeral?_eq_some_iff {bound n : Nat} :
    (if cs.isEmpty then none else (readDigits? 0 cs).filter (· < bound)) = some n ↔
      IsNumeral cs n ∧ n < bound := by
  by_cases hempty : cs.isEmpty = true
  · rw [if_pos hempty]
    exact iff_of_false (by simp) fun h => h.1.nonempty (List.isEmpty_iff.1 hempty)
  · have hne : cs ≠ [] := fun hnil => hempty (List.isEmpty_iff.2 hnil)
    rw [if_neg hempty, Option.filter_eq_some_iff, readDigits?_eq_some_iff, decide_eq_true_eq]
    exact and_congr_left fun _ => ⟨fun h => ⟨hne, h.1, h.2⟩, fun h => ⟨h.digits, h.value⟩⟩

/-- What is read as a number: a numeral of it, with or without a plus sign. -/
theorem readUnsigned?_eq_some_iff {bound n : Nat} :
    readUnsigned? bound cs = some n ↔
      (IsNumeral cs n ∨ ∃ digits, cs = '+' :: digits ∧ IsNumeral digits n) ∧ n < bound := by
  unfold readUnsigned?
  split
  next rest =>
    simp only
    rw [readNumeral?_eq_some_iff]
    refine and_congr_left fun _ => ⟨fun h => Or.inr ⟨rest, rfl, h⟩, ?_⟩
    rintro (h | ⟨digits, hrest, h⟩)
    · exact absurd h not_isNumeral_plus
    · obtain ⟨-, rfl⟩ := List.cons.inj hrest
      exact h
  next hplus =>
    simp only
    rw [readNumeral?_eq_some_iff]
    refine and_congr_left fun _ => ⟨Or.inl, ?_⟩
    rintro (h | ⟨digits, rfl, -⟩)
    · exact h
    · exact absurd rfl (hplus digits)

end Reading

/-! ## Numerals -/

theorem isDigit_of_mem_decimal {n : Nat} {c : Char} (h : c ∈ (decimal n).toList) : c.isDigit = true := by
  rw [decimal, Nat.toList_repr] at h
  exact Nat.isDigit_of_mem_toDigits (by decide) (by decide) h

theorem toList_decimal_ne_nil (n : Nat) : (decimal n).toList ≠ [] := by
  rw [decimal, Nat.toList_repr]
  exact Nat.toDigits_ne_nil

theorem isNumeral_decimal (n : Nat) : IsNumeral (decimal n).toList n where
  nonempty := toList_decimal_ne_nil n
  digits := fun _ hc => isDigit_of_mem_decimal hc
  value := by rw [decimal, Nat.toList_repr, Nat.ofDigitChars_ten_toDigits]

/-- A number is read back from its numeral. -/
theorem readUnsigned?_decimal {n bound : Nat} (h : n < bound) :
    readUnsigned? bound (decimal n).toList = some n :=
  readUnsigned?_eq_some_iff.2 ⟨Or.inl (isNumeral_decimal n), h⟩

theorem toList_decimal3 (n : Nat) :
    (decimal3 n).toList = List.replicate (3 - n.repr.length) '0' ++ (decimal n).toList := by
  rw [decimal3, String.toList_append, String.toList_ofList]
  rfl

theorem isDigit_of_mem_decimal3 {n : Nat} {c : Char} (h : c ∈ (decimal3 n).toList) :
    c.isDigit = true := by
  rw [toList_decimal3, List.mem_append] at h
  rcases h with h | h
  · rw [List.eq_of_mem_replicate h]
    decide
  · exact isDigit_of_mem_decimal h

theorem length_decimal3 {n : Nat} (h : n < 1000) : (decimal3 n).toList.length = 3 := by
  have hle : n.repr.length ≤ 3 := (Nat.length_repr_le_iff (by decide)).2 h
  rw [toList_decimal3, List.length_append, List.length_replicate, decimal, String.length_toList]
  omega

theorem isNumeral_decimal3 (n : Nat) : IsNumeral (decimal3 n).toList n where
  nonempty := by
    rw [toList_decimal3]
    exact List.append_ne_nil_of_right_ne_nil _ (toList_decimal_ne_nil n)
  digits := fun _ hc => isDigit_of_mem_decimal3 hc
  value := by
    rw [toList_decimal3, Nat.ofDigitChars_append, Nat.ofDigitChars_replicate_zero, Nat.mul_zero]
    exact (isNumeral_decimal n).value

end Switchboard.Text
