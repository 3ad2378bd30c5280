import Mathlib.Tactic.Ring
import Switchboard.Text.Lossy

/-!
Text that is written as UTF-8 and read back. The lossy reader gives back every character that was written,
whatever follows it (`lossyFrom_utf8EncodeChar`), hence every text (`lossy_utf8`); and bytes that read as
ASCII are as many bytes as characters (`length_of_lossy_ascii`). A byte below `0x80` is a character of its own among
any other bytes (`lossyFrom_append_ascii`), so that what is looked for in a text may be looked for in its bytes.
-/

namespace Switchboard.Text

theorem toNat_ofNat_of_lt {n : Nat} (h : n < 256) : (UInt8.ofNat n).toNat = n :=
  UInt8.toNat_ofNat_of_lt' h

/-! ## The first byte of a character -/

theorem lossyFrom_ascii {b : UInt8} (h : b < 0x80) (rest : Bytes) :
    lossyFrom .between (b :: rest) = Char.ofNat b.toNat :: lossyFrom .between rest := by
  rw [lossyFrom, Utf8State.push, Utf8State.start, if_pos h]
  rfl

/-- The first byte of two holds five bits. -/
theorem lossyFrom_two {n : Nat} (h1 : 2 ≤ n) (h2 : n < 32) (rest : Bytes) :
    lossyFrom .between (UInt8.ofNat (n + 0xC0) :: rest) =
      lossyFrom (.within 0 0x80 0xBF n) rest := by
  have hn := toNat_ofNat_of_lt (n := n + 0xC0) (by omega)
  have hs : Utf8State.start (UInt8.ofNat (n + 0xC0)) = ([], .within 0 0x80 0xBF n) := by
    simp only [Utf8State.start, UInt8.lt_iff_toNat_lt, hn, UInt8.reduceToNat]
    rw [if_neg (by omega), if_neg (by omega), if_pos (by omega), Nat.add_sub_cancel]
  rw [lossyFrom, Utf8State.push, hs]
  rfl

/-- The first byte of three holds four bits. The byte after it must not make the character one of two bytes,
or half of a pair of surrogates. -/
theorem lossyFrom_three {n : Nat} (h : n < 16) (rest : Bytes) :
    lossyFrom .between (UInt8.ofNat (n + 0xE0) :: rest) =
      lossyFrom (.within 1 (if n = 0 then 0xA0 else 0x80) (if n = 13 then 0x9F else 0xBF) n) rest := by
  have hn := toNat_ofNat_of_lt (n := n + 0xE0) (by omega)
  have he : ∀ m : UInt8, UInt8.ofNat (n + 0xE0) = m ↔ n + 0xE0 = m.toNat := by
    intro m
    rw [← UInt8.toNat_inj, hn]
  have hs : Utf8State.start (UInt8.ofNat (n + 0xE0)) =
      ([], .within 1 (if n = 0 then 0xA0 else 0x80) (if n = 13 then 0x9F else 0xBF) n) := by
    simp only [Utf8State.start, UInt8.lt_iff_toNat_lt, he, hn, UInt8.reduceToNat]
    rw [if_neg (by omega), if_neg (by omega), if_neg (by omega)]
    by_cases h0 : n = 0
    · subst h0
      rfl
    by_cases h13 : n = 13
    · subst h13
      rfl
    rw [if_neg (by omega), if_neg (by omega), if_pos (by omega), if_neg h0, if_neg h13,
      Nat.add_sub_cancel]
  rw [lossyFrom, Utf8State.push, hs]
  rfl

/-- The first byte of four holds three bits. The byte after it must not make the character one of three
bytes, or one beyond the last. -/
theorem lossyFrom_four {n : Nat} (h : n < 5) (rest : Bytes) :
    lossyFrom .between (UInt8.ofNat (n + 0xF0) :: rest) =
      lossyFrom (.within 2 (if n = 0 then 0x90 else 0x80) (if n = 4 then 0x8F else 0xBF) n) rest := by
  have : n = 0 ∨ n = 1 ∨ n = 2 ∨ n = 3 ∨ n = 4 := by omega
  rcases this with rfl | rfl | rfl | rfl | rfl <;> rfl

/-! ## Later bytes of a character -/

section Later

variable {value n : Nat} {low high : UInt8} (hn : n < 64) (hl : low.toNat ≤ n + 0x80)
  (hh : n + 0x80 ≤ high.toNat)

include hn hl hh

/-- A later byte holds six bits. -/
theorem lossyFrom_later (need : Nat) (rest : Bytes) :
    lossyFrom (.within (need + 1) low high value) (UInt8.ofNat (n + 0x80) :: rest) =
      lossyFrom (.within need 0x80 0xBF (value * 64 + n)) rest := by
  have he := toNat_ofNat_of_lt (n := n + 0x80) (by omega)
  rw [lossyFrom, Utf8State.push, if_pos]
  · simp only [he, Nat.add_sub_cancel, List.nil_append]
  · rw [UInt8.le_iff_toNat_le, UInt8.le_iff_toNat_le, he]
    exact ⟨hl, hh⟩

/-- The last byte completes the character. -/
theorem lossyFrom_last (rest : Bytes) :
    lossyFrom (.within 0 low high value) (UInt8.ofNat (n + 0x80) :: rest) =
      Char.ofNat (value * 64 + n) :: lossyFrom .between rest := by
  have he := toNat_ofNat_of_lt (n := n + 0x80) (by omega)
  rw [lossyFrom, Utf8State.push, if_pos]
  · simp only [he, Nat.add_sub_cancel, List.singleton_append]
  · rw [UInt8.le_iff_toNat_le, UInt8.le_iff_toNat_le, he]
    exact ⟨hl, hh⟩

end Later

/-! ## Texts -/

theorem char_val_range (c : Char) :
    c.val.toNat < 0xD800 ∨ 0xDFFF < c.val.toNat ∧ c.val.toNat < 0x110000 := by
  have := c.valid
  simpa [UInt32.isValidChar, Nat.isValidChar] using this

/-- A character that was written is read back, whatever follows it. -/
theorem lossyFrom_utf8EncodeChar (c : Char) (rest : Bytes) :
    lossyFrom .between (String.utf8EncodeChar c ++ rest) = c :: lossyFrom .between rest := by
  have hval := char_val_range c
  have hc : ∀ n, n = c.val.toNat → Char.ofNat n = c := by
    rintro n rfl
    exact Char.ofNat_toNat c
  generalize hv : c.val.toNat = v at hval hc
  simp only [String.utf8EncodeChar, hv]
  split
  · next h =>
    have hlt : UInt8.ofNat v < 0x80 := by
      rw [UInt8.lt_iff_toNat_lt, toNat_ofNat_of_lt (by omega)]
      exact Nat.lt_succ_of_le h
    rw [List.singleton_append, lossyFrom_ascii hlt, toNat_ofNat_of_lt (by omega), hc v rfl]
  split
  · simp only [List.cons_append, List.nil_append]
    rw [lossyFrom_two (by omega) (by omega),
      lossyFrom_last (by omega) (by simp) (by simp; omega), hc _ (by omega)]
  split
  · simp only [List.cons_append, List.nil_append]
    rw [lossyFrom_three (by omega),
      lossyFrom_later (by omega) (by split <;> simp; omega) (by split <;> simp <;> omega),
      lossyFrom_last (by omega) (by simp) (by simp; omega), hc _ (by omega)]
  · simp only [List.cons_append, List.nil_append]
    rw [lossyFrom_four (by omega),
      lossyFrom_later (by omega) (by split <;> simp; omega) (by split <;> simp <;> omega),
      lossyFrom_later (by omega) (by simp) (by simp; omega),
      lossyFrom_last (by omega) (by simp) (by simp; omega), hc _ (by omega)]

theorem utf8_append (s t : String) : utf8 (s ++ t) = utf8 s ++ utf8 t := by
  simp [utf8]

theorem lossyFrom_flatMap_utf8EncodeChar (cs : List Char) (rest : Bytes) :
    lossyFrom .between (cs.flatMap String.utf8EncodeChar ++ rest) = cs ++ lossyFrom .between rest := by
  induction cs with
  | nil => rfl
  | cons c cs ih =>
    rw [List.flatMap_cons, List.append_assoc, lossyFrom_utf8EncodeChar, ih, List.cons_append]

/-- A text that was written is read back. -/
theorem lossy_utf8 (s : String) : lossy (utf8 s) = s := by
  have h := lossyFrom_flatMap_utf8EncodeChar s.toList []
  rw [List.append_nil] at h
  rw [lossy, utf8, h]
  simp [lossyFrom, Utf8State.finish]

/-! ## ASCII -/

/-- Bytes below `0x80` are read as the characters of the same numbers. -/
theorem lossyFrom_of_ascii {bytes : Bytes} (h : ∀ b ∈ bytes, b < 0x80) :
    lossyFrom .between bytes = bytes.map fun b => Char.ofNat b.toNat := by
  induction bytes with
  | nil => rfl
  | cons b rest ih =>
    rw [lossyFrom_ascii (h b List.mem_cons_self), List.map_cons,
      ih fun x hx => h x (List.mem_cons_of_mem _ hx)]

/-- A byte of a text below `0x80` is a character of the text. -/
theorem mem_of_mem_utf8 {s : String} {b : UInt8} (hb : b < 0x80) (h : b ∈ utf8 s) :
    Char.ofNat b.toNat ∈ s.toList := by
  obtain ⟨c, hc, hbc⟩ := List.mem_flatMap.1 h
  have hb : b.toNat < 0x80 := by simpa [UInt8.lt_iff_toNat_lt] using hb
  have hval := char_val_range c
  have high : ∀ n, 0x80 ≤ n → n < 256 → b ≠ UInt8.ofNat n := by
    rintro n h1 h2 rfl
    rw [toNat_ofNat_of_lt h2] at hb
    omega
  simp only [String.utf8EncodeChar] at hbc
  split at hbc
  · next hv =>
    have hbv : b.toNat = c.val.toNat := by
      rw [List.mem_singleton.1 hbc, toNat_ofNat_of_lt (by omega)]
    rw [hbv]
    exact (Char.ofNat_toNat c).symm ▸ hc
  -- every byte of a longer character is `0x80` or more
  · exfalso
    split at hbc
    · simp only [List.mem_cons, List.not_mem_nil, or_false] at hbc
      rcases hbc with hbc | hbc <;> exact high _ (by omega) (by omega) hbc
    split at hbc
    · simp only [List.mem_cons, List.not_mem_nil, or_false] at hbc
      rcases hbc with hbc | hbc | hbc <;> exact high _ (by omega) (by omega) hbc
    · simp only [List.mem_cons, List.not_mem_nil, or_false] at hbc
      rcases hbc with hbc | hbc | hbc | hbc <;> exact high _ (by omega) (by omega) hbc

/-- What an unfinished character can still become: a character from `first` up to but not including `past`,
none of which is ASCII or a surrogate. The reader never stands in any other unfinished character. -/
def Utf8State.Sane : Utf8State → Prop
  | .between => True
  | .within need low high value =>
    let first := (value * 64 + (low.toNat - 0x80)) * 64 ^ need
    let past := (value * 64 + (high.toNat - 0x80) + 1) * 64 ^ need
    0x80 ≤ low.toNat ∧ 0x80 ≤ first ∧ (past ≤ 0xD800 ∨ 0xE000 ≤ first ∧ past ≤ 0x110000)

theorem sane_between : Utf8State.between.Sane := trivial

theorem sane_start (b : UInt8) : (Utf8State.start b).2.Sane := by
  have hb := b.toNat_lt
  simp only [Utf8State.start, UInt8.lt_iff_toNat_lt, UInt8.reduceToNat, ← UInt8.toNat_inj]
  split_ifs <;> simp [Utf8State.Sane] <;> omega

/-- A later byte leaves fewer characters to become. -/
theorem sane_later {need value : Nat} {low high b : UInt8}
    (h : (Utf8State.within (need + 1) low high value).Sane) (hl : low.toNat ≤ b.toNat)
    (hh : b.toNat ≤ high.toNat) :
    (Utf8State.within need 0x80 0xBF (value * 64 + (b.toNat - 0x80))).Sane := by
  obtain ⟨hlow, hfirst, hpast⟩ := h
  have hstep : ∀ x y : Nat, x ≤ y → x * (64 ^ need * 64) ≤ y * (64 ^ need * 64) := fun _ _ hxy =>
    Nat.mul_le_mul_right _ hxy
  have h1 := hstep (value * 64 + (low.toNat - 0x80)) (value * 64 + (b.toNat - 0x80)) (by omega)
  have h2 := hstep (value * 64 + (b.toNat - 0x80) + 1) (value * 64 + (high.toNat - 0x80) + 1) (by omega)
  rw [Nat.pow_succ] at hfirst hpast
  have e1 : ((value * 64 + (b.toNat - 0x80)) * 64 + (0x80 - 0x80)) * 64 ^ need =
      (value * 64 + (b.toNat - 0x80)) * (64 ^ need * 64) := by ring
  have e2 : ((value * 64 + (b.toNat - 0x80)) * 64 + (0xBF - 0x80) + 1) * 64 ^ need =
      (value * 64 + (b.toNat - 0x80) + 1) * (64 ^ need * 64) := by ring
  simp only [Utf8State.Sane, UInt8.reduceToNat, e1, e2]
  omega

theorem toNat_char_ofNat {n : Nat} (h : n.isValidChar) : (Char.ofNat n).toNat = n := by
  rw [Char.ofNat, dif_pos h]
  rfl

theorem toNat_char_of_byte (b : UInt8) : (Char.ofNat b.toNat).toNat = b.toNat :=
  toNat_char_ofNat (Or.inl (Nat.lt_trans b.toNat_lt (by decide)))

/-- The last byte of a longer character leaves a character outside ASCII. -/
theorem le_toNat_of_sane {value : Nat} {low high b : UInt8} (h : (Utf8State.within 0 low high value).Sane)
    (hl : low.toNat ≤ b.toNat) (hh : b.toNat ≤ high.toNat) :
    0x80 ≤ (Char.ofNat (value * 64 + (b.toNat - 0x80))).toNat := by
  obtain ⟨hlow, hfirst, hpast⟩ := h
  rw [Nat.pow_zero, Nat.mul_one] at hfirst hpast
  have hv : (value * 64 + (b.toNat - 0x80)).isValidChar := by
    simp only [Nat.isValidChar]
    omega
  rw [toNat_char_ofNat hv]
  omega

/-- An unfinished character leaves a character outside ASCII. -/
theorem exists_of_within {need value : Nat} {low high : UInt8} (bytes : Bytes)
    (h : (Utf8State.within need low high value).Sane) :
    ∃ c ∈ lossyFrom (.within need low high value) bytes, 0x80 ≤ c.toNat := by
  induction bytes generalizing need low high value with
  | nil => exact ⟨replacement, List.mem_singleton_self _, by decide⟩
  | cons b rest ih =>
    rw [lossyFrom, Utf8State.push]
    by_cases hb : low ≤ b ∧ b ≤ high
    · rw [if_pos hb]
      rw [UInt8.le_iff_toNat_le, UInt8.le_iff_toNat_le] at hb
      cases need with
      | zero =>
        exact ⟨_, List.mem_append_left _ (List.mem_singleton_self _), le_toNat_of_sane h hb.1 hb.2⟩
      | succ need =>
        rw [List.nil_append]
        exact ih (sane_later h hb.1 hb.2)
    · rw [if_neg hb]
      exact ⟨replacement, by simp, by decide⟩

/-- Bytes that read as ASCII are below `0x80`. -/
theorem ascii_of_lossyFrom {bytes : Bytes} (h : ∀ c ∈ lossyFrom .between bytes, c.toNat < 0x80) :
    ∀ b ∈ bytes, b < 0x80 := by
  induction bytes with
  | nil => simp
  | cons b rest ih =>
    by_cases hb : b < 0x80
    · rw [lossyFrom_ascii hb] at h
      intro x hx
      rcases List.mem_cons.1 hx with rfl | hx
      · exact hb
      · exact ih (fun c hc => h c (List.mem_cons_of_mem _ hc)) x hx
    -- a byte from `0x80` on is replaced, or begins a character that ends outside ASCII
    · exfalso
      have hs := sane_start b
      rw [lossyFrom, Utf8State.push] at h
      rcases hst : (Utf8State.start b).2 with _ | ⟨need, low, high, value⟩
      · have hr : (Utf8State.start b).1 = [replacement] := by
          revert hst
          simp only [Utf8State.start, if_neg hb]
          split_ifs <;> simp
        have := h replacement (by simp [hr])
        exact absurd this (by decide)
      · rw [hst] at h hs
        obtain ⟨c, hc, hc'⟩ := exists_of_within rest hs
        have := h c (List.mem_append_right _ hc)
        omega

/-- Only no bytes read as no text. -/
theorem lossyFrom_eq_nil_iff {bytes : Bytes} : lossyFrom .between bytes = [] ↔ bytes = [] := by
  constructor
  · intro h
    have hascii : ∀ b ∈ bytes, b < 0x80 := ascii_of_lossyFrom (by simp [h])
    rw [lossyFrom_of_ascii hascii, List.map_eq_nil_iff] at h
    exact h
  · rintro rfl
    rfl

/-- Bytes that read as an ASCII text have the length of that text. -/
theorem length_of_lossy_ascii {bytes : Bytes} (h : ∀ c ∈ (lossy bytes).toList, c.toNat < 0x80) :
    (lossy bytes).toList.length = bytes.length := by
  rw [lossy, String.toList_ofList] at h ⊢
  rw [lossyFrom_of_ascii (ascii_of_lossyFrom h), List.length_map]

/-! ## ASCII among other bytes -/

theorem sane_push {st : Utf8State} (h : st.Sane) (b : UInt8) : (st.push b).2.Sane := by
  cases st with
  | between => exact sane_start b
  | within need low high value =>
    rw [Utf8State.push]
    by_cases hb : low ≤ b ∧ b ≤ high
    · rw [if_pos hb]
      rw [UInt8.le_iff_toNat_le, UInt8.le_iff_toNat_le] at hb
      cases need with
      | zero => trivial
      | succ need => exact sane_later h hb.1 hb.2
    · rw [if_neg hb]
      exact sane_start b

theorem of_mem_start {b : UInt8} {c : Char} (hc : c ∈ (Utf8State.start b).1) (hlt : c.toNat < 0x80) :
    b < 0x80 ∧ c = Char.ofNat b.toNat := by
  have hne : c ≠ replacement := by
    rintro rfl
    exact absurd hlt (by decide)
  simp only [Utf8State.start] at hc
  split_ifs at hc with hb
  · exact ⟨hb, List.mem_singleton.1 hc⟩
  all_goals simp [hne] at hc

/-- The only byte that completes a character of ASCII is that character. -/
theorem of_mem_push {st : Utf8State} (h : st.Sane) {b : UInt8} {c : Char} (hc : c ∈ (st.push b).1)
    (hlt : c.toNat < 0x80) : b < 0x80 ∧ c = Char.ofNat b.toNat := by
  cases st with
  | between => exact of_mem_start hc hlt
  | within need low high value =>
    rw [Utf8State.push] at hc
    by_cases hb : low ≤ b ∧ b ≤ high
    · rw [if_pos hb] at hc
      rw [UInt8.le_iff_toNat_le, UInt8.le_iff_toNat_le] at hb
      cases need with
      | zero =>
        have := le_toNat_of_sane h hb.1 hb.2
        rw [List.mem_singleton.1 hc] at hlt
        omega
      | succ need => exact absurd hc List.not_mem_nil
    · rw [if_neg hb] at hc
      rcases List.mem_cons.1 hc with rfl | hc
      · exact absurd hlt (by decide)
      · exact of_mem_start hc hlt

/-- A byte below `0x80` is a character of its own, whatever comes before it. -/
theorem lossyFrom_append_ascii {st : Utf8State} (h : st.Sane) {b : UInt8} (hb : b < 0x80) (v w : Bytes) :
    lossyFrom st (v ++ b :: w) = lossyFrom st v ++ Char.ofNat b.toNat :: lossyFrom .between w := by
  induction v generalizing st with
  | nil =>
    cases st with
    | between => exact lossyFrom_ascii hb w
    | within need low high value =>
      have hout : ¬ (low ≤ b ∧ b ≤ high) := by
        obtain ⟨hlow, -⟩ := h
        have hb : b.toNat < 0x80 := UInt8.lt_iff_toNat_lt.1 hb
        rw [UInt8.le_iff_toNat_le]
        omega
      have hpush : (Utf8State.within need low high value).push b =
          ([replacement, Char.ofNat b.toNat], .between) := by
        rw [Utf8State.push, if_neg hout, Utf8State.start, if_pos hb]
      simp only [List.nil_append, lossyFrom, hpush]
      rfl
  | cons x v ih =>
    rw [List.cons_append, lossyFrom, lossyFrom, ih (sane_push h x), List.append_assoc]

/-- The characters of ASCII in a text are the bytes below `0x80` that it is read from. -/
theorem mem_lossyFrom_iff {st : Utf8State} (h : st.Sane) {b : UInt8} (hb : b < 0x80) (bytes : Bytes) :
    Char.ofNat b.toNat ∈ lossyFrom st bytes ↔ b ∈ bytes := by
  have hlt : (Char.ofNat b.toNat).toNat < 0x80 := by
    rw [toNat_char_of_byte]
    exact UInt8.lt_iff_toNat_lt.1 hb
  constructor
  · intro hc
    induction bytes generalizing st with
    | nil =>
      cases st with
      | between => exact absurd hc List.not_mem_nil
      | within =>
        rw [List.mem_singleton.1 hc] at hlt
        exact absurd hlt (by decide)
    | cons x bytes ih =>
      rw [lossyFrom, List.mem_append] at hc
      rcases hc with hc | hc
      · have he := congrArg Char.toNat (of_mem_push h hc hlt).2
        rw [toNat_char_of_byte, toNat_char_of_byte] at he
        exact List.mem_cons.2 (Or.inl (UInt8.toNat_inj.1 he))
      · exact List.mem_cons_of_mem x (ih (sane_push h x) hc)
  · intro hm
    obtain ⟨v, w, rfl⟩ := List.append_of_mem hm
    rw [lossyFrom_append_ascii h hb]
    simp

/-! ## Lengths -/

/-- A text has the length of its bytes. -/
theorem length_utf8 (s : String) : (utf8 s).length = byteLength s := by
  rw [byteLength, ← String.size_toByteArray, ← String.utf8Encode_toList, utf8]
  exact List.size_toByteArray.symm

/-- An ASCII text has as many bytes as characters. -/
theorem length_utf8_of_ascii {s : String} (h : ∀ c ∈ s.toList, c.toNat < 0x80) :
    (utf8 s).length = s.toList.length := by
  rw [utf8]
  generalize s.toList = cs at h
  induction cs with
  | nil => rfl
  | cons c cs ih =>
    have hc : c.utf8Size = 1 := by
      rw [Char.utf8Size_eq_one_iff, UInt32.le_iff_toNat_le]
      exact Nat.le_of_lt_succ (h c List.mem_cons_self)
    rw [List.flatMap_cons, List.length_append, String.length_utf8EncodeChar, hc,
      ih fun d hd => h d (List.mem_cons_of_mem c hd), List.length_cons, Nat.add_comm]

end Switchboard.Text
