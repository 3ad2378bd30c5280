import Mathlib.Data.List.TakeWhile
import Switchboard.Proofs.Text.Ascii
import Switchboard.Text.Blank

/-!
Trimming. What is left after trimming is what is found with members of the class around it and none at its own ends
(`trimList_eq_iff`). Spaces and tabs are blanks (`isBlank_of_isSpaceTab`), so that a text from which these two are taken
off can still begin or end with a blank; where it does not, taking off all blanks leaves the same
(`trimList_blank_eq_iff`). In a text of ASCII without control characters it never does (`isBare_iff_ascii`).
-/

namespace Switchboard.Text

variable {p : Char → Bool} {cs : List Char}

/-- Neither end of a list is of the class. -/
def IsBare (p : Char → Bool) (cs : List Char) : Prop :=
  (∀ c ∈ cs.head?, p c = false) ∧ ∀ c ∈ cs.getLast?, p c = false

theorem isBare_iff_all :
    IsBare p cs ↔ cs.head?.all (fun c => !p c) = true ∧ cs.getLast?.all (fun c => !p c) = true := by
  simp only [IsBare, Option.all_eq_true, Option.mem_def, Bool.not_eq_true']

instance (p : Char → Bool) (cs : List Char) : Decidable (IsBare p cs) :=
  decidable_of_iff _ isBare_iff_all.symm

theorem dropWhile_of_head? (h : ∀ c ∈ cs.head?, p c = false) : cs.dropWhile p = cs := by
  cases cs with
  | nil => rfl
  | cons c cs => rw [List.dropWhile_cons, h c rfl, if_neg Bool.false_ne_true]

/-- Nothing is trimmed where neither end is of the class. -/
theorem trimList_of_isBare (h : IsBare p cs) : trimList p cs = cs := by
  have hrev : cs.reverse.dropWhile p = cs.reverse := by
    refine dropWhile_of_head? ?_
    rw [List.head?_reverse]
    exact h.2
  rw [trimList, dropWhile_of_head? h.1, hrev, List.reverse_reverse]

theorem isBare_trimList (p : Char → Bool) (cs : List Char) : IsBare p (trimList p cs) := by
  have hfront : ∀ ds : List Char, ∀ c ∈ (ds.dropWhile p).head?, p c = false := by
    intro ds c hc
    have h := List.head?_dropWhile_not p ds
    rw [Option.mem_def.1 hc] at h
    exact h
  rw [IsBare, trimList, List.head?_reverse, List.getLast?_reverse]
  refine ⟨fun c hc => hfront cs c ?_, hfront _⟩
  -- dropping from the far end leaves the near end as it is, as long as anything is left
  obtain ⟨dropped, hdropped⟩ := List.dropWhile_suffix (l := (cs.dropWhile p).reverse) p
  rw [← List.getLast?_reverse, ← hdropped, List.getLast?_append, Option.mem_def.1 hc]
  rfl

theorem trimList_cons {c : Char} (h : p c = true) (cs : List Char) :
    trimList p (c :: cs) = trimList p cs := by
  rw [trimList, List.dropWhile_cons, h, if_pos rfl]
  rfl

/-- Trimming drops only what is of the class. -/
theorem mem_trimList_iff {c : Char} (hp : p c = false) : c ∈ trimList p cs ↔ c ∈ cs := by
  have hdrop : ∀ ds : List Char, c ∈ ds.dropWhile p ↔ c ∈ ds := by
    intro ds
    refine ⟨fun h => (List.dropWhile_suffix p).subset h, fun h => ?_⟩
    rw [← List.takeWhile_append_dropWhile (p := p) (l := ds), List.mem_append] at h
    refine h.resolve_left fun ht => ?_
    rw [List.all_eq_true.1 List.all_takeWhile c ht] at hp
    exact absurd hp (by simp)
  rw [trimList, List.mem_reverse, hdrop, List.mem_reverse, hdrop]

theorem isSpaceTab_of_control {c : Char} (hc : isControl c = true) (ht : c ≠ '\t') : isSpaceTab c = false := by
  rw [isSpaceTab, Bool.or_eq_false_iff, beq_eq_false_iff_ne, beq_eq_false_iff_ne]
  refine ⟨?_, ht⟩
  rintro rfl
  exact absurd hc (by decide)

/-- The tab is the only control character that trimming drops. -/
theorem any_control_trimList (cs : List Char) :
    ((trimList isSpaceTab cs).any fun c => isControl c && c != '\t') = true ↔
      ¬ ∀ c ∈ cs, isControl c = true → c = '\t' := by
  simp only [List.any_eq_true, Bool.and_eq_true, bne_iff_ne, not_forall, exists_prop]
  refine exists_congr fun c => and_congr_left fun hc => ?_
  exact mem_trimList_iff (isSpaceTab_of_control hc.1 hc.2)

/-! ## What is left -/

/-- A list is another one with members of the class before it and after it. -/
def Padded (p : Char → Bool) (cs core : List Char) : Prop :=
  ∃ front back, cs = front ++ core ++ back ∧ (∀ c ∈ front, p c = true) ∧ ∀ c ∈ back, p c = true

theorem padded_trimList (p : Char → Bool) (cs : List Char) : Padded p cs (trimList p cs) := by
  have htake : ∀ ds : List Char, ∀ c ∈ ds.takeWhile p, p c = true := fun ds c hc => List.mem_takeWhile_imp hc
  refine ⟨cs.takeWhile p, ((cs.dropWhile p).reverse.takeWhile p).reverse, ?_, htake cs, fun c hc => ?_⟩
  · rw [trimList, List.append_assoc, ← List.reverse_append, List.takeWhile_append_dropWhile, List.reverse_reverse,
      List.takeWhile_append_dropWhile]
  · exact htake _ c (List.mem_reverse.1 hc)

theorem trimList_append_left {front : List Char} (h : ∀ c ∈ front, p c = true) (cs : List Char) :
    trimList p (front ++ cs) = trimList p cs := by
  induction front with
  | nil => rfl
  | cons c front ih =>
    rw [List.cons_append, trimList_cons (h c List.mem_cons_self)]
    exact ih fun d hd => h d (List.mem_cons_of_mem c hd)

theorem trimList_append_right {back : List Char} (h : ∀ c ∈ back, p c = true) (cs : List Char) :
    trimList p (cs ++ back) = trimList p cs := by
  have hback : back.reverse.dropWhile p = [] := by
    rw [List.dropWhile_eq_nil_iff]
    exact fun c hc => h c (List.mem_reverse.1 hc)
  have hall : back.dropWhile p = [] := List.dropWhile_eq_nil_iff.2 h
  unfold trimList
  rw [List.dropWhile_append]
  by_cases hcs : (cs.dropWhile p).isEmpty = true
  · rw [if_pos hcs, hall, List.isEmpty_iff.1 hcs]
  · rw [if_neg hcs, List.reverse_append, List.dropWhile_append, hback]
    rfl

/-- What trimming leaves is what has members of the class around it, and none at its ends. -/
theorem trimList_eq_iff {core : List Char} : trimList p cs = core ↔ IsBare p core ∧ Padded p cs core := by
  constructor
  · rintro rfl
    exact ⟨isBare_trimList p cs, padded_trimList p cs⟩
  · rintro ⟨hbare, front, back, rfl, hfront, hback⟩
    rw [trimList_append_right hback, trimList_append_left hfront, trimList_of_isBare hbare]

/-! ## Spaces and tabs, and all blanks -/

theorem isBlank_of_isSpaceTab {c : Char} (h : isSpaceTab c = true) : isBlank c = true := by
  rw [isSpaceTab, Bool.or_eq_true, beq_iff_eq, beq_iff_eq] at h
  rcases h with rfl | rfl <;> decide

theorem IsBare.of_blank (h : IsBare isBlank cs) : IsBare isSpaceTab cs := by
  have hclass : ∀ c, isBlank c = false → isSpaceTab c = false := by
    intro c hc
    rw [Bool.eq_false_iff] at hc ⊢
    exact fun hspace => hc (isBlank_of_isSpaceTab hspace)
  exact ⟨fun c hc => hclass c (h.1 c hc), fun c hc => hclass c (h.2 c hc)⟩

/-- A blank that is no control character, space or tab is not ASCII. -/
theorem le_of_isBlank {c : Char} (h : isBlank c = true) (hcontrol : isControl c = true → c = '\t')
    (hspace : isSpaceTab c = false) : 0x80 ≤ c.toNat := by
  by_contra hlt
  have hcode : c.toNat = 0x20 ∨ c.toNat < 0x20 := by
    simp only [isBlank, Bool.or_eq_true, Bool.and_eq_true, decide_eq_true_eq, beq_iff_eq] at h
    omega
  rcases hcode with hcode | hcode
  · obtain rfl : c = ' ' := Char.toNat_inj.1 hcode
    exact absurd hspace (by decide)
  · obtain rfl := hcontrol (Bool.or_eq_true_iff.2 (Or.inl (decide_eq_true hcode)))
    exact absurd hspace (by decide)

/-- Taking off spaces and tabs first makes no difference to taking off all blanks. -/
theorem trimList_blank_spaceTab (cs : List Char) :
    trimList isBlank (trimList isSpaceTab cs) = trimList isBlank cs := by
  obtain ⟨front, back, hcs, hfront, hback⟩ := padded_trimList isSpaceTab cs
  conv => rhs; rw [hcs]
  rw [trimList_append_right fun c hc => isBlank_of_isSpaceTab (hback c hc),
    trimList_append_left fun c hc => isBlank_of_isSpaceTab (hfront c hc)]

/-- Taking off all blanks leaves what taking off spaces and tabs leaves, just if that has no blank at its ends. -/
theorem trimList_blank_eq_iff (cs : List Char) :
    trimList isBlank cs = trimList isSpaceTab cs ↔ IsBare isBlank (trimList isSpaceTab cs) := by
  constructor
  · intro h
    rw [← h]
    exact isBare_trimList isBlank cs
  · intro hbare
    rw [← trimList_blank_spaceTab, trimList_of_isBare hbare]

/-- In a text without control characters, in which only blanks may be other than ASCII, a blank is left at an end if
and only if there is a character other than ASCII. -/
theorem isBare_iff_ascii (hcontrol : ∀ c ∈ cs, isControl c = true → c = '\t')
    (hcore : ∀ c ∈ trimList isBlank cs, c.toNat < 0x80) :
    IsBare isBlank (trimList isSpaceTab cs) ↔ ∀ c ∈ cs, c.toNat < 0x80 := by
  constructor
  · intro hbare c hc
    by_contra hge
    have hspace : isSpaceTab c = false := by
      rw [isSpaceTab, Bool.or_eq_false_iff, beq_eq_false_iff_ne, beq_eq_false_iff_ne]
      exact ⟨fun h => hge (by rw [h]; decide), fun h => hge (by rw [h]; decide)⟩
    have hmem : c ∈ trimList isSpaceTab cs := (mem_trimList_iff hspace).2 hc
    rw [← (trimList_blank_eq_iff cs).2 hbare] at hmem
    exact hge (hcore c hmem)
  · intro hascii
    -- the ends are neither spaces nor tabs, so a blank there would be other than ASCII
    have hend : ∀ c ∈ trimList isSpaceTab cs, isSpaceTab c = false → isBlank c = false := by
      intro c hc hspace
      have hmem : c ∈ cs := (mem_trimList_iff hspace).1 hc
      rw [Bool.eq_false_iff]
      exact fun hblank => Nat.not_lt_of_le (le_of_isBlank hblank (hcontrol c hmem) hspace) (hascii c hmem)
    obtain ⟨hhead, hlast⟩ := isBare_trimList isSpaceTab cs
    exact ⟨fun c hc => hend c (List.mem_of_mem_head? hc) (hhead c hc),
      fun c hc => hend c (List.mem_of_getLast? hc) (hlast c hc)⟩

/-! ## The case of letters -/

theorem isBlank_toLower (c : Char) : isBlank c.toLower = isBlank c := by
  unfold isBlank
  rw [toNat_toLower]
  split
  · next h =>
    rw [Bool.eq_iff_iff]
    simp
    omega
  · rfl

/-- The case of letters has no part in whether the ends are blanks. -/
theorem isBare_map_toLower : IsBare isBlank (cs.map Char.toLower) ↔ IsBare isBlank cs := by
  simp only [IsBare, List.head?_map, List.getLast?_map, Option.mem_def, Option.map_eq_some_iff,
    forall_exists_index, and_imp, forall_apply_eq_imp_iff₂, isBlank_toLower]

end Switchboard.Text
