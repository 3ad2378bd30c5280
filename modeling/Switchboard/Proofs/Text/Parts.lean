import Switchboard.Text.Parts

/-!
The parts of a text between the occurrences of a character. They are those that the library finds
(`splitAll_eq_splitOn`), so that what is known of those holds of them; and none of them holds the character
(`not_mem_of_mem_splitAll`).
-/

namespace Switchboard.Text

variable {c : Char}

theorem splitAll_eq_splitOn (c : Char) (cs : List Char) : splitAll c cs = cs.splitOn c := by
  induction cs with
  | nil => rfl
  | cons d cs ih =>
    rw [splitAll, List.splitOn_cons_eq_if_modifyHead, ih]
    by_cases hd : d = c
    · rw [if_pos hd, if_pos (beq_iff_eq.2 hd)]
    · rw [if_neg hd, if_neg (mt beq_iff_eq.1 hd)]
      rcases hparts : cs.splitOn c with _ | ⟨part, parts⟩
      · exact absurd hparts (List.splitOn_ne_nil c cs)
      · rfl

theorem splitAll_ne_nil (cs : List Char) : splitAll c cs ≠ [] := by
  rw [splitAll_eq_splitOn]
  exact List.splitOn_ne_nil c cs

/-- The parts on either side of an occurrence are the parts of either side. -/
theorem splitAll_append (a b : List Char) : splitAll c (a ++ c :: b) = splitAll c a ++ splitAll c b := by
  simp only [splitAll_eq_splitOn]
  exact List.splitOn_append_cons_self a b

theorem splitAll_of_not_mem {cs : List Char} (h : c ∉ cs) : splitAll c cs = [cs] := by
  rw [splitAll_eq_splitOn]
  exact List.splitOn_eq_singleton h

/-- Parts that do not hold the character are found again with the character put between them. -/
theorem splitAll_intercalate {parts : List (List Char)} (h : ∀ part ∈ parts, c ∉ part) (hne : parts ≠ []) :
    splitAll c ([c].intercalate parts) = parts := by
  rw [splitAll_eq_splitOn]
  exact List.splitOn_intercalate c h hne

theorem not_mem_intercalate {d : Char} {parts : List (List Char)} (hd : d ≠ c) (h : ∀ part ∈ parts, d ∉ part) :
    d ∉ [c].intercalate parts := by
  induction parts with
  | nil => exact List.not_mem_nil
  | cons part parts ih =>
    obtain ⟨hpart, hparts⟩ := List.forall_mem_cons.1 h
    by_cases hne : parts = []
    · rw [hne, List.intercalate_singleton]
      exact hpart
    · rw [List.intercalate_cons_of_ne_nil hne, List.mem_append, List.mem_append, List.mem_singleton, not_or, not_or]
      exact ⟨⟨hpart, hd⟩, ih hparts⟩

theorem mem_intercalate {d : Char} {part : List Char} {parts : List (List Char)} (h : part ∈ parts) (hd : d ∈ part) :
    d ∈ [c].intercalate parts := by
  induction parts with
  | nil => exact absurd h List.not_mem_nil
  | cons first parts ih =>
    by_cases hne : parts = []
    · rw [hne] at h ⊢
      rwa [List.intercalate_singleton, ← List.mem_singleton.1 h]
    · rw [List.intercalate_cons_of_ne_nil hne, List.mem_append, List.mem_append]
      rcases List.mem_cons.1 h with rfl | h
      · exact Or.inl (Or.inl hd)
      · exact Or.inr (ih h)

/-- A part holds only what the text holds. -/
theorem mem_of_mem_splitOn {d : Char} {cs part : List Char} (h : part ∈ cs.splitOn c) (hd : d ∈ part) : d ∈ cs := by
  have hjoin : [c].intercalate (cs.splitOn c) = cs := List.intercalate_splitOn c
  rw [← hjoin]
  exact mem_intercalate h hd

/-- No part holds the character. -/
theorem not_mem_of_mem_splitAll {cs part : List Char} (h : part ∈ splitAll c cs) : c ∉ part := by
  induction cs generalizing part with
  | nil =>
    rw [List.mem_singleton.1 h]
    exact List.not_mem_nil
  | cons d cs ih =>
    rw [splitAll] at h
    split at h
    · rcases List.mem_cons.1 h with rfl | h
      · exact List.not_mem_nil
      · exact ih h
    next hd =>
    split at h
    · rw [List.mem_singleton.1 h, List.mem_singleton]
      exact fun hc => hd hc.symm
    next first parts hparts =>
    rw [hparts] at ih
    rcases List.mem_cons.1 h with rfl | h
    · exact List.not_mem_cons_of_ne_of_not_mem (Ne.symm hd) (ih List.mem_cons_self)
    · exact ih (List.mem_cons_of_mem first h)

end Switchboard.Text
