/-!
The parts of a text around a character: before and after its first occurrence, or between all occurrences.
-/

namespace Switchboard.Text

/-- The parts of a list before and after the first occurrence of a character. -/
def splitOnce? (c : Char) : List Char → Option (List Char × List Char)
  | [] => none
  | d :: rest =>
    if d = c then some ([], rest) else (splitOnce? c rest).map fun p => (d :: p.1, p.2)

theorem splitOnce?_eq_some {c : Char} {cs before after : List Char}
    (h : splitOnce? c cs = some (before, after)) : cs = before ++ c :: after ∧ c ∉ before := by
  induction cs generalizing before after with
  | nil => simp [splitOnce?] at h
  | cons d rest ih =>
    rw [splitOnce?] at h
    split at h
    · next hd => simp_all
    · next hd =>
      obtain ⟨p, hp, hq⟩ := Option.map_eq_some_iff.1 h
      obtain ⟨rfl, rfl⟩ := Prod.mk.inj hq
      have := ih hp
      simp_all [eq_comm]

/-- The parts of a list between the occurrences of a character. -/
def splitAll (c : Char) : List Char → List (List Char)
  | [] => [[]]
  | d :: rest =>
    if d = c then [] :: splitAll c rest
    else match splitAll c rest with
      | [] => [[d]]
      | part :: parts => (d :: part) :: parts

end Switchboard.Text
