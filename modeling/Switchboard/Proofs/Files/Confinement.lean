import Mathlib.Data.List.Basic
import Switchboard.Files.DocumentRoot
import Switchboard.Files.Tree
import Switchboard.Http.Target
import Switchboard.Proofs.Files.Components

/-!
No request leads out of the document root. A requested path is followed below the root component by component
(`DocumentRoot.resolve_eq_climb`): a step upwards is refused, and every other component is a plain name that is pushed
onto the path. What comes out is the root with these names after it and nothing else, as components and not only as
text (`target_confined`), whatever the target writes between its slashes and however it is percent-encoded; the target
is decoded once, before it is cut into parts.
-/

namespace Switchboard.Files

/-- The parts of a path between its slashes. -/
def segments (path : String) : List String := (Text.splitAll '/' path.toList).map String.ofList

namespace DocumentRoot

/-- The path asks for the index of a folder. -/
def AsksForIndex (requested : String) : Prop := requested = "" ∨ requested.toList.getLast? = some '/'

instance (requested : String) : Decidable (AsksForIndex requested) :=
  inferInstanceAs (Decidable (_ ∨ _))

/-- The names that a requested path adds to the root. -/
def below (requested : String) : List String :=
  (segments requested).filter (fun name => name ≠ "" ∧ name ≠ ".") ++
    if AsksForIndex requested then [indexName] else []

/-- The path with components added one by one, as long as none of them leads upwards. -/
def follow (path : String) : List Component → Except Fault String
  | [] => .ok path
  | .normal name :: rest => follow (push path name) rest
  | .root :: rest | .here :: rest => follow path rest
  | .up :: _ => .error .noAccess

/-- The root with the components of a requested path added to it. The slashes at the front of the requested path
count for nothing. -/
def climb (d : DocumentRoot) (requested : String) : Except Fault String :=
  (follow d.path (components (String.ofList (requested.toList.dropWhile (· == '/'))))).map fun path =>
    if AsksForIndex requested then push path indexName else path

end DocumentRoot

/-! ## Following a requested path -/

/-- Slashes at the front make no components. -/
theorem parts_dropWhile (cs : List Char) :
    (Text.splitAll '/' (cs.dropWhile (· == '/'))).filterMap Component.ofPart? =
      (Text.splitAll '/' cs).filterMap Component.ofPart? := by
  induction cs with
  | nil => rfl
  | cons c cs ih =>
    by_cases hc : c = '/'
    · rw [hc, List.dropWhile_cons_of_pos (by decide), ih, Text.splitAll, if_pos rfl, List.filterMap_cons]
      rfl
    · rw [List.dropWhile_cons_of_neg (by simpa using hc)]

/-- The names of a path are its segments, empty ones and dots left out. -/
theorem pathNames_eq (path : String) :
    pathNames path = (segments path).filter fun name => name ≠ "" ∧ name ≠ "." := by
  refine congrArg (fun keep => (segments path).filter keep) (funext fun name => ?_)
  rw [Bool.eq_iff_iff]
  simp

namespace DocumentRoot

/-- The slash or the dot that a path begins with leads nowhere. -/
theorem follow_first (path : String) (cs : List Char) (rest : List Component) :
    follow path (Component.first cs ++ rest) = follow path rest := by
  rw [Component.first]
  split
  · rfl
  · split <;> rfl

/-- Parts are followed to their end unless one of them is a step upwards. -/
theorem follow_parts (path : String) (parts : List (List Char)) :
    follow path (parts.filterMap Component.ofPart?) =
      if ".." ∈ parts.map String.ofList then .error .noAccess
      else .ok (((parts.map String.ofList).filter fun name => name ≠ "" ∧ name ≠ ".").foldl push path) := by
  induction parts generalizing path with
  | nil => rfl
  | cons part parts ih =>
    rw [List.filterMap_cons, List.map_cons]
    fun_cases Component.ofPart? part with
    | case1 =>
      rw [ih]
      simp
    | case2 =>
      rw [ih]
      simp
    | case3 => simp [follow]
    | case4 part hne hhere hup =>
      have hname : ∀ s : String, (part = s.toList → False) → String.ofList part ≠ s := by
        rintro s hs rfl
        exact hs String.toList_ofList.symm
      have hne := hname "" hne
      have hhere := hname "." hhere
      have hup := hname ".." hup
      have hkeep : decide (String.ofList part ≠ "" ∧ String.ofList part ≠ ".") = true := decide_eq_true ⟨hne, hhere⟩
      rw [follow, ih]
      simp only [List.mem_cons, or_iff_right (Ne.symm hup), List.filter_cons, hkeep, if_true, List.foldl_cons]

variable {requested : String}

theorem climb_eq (d : DocumentRoot) (requested : String) :
    d.climb requested =
      if ".." ∈ segments requested then .error .noAccess else .ok ((below requested).foldl push d.path) := by
  rw [climb, components, String.toList_ofList, follow_first, parts_dropWhile, follow_parts, ← segments, below,
    List.foldl_append]
  by_cases hup : ".." ∈ segments requested
  · rw [if_pos hup, if_pos hup]
    rfl
  · rw [if_neg hup, if_neg hup]
    split <;> rfl

/-! ## What a requested path resolves to -/

theorem plain_below (h : ".." ∉ segments requested) : ∀ name ∈ below requested, Plain name := by
  intro name hname
  rcases List.mem_append.1 hname with hname | hname
  · obtain ⟨hsegment, hkeep⟩ := List.mem_filter.1 hname
    have hkeep := of_decide_eq_true hkeep
    refine ⟨hkeep.1, hkeep.2, ?_, ?_⟩
    · rintro rfl
      exact h hsegment
    · obtain ⟨part, hpart, rfl⟩ := List.mem_map.1 hsegment
      rw [String.toList_ofList]
      exact Text.not_mem_of_mem_splitAll hpart
  · split at hname
    · rw [List.mem_singleton.1 hname]
      exact ⟨by decide, by decide, by decide, by decide⟩
    · exact absurd hname List.not_mem_nil

theorem foldl_joinName {names : List String} (h : ∀ name ∈ names, Plain name) (path : String) :
    names.foldl joinName path = names.foldl push path := by
  induction names generalizing path with
  | nil => rfl
  | cons name names ih =>
    rw [List.foldl_cons, List.foldl_cons, (h name List.mem_cons_self).push_eq,
      ih fun n hn => h n (List.mem_cons_of_mem name hn)]

theorem names_eq (requested : String) :
    names requested = if ".." ∈ segments requested then .error .noAccess else .ok (below requested) := by
  have hup : (pathNames requested).contains ".." = true ↔ ".." ∈ segments requested := by
    rw [List.contains_iff_mem, pathNames_eq, List.mem_filter]
    exact and_iff_left (by decide)
  have hindex : (requested.isEmpty || requested.toList.getLast? == some '/') = true ↔ AsksForIndex requested := by
    rw [Bool.or_eq_true, String.isEmpty_iff, beq_iff_eq, AsksForIndex]
  rw [names, below, ← pathNames_eq]
  simp only [hup, hindex]
  split
  · rfl
  · split
    · rfl
    · rw [List.append_nil]

/-- A requested path is resolved component by component. -/
theorem resolve_eq_climb (d : DocumentRoot) (requested : String) : d.resolve requested = d.climb requested := by
  rw [resolve, names_eq, climb_eq]
  split
  · rfl
  · next hup => exact congrArg Except.ok (foldl_joinName (plain_below hup) d.path)

/-- The path of a target leads out of the root only by a step upwards, which is refused. Any other path resolves to the
root with the names of the path after it, and these are the only components added to those of the root. -/
theorem target_confined (d : DocumentRoot) (target : String) :
    let requested := (Http.Target.ofText target).path
    d.resolve requested = d.climb requested ∧
      (d.resolve requested = .error .noAccess ↔ ".." ∈ segments requested) ∧
      (".." ∈ segments requested ∨
        ∃ path, d.resolve requested = .ok path ∧ path = (below requested).foldl push d.path ∧
          components path = components d.path ++ (below requested).map .normal ∧
          ∀ name ∈ below requested, Plain name) := by
  intro requested
  have hresolve := climb_eq d requested
  rw [← resolve_eq_climb] at hresolve
  refine ⟨resolve_eq_climb d requested, ?_, ?_⟩
  · rw [hresolve, ite_eq_left_iff]
    simp
  · by_cases hup : ".." ∈ segments requested
    · exact Or.inl hup
    · have hplain := plain_below hup
      refine Or.inr ⟨_, ?_, rfl, components_foldl_push hplain d.path, hplain⟩
      rw [hresolve, if_neg hup]

-- escaped slashes and dots are slashes and dots, and what is escaped twice is a name
example : resolve ⟨"/srv", emptyFolder.storage⟩ (Http.Target.ofText "/a%2F%2e./b").path = .error .noAccess := by
  decide +kernel

example : resolve ⟨"/srv", emptyFolder.storage⟩ (Http.Target.ofText "//%252e%252e/./b%2f").path =
    .ok "/srv/%2e%2e/b/index.html" := by
  decide +kernel

end DocumentRoot
end Switchboard.Files
