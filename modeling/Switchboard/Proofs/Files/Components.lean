import Switchboard.Files.Path
import Switchboard.Proofs.Text.Parts

/-!
Paths by their components. A path begins at the root if a slash is its first character; its other components are its
parts between slashes, where empty parts and dots count for nothing, except for a dot that begins the path. Pushing a
part onto a path puts a slash between them, unless the path is empty or ends with one, and an absolute part takes the
place of the path. Pushing a plain name adds one component at the end, whatever the path is (`components_push`).
-/

namespace Switchboard.Files

/-- A component of a path. -/
inductive Component where
  /-- The slash that an absolute path begins with. -/
  | root
  /-- The dot that a path begins with. -/
  | here
  /-- A step upwards. -/
  | up
  | normal (name : String)
  deriving DecidableEq, Repr

/-- What a path begins with, as far as it is no name. -/
def Component.first (path : List Char) : List Component :=
  if path.head? = some '/' then [root]
  else if (Text.splitAll '/' path).head? = some ['.'] then [here]
  else []

/-- The component of a part between slashes. -/
def Component.ofPart? : List Char → Option Component
  | [] => none
  | ['.'] => none
  | ['.', '.'] => some up
  | part => some (normal (String.ofList part))

/-- The components of a path. -/
def components (path : String) : List Component :=
  Component.first path.toList ++ (Text.splitAll '/' path.toList).filterMap Component.ofPart?

/-- A path with a part pushed onto it. -/
def push (path part : String) : String :=
  if part.toList.head? = some '/' then part else joinName path part

/-- A name that is one component of a path. -/
structure Plain (name : String) : Prop where
  nonempty : name ≠ ""
  not_here : name ≠ "."
  not_up : name ≠ ".."
  no_slash : '/' ∉ name.toList

namespace Component

/-- What a path begins with is decided by what comes before a slash in it, unless it begins with the slash. -/
theorem first_append (a b : List Char) : first (a ++ '/' :: b) = if a = [] then [root] else first a := by
  by_cases ha : a = []
  · rw [if_pos ha, ha, first, List.nil_append, List.head?_cons, if_pos rfl]
  · obtain ⟨part, parts, hparts⟩ := List.exists_cons_of_ne_nil (Text.splitAll_ne_nil (c := '/') a)
    obtain ⟨x, xs, rfl⟩ := List.exists_cons_of_ne_nil ha
    rw [if_neg ha, first, first, Text.splitAll_append, hparts]
    rfl

/-- A part that is neither empty nor made of dots is a name. -/
theorem ofPart?_of_ne {part : List Char} (hne : part ≠ []) (hhere : part ≠ ['.']) (hup : part ≠ ['.', '.']) :
    ofPart? part = some (normal (String.ofList part)) := by
  rw [ofPart?] <;> assumption

end Component

namespace Plain

variable {name : String}

theorem ofPart?_eq (h : Plain name) : Component.ofPart? name.toList = some (.normal name) := by
  have hlist : ∀ s : String, name ≠ s → name.toList ≠ s.toList := fun s hs => mt String.toList_inj.1 hs
  have hpart := Component.ofPart?_of_ne (hlist "" h.nonempty) (hlist "." h.not_here) (hlist ".." h.not_up)
  rwa [String.ofList_toList] at hpart

theorem splitAll_eq (h : Plain name) : Text.splitAll '/' name.toList = [name.toList] :=
  Text.splitAll_of_not_mem h.no_slash

theorem push_eq (h : Plain name) (path : String) : push path name = joinName path name :=
  if_neg fun hhead => h.no_slash (List.mem_of_head? hhead)

/-- A plain name is its own only component. -/
theorem components_eq (h : Plain name) : components name = [.normal name] := by
  have hdot : ¬ [name.toList].head? = some ['.'] := by
    intro hdot
    exact h.not_here (String.toList_inj.1 (Option.some.inj hdot))
  have hfirst : Component.first name.toList = [] := by
    rw [Component.first, if_neg fun hhead => h.no_slash (List.mem_of_head? hhead), h.splitAll_eq, if_neg hdot]
  rw [components, hfirst, h.splitAll_eq, List.filterMap_cons, h.ofPart?_eq]
  rfl

end Plain

variable {name : String}

/-- The components on either side of a slash, which is one itself at the front of the path. -/
theorem components_slash (a b : List Char) :
    components (String.ofList (a ++ '/' :: b)) = (if a = [] then [.root] else Component.first a) ++
      (Text.splitAll '/' a).filterMap Component.ofPart? ++ (Text.splitAll '/' b).filterMap Component.ofPart? := by
  rw [components, String.toList_ofList, Component.first_append, Text.splitAll_append, List.filterMap_append,
    List.append_assoc]

/-- A plain name after a slash is one more component than the slash at the end of the path. -/
theorem components_slash_plain (h : Plain name) (a : List Char) :
    components (String.ofList (a ++ '/' :: name.toList)) =
      components (String.ofList (a ++ ['/'])) ++ [.normal name] := by
  rw [components_slash, components_slash, h.splitAll_eq, List.filterMap_cons, h.ofPart?_eq]
  simp [Text.splitAll, Component.ofPart?]

/-- A slash at the end of a path counts for nothing, unless it is all of it. -/
theorem components_slash_end {a : List Char} (ha : a ≠ []) :
    components (String.ofList (a ++ ['/'])) = components (String.ofList a) := by
  rw [components_slash, if_neg ha, components, String.toList_ofList]
  simp [Text.splitAll, Component.ofPart?]

/-- Pushing a plain name adds it to the components at the end. -/
theorem components_push (h : Plain name) (path : String) :
    components (push path name) = components path ++ [.normal name] := by
  rw [h.push_eq, joinName]
  split
  · next hend =>
    rcases Bool.or_eq_true_iff.1 hend with hempty | hslash
    -- nothing is put before the name
    · rw [String.isEmpty_iff.1 hempty, String.empty_append, h.components_eq]
      rfl
    -- the slash at the end of the path is the one before the name
    · obtain ⟨a, ha⟩ := List.getLast?_eq_some_iff.1 (beq_iff_eq.1 hslash)
      have hpath : path = String.ofList (a ++ ['/']) := by rw [← ha, String.ofList_toList]
      have hname : path ++ name = String.ofList (a ++ '/' :: name.toList) := by
        rw [← String.toList_inj, String.toList_append, ha]
        simp
      rw [hname, components_slash_plain h, ← hpath]
  · next hend =>
    have hne : path.toList ≠ [] := by
      intro hnil
      exact hend (by simp [String.toList_eq_nil_iff.1 hnil])
    have hname : path ++ "/" ++ name = String.ofList (path.toList ++ '/' :: name.toList) := by
      rw [← String.toList_inj]
      simp [String.toList_append]
    rw [hname, components_slash_plain h, components_slash_end hne, String.ofList_toList]

/-- Pushing plain names adds them to the components, in order. -/
theorem components_foldl_push {names : List String} (h : ∀ name ∈ names, Plain name) (path : String) :
    components (names.foldl push path) = components path ++ names.map .normal := by
  induction names generalizing path with
  | nil => simp
  | cons name names ih =>
    rw [List.foldl_cons, ih fun n hn => h n (List.mem_cons_of_mem name hn), components_push (h name List.mem_cons_self)]
    simp

end Switchboard.Files
