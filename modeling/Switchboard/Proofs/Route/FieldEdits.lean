import Switchboard.Proofs.Http.Fields
import Switchboard.Route.Canned

/-!
Header fields under edits: an ordered multimap. What an edit does to the values under a name depends on these values
only (`FieldEdit.valuesAfter`), and so it is for a run of edits (`getAll_foldl_apply`). What it does to the list is said
for setting a name (`set_setsFirst`) and for removing it (`toList_remove_eq`). Names are the same when they differ in the
case of ASCII letters at most; all other letters count as they are.
-/

namespace Switchboard.Route

open Http

/-! ## The list -/

/-- A list of fields in which the first field of a name gets a value, and keeps its own spelling of the name; a list
without such a field gets one at the end. -/
inductive SetsFirst (name value : String) : List Field → List Field → Prop where
  | replaced {before after : List Field} {f : Field} (hbefore : ∀ g ∈ before, ¬ Text.SameUpToCase g.name name)
      (hf : Text.SameUpToCase f.name name) :
      SetsFirst name value (before ++ f :: after) (before ++ ⟨f.name, value⟩ :: after)
  | added {fs : List Field} (hfs : ∀ g ∈ fs, ¬ Text.SameUpToCase g.name name) :
      SetsFirst name value fs (fs ++ [⟨name, value⟩])

theorem isNamed_iff_sameUpToCase {name : String} {f : Field} :
    f.isNamed name = true ↔ Text.SameUpToCase f.name name := Text.sameName_iff_sameUpToCase

theorem isNamed_eq_decide (name : String) (f : Field) : f.isNamed name = decide (Text.SameUpToCase f.name name) := by
  rw [Bool.eq_iff_iff, isNamed_iff_sameUpToCase, decide_eq_true_iff]

theorem set_setsFirst (h : Fields) (name value : String) :
    SetsFirst name value h.toList (h.set name value).toList := by
  have hother {g : Field} (hg : g.isNamed name = false) : ¬ Text.SameUpToCase g.name name := by
    rw [← isNamed_iff_sameUpToCase, hg]
    decide
  rw [Fields.set]
  rcases Fields.setIn_cases name value h.toList with ⟨before, f, after, hfs, hbefore, hf, hset⟩ | ⟨hfs, hset⟩
  · rw [hset, hfs]
    exact .replaced (fun g hg => hother (hbefore g hg)) (isNamed_iff_sameUpToCase.1 hf)
  · rw [hset]
    exact .added fun g hg => hother (hfs g hg)

theorem toList_remove_eq (h : Fields) (name : String) :
    (h.remove name).toList = h.toList.filter fun f => ¬ Text.SameUpToCase f.name name := by
  rw [Fields.toList_remove]
  refine List.filter_congr fun f _ => ?_
  rw [isNamed_eq_decide, decide_not]

theorem getAll_eq (h : Fields) (name : String) :
    h.getAll name = (h.toList.filter fun f => Text.SameUpToCase f.name name).map (·.value) := by
  rw [Fields.getAll, List.filter_congr fun f _ => isNamed_eq_decide name f]

/-! ## The values under a name -/

namespace FieldEdit

/-- The values under a name after an edit, from those before it. -/
def valuesAfter (name : String) (values : List String) : FieldEdit → List String
  | .insert n value => if Text.SameUpToCase n name then values ++ [value] else values
  | .set n value => if Text.SameUpToCase n name then value :: values.tail else values
  | .remove n => if Text.SameUpToCase n name then [] else values
  | .clear => []
  | .insertLine line =>
    match Field.ofLine line with
    | .ok f => if Text.SameUpToCase f.name name then values ++ [f.value] else values
    | .error _ => values

theorem getAll_insert_eq (h : Fields) (name n value : String) :
    (h.insert n value).getAll name = valuesAfter name (h.getAll name) (.insert n value) := by
  rw [Fields.getAll_insert, valuesAfter]
  by_cases hn : Text.SameUpToCase n name
  · rw [if_pos hn, if_pos (Text.sameName_iff_sameUpToCase.2 hn)]
  · rw [if_neg hn, if_neg (mt Text.sameName_iff_sameUpToCase.1 hn), List.append_nil]

/-- One edit. -/
theorem getAll_apply (h : Fields) (name : String) (e : FieldEdit) :
    (e.apply h).getAll name = e.valuesAfter name (h.getAll name) := by
  cases e with
  | insert n value => exact getAll_insert_eq h name n value
  | set n value =>
    rw [valuesAfter, apply]
    by_cases hn : Text.SameUpToCase n name
    · have hfold := Text.foldCase_eq_iff.2 hn
      rw [if_pos hn, ← Fields.getAll_congr hfold, ← Fields.getAll_congr hfold, Fields.getAll_set_self]
    · rw [if_neg hn, Fields.getAll_set (mt Text.foldCase_eq_iff.1 hn)]
  | remove n =>
    rw [valuesAfter, apply]
    by_cases hn : Text.SameUpToCase n name
    · rw [if_pos hn, ← Fields.getAll_congr (Text.foldCase_eq_iff.2 hn), Fields.getAll_remove_self]
    · rw [if_neg hn, Fields.getAll_remove (mt Text.foldCase_eq_iff.1 hn)]
  | clear => rfl
  | insertLine line =>
    rw [valuesAfter, apply]
    cases Field.ofLine line with
    | ok f => exact getAll_insert_eq h name f.name f.value
    | error _ => rfl

/-- A run of edits. -/
theorem getAll_foldl_apply (start : Fields) (edits : List FieldEdit) (name : String) :
    (edits.foldl apply start).getAll name = edits.foldl (valuesAfter name) (start.getAll name) := by
  induction edits generalizing start with
  | nil => rfl
  | cons e edits ih => rw [List.foldl_cons, ih, getAll_apply, List.foldl_cons]

/-- After any edits the fields are an ordered multimap. The values under a name are those of the fields with this name,
in order, and each edit has done to those at the start what it does to values. The first of them is the one that is
found, and there are some if and only if the name is there. Setting a name changes the value of the first field with it,
or adds a field; removing it takes away the fields with it, which are counted, and nothing else. Neither of these, nor
inserting, changes the values under a name that differs in more than the case of ASCII letters. -/
theorem edited_multimap (start : Fields) (edits : List FieldEdit) :
    let h := edits.foldl apply start
    (∀ name, h.getAll name = (h.toList.filter fun f => Text.SameUpToCase f.name name).map (·.value) ∧
      h.getAll name = edits.foldl (valuesAfter name) (start.getAll name) ∧
      h.get? name = (h.getAll name).head? ∧ (h.contains name = true ↔ h.getAll name ≠ [])) ∧
    (∀ name value, SetsFirst name value h.toList (h.set name value).toList) ∧
    (∀ name, (h.remove name).toList = (h.toList.filter fun f => ¬ Text.SameUpToCase f.name name) ∧
      h.count name + (h.remove name).size = h.size) ∧
    ∀ name other value, ¬ Text.SameUpToCase name other →
      (h.insert name value).getAll other = h.getAll other ∧ (h.set name value).getAll other = h.getAll other ∧
        (h.remove name).getAll other = h.getAll other := by
  intro h
  refine ⟨fun name => ⟨getAll_eq h name, getAll_foldl_apply start edits name, Fields.get?_eq_head? h name, ?_⟩,
    set_setsFirst h, fun name => ⟨toList_remove_eq h name, Fields.count_add_size_remove h name⟩, ?_⟩
  · rw [Ne, Fields.getAll_eq_nil_iff, Bool.not_eq_false]
  · intro name other value hne
    refine ⟨?_, ?_, ?_⟩
    · rw [getAll_insert_eq, valuesAfter, if_neg hne]
    · exact Fields.getAll_set (mt Text.foldCase_eq_iff.1 hne) h value
    · exact Fields.getAll_remove (mt Text.foldCase_eq_iff.1 hne) h

/-- The first spelling of a name is kept. -/
example :
    ([.insert "Via" "a", .insert "via" "b", .set "VIA" "c", .set "Age" "1", .remove "age"].foldl apply .empty).toPairs =
      [("Via", "c"), ("via", "b")] := by decide

end FieldEdit
end Switchboard.Route
