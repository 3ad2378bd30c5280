import Switchboard.Proofs.Route.History

/-!
The table of the routes of a configuration. Name and pattern tell routes apart (`Spec.key`). Each route that is added
has a key of its own, so that a table of configured routes has their keys (`Table.keys_adds`); the first route that is
refused is no pattern, or has the key of a route before it (`Table.adds_refused`). So routes whose patterns are
patterns make a table exactly when their keys are distinct (`Table.ofSpecs_ok_iff`).
-/

namespace Switchboard.Route

/-- What tells a route apart from others: its name with its pattern. -/
def Spec.key (r : Spec) : String × String := (r.name, r.pattern)

/-- The patterns of these routes are patterns of the language. -/
def Compiles (language : PatternLanguage) (specs : List Spec) : Prop :=
  ∀ r ∈ specs, ∃ accepts, language r.pattern = some accepts

namespace Table

variable {language : PatternLanguage} {t t' : Table} {specs : List Spec}

/-- The keys of the routes of a table, in their order. -/
def keys (t : Table) : List (String × String) := t.entries.map (·.spec.key)

@[simp] theorem keys_empty : empty.keys = [] := rfl

theorem holds_iff (t : Table) (r : Spec) : t.Holds r.name r.pattern ↔ r.key ∈ t.keys := by
  unfold Holds keys
  rw [List.mem_map]
  refine exists_congr fun e => and_congr_right fun _ => ?_
  exact Prod.mk_inj.symm

theorem nodup_keys_iff (t : Table) :
    t.keys.Nodup ↔ t.entries.Pairwise fun a b => ¬ (a.name = b.name ∧ a.pattern = b.pattern) := by
  unfold keys List.Nodup
  rw [List.pairwise_map]
  refine iff_of_eq ?_
  congr 1
  funext a b
  exact congrArg Not (Prod.mk.injEq ..)

/-- A route that is added brings its key. -/
theorem keys_add {r : Spec} (h : t.add language r = .ok t') : t'.keys.Perm (t.keys ++ [r.key]) := by
  unfold add Entry.compile at h
  rcases hl : language r.pattern with _ | accepts
  · rw [hl] at h
    exact absurd h (by simp)
  · rw [hl] at h
    have hplace : t'.entries = place ⟨r, accepts⟩ t.entries := (insert_ok h).2
    have hcons : t'.keys.Perm (r.key :: t.keys) := by
      unfold keys
      rw [hplace]
      exact (perm_place _ _).map _
    exact hcons.trans (List.perm_append_singleton _ _).symm

/-- Routes that are added bring their keys. -/
theorem keys_adds (h : specs.foldlM (add language) t = .ok t') :
    t'.keys.Perm (t.keys ++ specs.map Spec.key) := by
  induction specs generalizing t with
  | nil =>
    obtain rfl := Except.ok.inj h
    simp
  | cons r specs ih =>
    rw [List.foldlM_cons] at h
    rcases hadd : t.add language r with refusal | next
    · rw [hadd] at h
      exact absurd h (by simp [bind, Except.bind])
    · rw [hadd] at h
      have hrest : t'.keys.Perm (t.keys ++ [r.key] ++ specs.map Spec.key) :=
        (ih h).trans ((keys_add hadd).append_right _)
      simpa using hrest

/-- The route whose pattern is one is refused only for its key. -/
theorem add_refused {r : Spec} {refusal : Refusal} (hr : ∃ accepts, language r.pattern = some accepts)
    (h : t.add language r = .error refusal) :
    r.key ∈ t.keys ∧ refusal = .existed r.name r.pattern := by
  rcases (t.add_eq_error_iff language r).1 h with ⟨hnone, -⟩ | ⟨-, hholds, hrefusal⟩
  · obtain ⟨accepts, hl⟩ := hr
    rw [hl] at hnone
    exact absurd hnone (by simp)
  · exact ⟨(t.holds_iff r).1 hholds, hrefusal⟩

/-- Where routes are refused, those before the first refused one make a table. -/
theorem adds_refused {refusal : Refusal} (h : specs.foldlM (add language) t = .error refusal) :
    ∃ before r after next, specs = before ++ r :: after ∧
      before.foldlM (add language) t = .ok next ∧ next.add language r = .error refusal := by
  induction specs generalizing t with
  | nil => exact absurd h (by simp [pure, Except.pure])
  | cons r specs ih =>
    rw [List.foldlM_cons] at h
    rcases hadd : t.add language r with refusal' | next
    · rw [hadd] at h
      obtain rfl := Except.error.inj h
      exact ⟨[], r, specs, t, rfl, rfl, hadd⟩
    · rw [hadd] at h
      obtain ⟨before, r', after, last, rfl, hbefore, hlast⟩ := ih h
      refine ⟨r :: before, r', after, last, rfl, ?_, hlast⟩
      rw [List.foldlM_cons, hadd]
      exact hbefore

/-! ## Configured routes -/

/-- The first route of a list that repeats the key of one before it. -/
def IsFirstRepeat (specs : List Spec) (r : Spec) : Prop :=
  ∃ before after, specs = before ++ r :: after ∧ (before.map Spec.key).Nodup ∧
    r.key ∈ before.map Spec.key

theorem IsFirstRepeat.not_nodup {r : Spec} (h : IsFirstRepeat specs r) : ¬ (specs.map Spec.key).Nodup := by
  obtain ⟨before, after, rfl, -, hmem⟩ := h
  intro hnodup
  rw [List.map_append] at hnodup
  exact (List.nodup_append.1 hnodup).2.2 _ hmem _ (List.mem_map_of_mem List.mem_cons_self) rfl

/-- The table of configured routes has their keys, which are distinct. -/
theorem nodup_of_ofSpecs (h : ofSpecs language specs = .ok t) : (specs.map Spec.key).Nodup := by
  have hperm : t.keys.Perm (specs.map Spec.key) := keys_adds h
  exact hperm.nodup_iff.1 ((nodup_keys_iff t).2 (Keeps.empty.adds h).distinct)

/-- Configured routes whose patterns are patterns are refused for the first of them that repeats a key. -/
theorem ofSpecs_refused {refusal : Refusal} (hc : Compiles language specs)
    (h : ofSpecs language specs = .error refusal) :
    ∃ r, IsFirstRepeat specs r ∧ refusal = .existed r.name r.pattern := by
  obtain ⟨before, r, after, next, rfl, hbefore, hadd⟩ := adds_refused h
  have hpattern := hc r (List.mem_append_right _ List.mem_cons_self)
  obtain ⟨hmem, hrefusal⟩ := add_refused hpattern hadd
  have hkeys : next.keys.Perm (before.map Spec.key) := keys_adds hbefore
  exact ⟨r, ⟨before, after, rfl, nodup_of_ofSpecs hbefore, hkeys.mem_iff.1 hmem⟩, hrefusal⟩

/-- Routes whose patterns are patterns make a table exactly when their keys are distinct. -/
theorem ofSpecs_ok_iff (hc : Compiles language specs) :
    (∃ t, ofSpecs language specs = .ok t) ↔ (specs.map Spec.key).Nodup := by
  refine ⟨fun ⟨t, h⟩ => nodup_of_ofSpecs h, fun hnodup => ?_⟩
  rcases h : ofSpecs language specs with refusal | t
  · obtain ⟨r, hrepeat, -⟩ := ofSpecs_refused hc h
    exact absurd hnodup hrepeat.not_nodup
  · exact ⟨t, rfl⟩

/-- Added routes all survive. -/
theorem survivors_adds (language : PatternLanguage) (specs : List Spec) :
    survivors language (specs.map .add) = specs.filterMap (Entry.compile language) := by
  induction specs with
  | nil => rfl
  | cons r specs ih =>
    have hkept (name : String) : (specs.map Change.add).any (·.clears name) = false := by
      simp [List.any_map, Function.comp_def, Change.clears]
    have hall (l : List Entry) :
        l.filter (fun e => !(specs.map Change.add).any (·.clears e.name)) = l := by
      simp [hkept]
    show (Entry.compile language r).toList.filter
        (fun e => !(specs.map Change.add).any (·.clears e.name)) ++ survivors language (specs.map .add) = _
    rw [hall, ih, List.filterMap_cons]
    cases Entry.compile language r <;> rfl

/-- The table of configured routes holds them compiled, stably sorted from the longest pattern to the shortest. -/
theorem entries_ofSpecs (h : ofSpecs language specs = .ok t) :
    t.entries = (specs.filterMap (Entry.compile language)).mergeSort Entry.precedes := by
  rw [← survivors_adds]
  exact (Keeps.empty.adds h).arranged.eq_mergeSort

end Table
end Switchboard.Route
