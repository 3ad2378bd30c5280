import Switchboard.Proofs.Route.Order

/-!
Route tables over any history of changes. The changes that were made, in order, say which routes survive them
(`survivors`). A change leaves the table arranging the survivors of what was made before it and of itself
(`Keeps.change`), so that a table arranges the survivors of its whole history (`Keeps.through`), and the route it
finds for a path is the most specific survivor (`table_of_history`). Of the changes that put a route in, those are
refused whose pattern does not compile, or whose name and pattern the table holds (`Table.add_eq_error_iff`).
-/

namespace Switchboard.Route

/-- A change of the route table. -/
inductive Change where
  /-- A route is compiled and inserted. -/
  | add (spec : Spec)
  /-- A compiled route is inserted. -/
  | addEntry (e : Entry)
  /-- All routes of a name are replaced by a compiled one. -/
  | update (name : String) (e : Entry)
  /-- All routes of a name are removed. -/
  | erase (name : String)

/-- The route that a change puts in. -/
def Change.entry? (language : PatternLanguage) : Change → Option Entry
  | add spec => Entry.compile language spec
  | addEntry e => some e
  | update _ e => some e
  | erase _ => none

/-- A change removes the routes of this name. -/
def Change.clears : Change → String → Bool
  | add _, _ => false
  | addEntry _, _ => false
  | update cleared _, name => name == cleared
  | erase cleared, name => name == cleared

namespace Table

/-- Makes a change, or refuses it. -/
def change (language : PatternLanguage) (t : Table) : Change → Except Refusal Table
  | .add spec => t.add language spec
  | .addEntry e => t.insert e
  | .update name e => t.update name e
  | .erase name => .ok (t.erase name)

/-- The table after some changes; a refused one leaves it as it is. -/
def through (language : PatternLanguage) (t : Table) : List Change → Table
  | [] => t
  | c :: later =>
    match t.change language c with
    | .error _ => t.through language later
    | .ok t' => t'.through language later

/-- The changes that are made, the refused ones left out. -/
def made (language : PatternLanguage) (t : Table) : List Change → List Change
  | [] => []
  | c :: later =>
    match t.change language c with
    | .error _ => t.made language later
    | .ok t' => c :: t'.made language later

end Table

/-- The routes put in by some changes whose name no later change clears, in the order in which they were put in. -/
def survivors (language : PatternLanguage) : List Change → List Entry
  | [] => []
  | c :: later =>
    (c.entry? language).toList.filter (fun e => !later.any (·.clears e.name)) ++
      survivors language later

/-- One change more removes the survivors of the names it clears, and puts in its own route after them. -/
theorem survivors_concat (language : PatternLanguage) (changes : List Change) (c : Change) :
    survivors language (changes ++ [c]) =
      (survivors language changes).filter (fun e => !c.clears e.name) ++
        (c.entry? language).toList := by
  induction changes with
  | nil => simp [survivors]
  | cons d later ih =>
    have hfilter (l : List Entry) : l.filter (fun e => !(later ++ [c]).any (·.clears e.name)) =
        (l.filter fun e => !later.any (·.clears e.name)).filter fun e => !c.clears e.name := by
      rw [List.filter_filter]
      refine List.filter_congr fun e _ => ?_
      simp [List.any_append, Bool.and_comm]
    show (d.entry? language).toList.filter (fun e => !(later ++ [c]).any (·.clears e.name)) ++
      survivors language (later ++ [c]) = _
    rw [ih, hfilter, ← List.append_assoc, ← List.filter_append]
    rfl

/-! ## When a route is inserted -/

theorem sameRoute_iff {a b : Entry} :
    a.sameRoute b = true ↔ a.name = b.name ∧ a.pattern = b.pattern := by
  simp [Entry.sameRoute]

/-- A table holds a route of this name and pattern. -/
def Table.Holds (t : Table) (name pattern : String) : Prop :=
  ∃ e ∈ t.entries, e.name = name ∧ e.pattern = pattern

theorem Table.any_sameRoute (t : Table) (e : Entry) :
    t.entries.any (·.sameRoute e) = true ↔ t.Holds e.name e.pattern := by
  simp only [List.any_eq_true, sameRoute_iff]
  rfl

theorem Table.insert_eq (t : Table) {e : Entry} (h : ¬ t.Holds e.name e.pattern) :
    t.insert e = .ok ⟨place e t.entries⟩ := by
  have hnone : ¬ t.entries.any (·.sameRoute e) = true := fun hany => h ((t.any_sameRoute e).1 hany)
  unfold Table.insert
  rw [if_neg hnone]

/-- An inserted route was not there before. -/
theorem Table.insert_ok {t t' : Table} {e : Entry} (h : t.insert e = .ok t') :
    ¬ t.Holds e.name e.pattern ∧ t'.entries = place e t.entries := by
  unfold Table.insert at h
  split at h
  · exact absurd h (by simp)
  next hnone =>
    obtain rfl := Except.ok.inj h
    exact ⟨fun hholds => hnone ((t.any_sameRoute e).2 hholds), rfl⟩

/-- A route is refused just if one of its name and pattern is held. -/
theorem Table.insert_eq_error_iff (t : Table) (e : Entry) {r : Refusal} :
    t.insert e = .error r ↔ t.Holds e.name e.pattern ∧ r = .existed e.name e.pattern := by
  by_cases hholds : t.Holds e.name e.pattern
  · have hinsert : t.insert e = .error (.existed e.name e.pattern) := if_pos ((t.any_sameRoute e).2 hholds)
    rw [hinsert, Except.error.injEq, and_iff_right hholds]
    exact eq_comm
  · rw [t.insert_eq hholds]
    exact iff_of_false (by simp) fun h => hholds h.1

theorem Table.insert_ok_iff (t : Table) (e : Entry) :
    (∃ t', t.insert e = .ok t') ↔ ¬ t.Holds e.name e.pattern :=
  ⟨fun ⟨_, h⟩ => (Table.insert_ok h).1, fun h => ⟨_, t.insert_eq h⟩⟩

theorem Table.add_ok_iff (language : PatternLanguage) (t : Table) (spec : Spec) :
    (∃ t', t.add language spec = .ok t') ↔
      (∃ accepts, language spec.pattern = some accepts) ∧ ¬ t.Holds spec.name spec.pattern := by
  unfold Table.add Entry.compile
  rcases hl : language spec.pattern with _ | accepts
  · simp
  · have hinsert : (∃ t', t.insert ⟨spec, accepts⟩ = .ok t') ↔ ¬ t.Holds spec.name spec.pattern :=
      t.insert_ok_iff ⟨spec, accepts⟩
    simpa using hinsert

/-- A route is refused for its pattern, or because one of its name and pattern is held. -/
theorem Table.add_eq_error_iff (language : PatternLanguage) (t : Table) (spec : Spec) {r : Refusal} :
    t.add language spec = .error r ↔ language spec.pattern = none ∧ r = .badPattern ∨
      (∃ accepts, language spec.pattern = some accepts) ∧ t.Holds spec.name spec.pattern ∧
        r = .existed spec.name spec.pattern := by
  unfold Table.add Entry.compile
  rcases hl : language spec.pattern with _ | accepts
  · simp [eq_comm]
  · have hinsert : t.insert ⟨spec, accepts⟩ = .error r ↔
        t.Holds spec.name spec.pattern ∧ r = .existed spec.name spec.pattern :=
      t.insert_eq_error_iff ⟨spec, accepts⟩
    simpa using hinsert

/-- The table without the routes whose name a change clears. -/
def Table.without (t : Table) (c : Change) : Table := ⟨t.entries.filter fun e => !c.clears e.name⟩

/-- A change that puts in a route removes what it clears, then inserts the route. -/
theorem Table.change_of_entry {language : PatternLanguage} {c : Change} {e : Entry}
    (he : c.entry? language = some e) (t : Table) :
    t.change language c = (t.without c).insert e := by
  have hall : (⟨t.entries.filter fun _ => !false⟩ : Table) = t := by simp
  cases c with
  | add spec =>
    have hcompile : Entry.compile language spec = some e := he
    show t.add language spec = Table.insert ⟨t.entries.filter fun _ => !false⟩ e
    unfold Table.add
    rw [hcompile, hall]
  | addEntry f =>
    obtain rfl := Option.some.inj he
    show t.insert f = Table.insert ⟨t.entries.filter fun _ => !false⟩ f
    rw [hall]
  | update name f =>
    obtain rfl := Option.some.inj he
    rfl
  | erase name => exact absurd he (by simp [Change.entry?])

/-- A change that is made and puts in no route removes what it clears. -/
theorem Table.change_of_none {language : PatternLanguage} {c : Change} {t t' : Table}
    (hnone : c.entry? language = none) (h : t.change language c = .ok t') : t' = t.without c := by
  cases c with
  | add spec =>
    have hcompile : Entry.compile language spec = none := hnone
    have hadd : t.add language spec = .ok t' := h
    unfold Table.add at hadd
    rw [hcompile] at hadd
    exact absurd hadd (by simp)
  | addEntry e => exact absurd hnone (by simp [Change.entry?])
  | update name e => exact absurd hnone (by simp [Change.entry?])
  | erase name => exact (Except.ok.inj h).symm

/-! ## What every change keeps -/

/-- A table keeps the survivors of the changes made: it arranges them, and no two of them share name and pattern. -/
structure Keeps (language : PatternLanguage) (changes : List Change) (t : Table) : Prop where
  arranged : Arranges (survivors language changes) t.entries
  distinct : t.entries.Pairwise fun a b => ¬ (a.name = b.name ∧ a.pattern = b.pattern)

namespace Keeps

variable {language : PatternLanguage} {changes : List Change} {t t' : Table}

theorem empty : Keeps language [] .empty := ⟨Arranges.nil, List.Pairwise.nil⟩

theorem distinct_place {e : Entry} {l : List Entry} (hnew : ¬ Table.Holds ⟨l⟩ e.name e.pattern)
    (hl : l.Pairwise fun a b => ¬ (a.name = b.name ∧ a.pattern = b.pattern)) :
    (Table.place e l).Pairwise fun a b => ¬ (a.name = b.name ∧ a.pattern = b.pattern) := by
  have hcons : (e :: l).Pairwise fun a b => ¬ (a.name = b.name ∧ a.pattern = b.pattern) := by
    refine List.Pairwise.cons (fun f hf hsame => ?_) hl
    exact hnew ⟨f, hf, hsame.1.symm, hsame.2.symm⟩
  refine ((perm_place e l).pairwise_iff ?_).2 hcons
  intro a b hne hsame
  exact hne ⟨hsame.1.symm, hsame.2.symm⟩

theorem change {c : Change} (h : Keeps language changes t) (hc : t.change language c = .ok t') :
    Keeps language (changes ++ [c]) t' := by
  have hkept : Arranges _ (t.without c).entries := h.arranged.filter fun e => !c.clears e.name
  have hdistinct : (t.without c).entries.Pairwise fun a b => ¬ (a.name = b.name ∧ a.pattern = b.pattern) :=
    h.distinct.filter fun (e : Entry) => !c.clears e.name
  rcases he : c.entry? language with _ | e
  · obtain rfl := Table.change_of_none he hc
    refine ⟨?_, hdistinct⟩
    rw [survivors_concat, he]
    exact (List.append_nil _).symm ▸ hkept
  · rw [Table.change_of_entry he] at hc
    obtain ⟨hnew, hentries⟩ := Table.insert_ok hc
    refine ⟨?_, hentries ▸ distinct_place hnew hdistinct⟩
    rw [survivors_concat, he, hentries]
    exact hkept.place e

/-- After any changes the table keeps the survivors of all that were made. -/
theorem through (h : Keeps language changes t) (later : List Change) :
    Keeps language (changes ++ t.made language later) (t.through language later) := by
  induction later generalizing changes t with
  | nil => simpa [Table.made, Table.through] using h
  | cons c later ih =>
    unfold Table.made Table.through
    rcases hc : t.change language c with refusal | t'
    · exact ih h
    · have hnext := ih (h.change hc)
      rwa [List.append_assoc] at hnext

/-- Configured routes are all added, in order. -/
theorem adds {specs : List Spec} (h : Keeps language changes t)
    (hspecs : specs.foldlM (Table.add language) t = .ok t') :
    Keeps language (changes ++ specs.map .add) t' := by
  induction specs generalizing changes t with
  | nil =>
    obtain rfl := Except.ok.inj hspecs
    simpa using h
  | cons spec specs ih =>
    rcases hadd : t.add language spec with refusal | next
    · rw [List.foldlM_cons, hadd] at hspecs
      exact absurd hspecs (by simp [bind, Except.bind])
    · rw [List.foldlM_cons, hadd] at hspecs
      have hnext : Keeps language (changes ++ [.add spec]) next := h.change hadd
      have hrest := ih hnext hspecs
      rwa [List.append_assoc] at hrest

theorem dispatch_eq_some_iff (h : Keeps language changes t) (path : String) (e : Entry) :
    t.dispatch path = some e ↔ MostSpecific (survivors language changes) path e :=
  h.arranged.find?_eq_some_iff e

end Keeps

theorem Table.dispatch_eq_none_iff (t : Table) (path : String) :
    t.dispatch path = none ↔ ∀ e ∈ t.entries, e.accepts path = false := by
  unfold Table.dispatch
  simp [List.find?_eq_none]

/-! ## The table of a history -/

/-- A table that some routes were configured in, and that was then changed in any way, refused changes included:
it holds the survivors of what was made, stably sorted from the longest pattern to the shortest; no two of its
routes share name and pattern; a route is added exactly when its pattern is one and no route of its name and pattern
is held; and the route it finds for a path is the most specific survivor, none exactly when no route it holds serves
the path. -/
theorem table_of_history {language : PatternLanguage} {specs : List Spec} {start : Table}
    (h : Table.ofSpecs language specs = .ok start) (changes : List Change) :
    let t := start.through language changes
    let log := survivors language (specs.map .add ++ start.made language changes)
    t.entries = log.mergeSort Entry.precedes ∧
    (t.entries.Pairwise fun a b => ¬ (a.name = b.name ∧ a.pattern = b.pattern)) ∧
    (∀ spec, (∃ t', t.change language (.add spec) = .ok t') ↔
      (∃ accepts, language spec.pattern = some accepts) ∧ ¬ t.Holds spec.name spec.pattern) ∧
    (∀ e, (∃ t', t.change language (.addEntry e) = .ok t') ↔ ¬ t.Holds e.name e.pattern) ∧
    (∀ path e, t.dispatch path = some e ↔ MostSpecific log path e) ∧
    (∀ path, t.dispatch path = none ↔ ∀ e ∈ t.entries, e.accepts path = false) := by
  have hstart : Keeps language (specs.map .add) start := Keeps.empty.adds h
  have hkeeps := hstart.through changes
  intro t log
  refine ⟨hkeeps.arranged.eq_mergeSort, hkeeps.distinct, fun spec => ?_, fun e => ?_, ?_, ?_⟩
  · exact t.add_ok_iff language spec
  · exact t.insert_ok_iff e
  · exact fun path e => hkeeps.dispatch_eq_some_iff path e
  · exact fun path => t.dispatch_eq_none_iff path

/-- Every text is a pattern, found in the paths that begin with it. -/
def prefixLanguage : PatternLanguage := fun pattern => some fun path =>
  pattern.toList.isPrefixOf path.toList

/-- A route for the paths that begin with a text. -/
def prefixRoute (name pattern : String) : Entry :=
  ⟨{ pattern, name }, fun path => pattern.toList.isPrefixOf path.toList⟩

/-- A route is configured as old; a new one with the same pattern comes after it, and is refused when it comes again.
Once the old route is replaced by itself, the new one is the earlier of the two. -/
theorem replaced_route_yields :
    (Table.through prefixLanguage ⟨[prefixRoute "old" "/a", prefixRoute "root" "/"]⟩
      [.addEntry (prefixRoute "new" "/a"), .add { pattern := "/a", name := "new" },
        .update "old" (prefixRoute "old" "/a")]).dispatch "/a/b" = some (prefixRoute "new" "/a") := by
  have hstart : Table.ofSpecs prefixLanguage
      [{ pattern := "/", name := "root" }, { pattern := "/a", name := "old" }] =
        .ok ⟨[prefixRoute "old" "/a", prefixRoute "root" "/"]⟩ := rfl
  obtain ⟨-, -, -, -, hdispatch, -⟩ := table_of_history hstart
    [.addEntry (prefixRoute "new" "/a"), .add { pattern := "/a", name := "new" },
      .update "old" (prefixRoute "old" "/a")]
  exact (hdispatch "/a/b" (prefixRoute "new" "/a")).2
    ⟨[prefixRoute "root" "/"], [prefixRoute "old" "/a"], rfl, by decide, by decide, by decide⟩

end Switchboard.Route
