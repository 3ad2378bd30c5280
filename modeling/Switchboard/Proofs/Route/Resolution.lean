import Mathlib.Data.List.TakeWhile
import Switchboard.Route.Service

/-!
How a path is resolved. The first route in stored order that serves the path decides: its kind, its library, and the
function that is named after the last slash of the path (`symbolOf_eq_iff`). All that can come of this are the cases
of `Registry.Resolves`, and `resolve` gives what they say (`resolves_iff`). The function is not run here.
-/

namespace Switchboard.Route

/-- The symbol of a path is what follows its last slash, or the path itself if there is none. -/
theorem symbolOf_eq_iff {path symbol : String} :
    symbolOf path = symbol ↔ ∃ front, path.toList = front ++ symbol.toList ∧ '/' ∉ symbol.toList ∧
      (front = [] ∨ front.getLast? = some '/') := by
  unfold symbolOf
  constructor
  · rintro rfl
    refine ⟨(path.toList.reverse.dropWhile (· != '/')).reverse, ?_, ?_, ?_⟩
    · rw [String.toList_ofList, ← List.reverse_append, List.takeWhile_append_dropWhile, List.reverse_reverse]
    · rw [String.toList_ofList, List.mem_reverse]
      intro hmem
      have hne := List.mem_takeWhile_imp hmem
      exact absurd hne (by decide)
    · rw [List.reverse_eq_nil_iff, List.getLast?_reverse]
      rcases hrest : path.toList.reverse.dropWhile (· != '/') with _ | ⟨c, rest⟩
      · exact Or.inl rfl
      · have hc := List.head?_dropWhile_not (· != '/') path.toList.reverse
        rw [hrest] at hc
        have hslash : c = '/' := by simpa using hc
        exact Or.inr (by rw [hslash]; rfl)
  · rintro ⟨front, hpath, hslash, hfront⟩
    have hkept : ∀ c ∈ symbol.toList.reverse, (c != '/') = true := by
      intro c hc
      rw [bne_iff_ne]
      rintro rfl
      exact hslash (List.mem_reverse.1 hc)
    have hfront : front.reverse.takeWhile (· != '/') = [] := by
      rcases hfront with rfl | hlast
      · rfl
      · rw [← List.head?_reverse] at hlast
        rcases hr : front.reverse with _ | ⟨c, rest⟩
        · rfl
        · rw [hr] at hlast
          obtain rfl : c = '/' := Option.some.inj hlast
          rfl
    rw [hpath, List.reverse_append, List.takeWhile_append_of_pos hkept, hfront, List.append_nil,
      List.reverse_reverse, String.ofList_toList]

namespace Libraries

/-- The functions of a library by name, if the library can be had: known ones come first, and others only where
plugins are allowed. A symbol with a NUL names nothing in a plugin. -/
def open? (ls : Libraries) (library : String) : Option (String → Option Service) :=
  match ls.known.lookup library with
  | some functions => some fun symbol => functions.lookup symbol
  | none =>
    if ls.plugins then
      (ls.openPlugin library).map fun functions symbol =>
        if symbol.toList.contains '\x00' then none else functions symbol
    else none

variable {ls : Libraries} {library : String}

/-- A library cannot be had that is neither known nor, where plugins are allowed, one of them. -/
theorem open?_eq_none_iff :
    ls.open? library = none ↔
      ls.contains library = false ∧ (ls.plugins = true → ls.openPlugin library = none) := by
  unfold open? contains
  rcases ls.known.lookup library with _ | functions
  · cases ls.plugins <;> simp
  · simp

theorem resolve_eq (ls : Libraries) (library symbol : String) :
    ls.resolve library symbol = match ls.open? library with
      | none => .error .noSuchLibrary
      | some functions =>
        match functions symbol with
        | none => .error .notFound
        | some f => .ok f := by
  unfold open? resolve
  rcases ls.known.lookup library with _ | functions
  · cases ls.plugins
    · rfl
    · rcases ls.openPlugin library with _ | plugin
      · rfl
      · simp only [Bool.not_true, Bool.false_eq_true, if_false, if_true, Option.map_some]
        cases (if symbol.toList.contains '\x00' then none else plugin symbol) <;> rfl
  · simp only
    cases functions.lookup symbol <;> rfl

end Libraries

namespace Registry

/-- All that can come of resolving a path. -/
inductive Resolves (r : Registry) (path : String) : Except Outcome Service → Prop where
  /-- No route serves the path. -/
  | noRoute (h : r.table.dispatch path = none) : Resolves r path (.error .notFound)
  /-- The first route that serves the path is not native. -/
  | unsupported {e : Entry} (h : r.table.dispatch path = some e) (hkind : e.spec.kind ≠ .native) :
    Resolves r path (.error .unsupported)
  /-- The path ends with a slash. -/
  | noSymbol {e : Entry} (h : r.table.dispatch path = some e) (hkind : e.spec.kind = .native)
    (hsymbol : symbolOf path = "") : Resolves r path (.error .notFound)
  /-- The library of the route cannot be had. -/
  | noLibrary {e : Entry} (h : r.table.dispatch path = some e) (hkind : e.spec.kind = .native)
    (hsymbol : symbolOf path ≠ "") (hlibrary : r.libraries.open? e.spec.library = none) :
    Resolves r path (.error .noSuchLibrary)
  /-- The library has no function of this name. -/
  | noFunction {e : Entry} {functions : String → Option Service} (h : r.table.dispatch path = some e)
    (hkind : e.spec.kind = .native) (hsymbol : symbolOf path ≠ "")
    (hlibrary : r.libraries.open? e.spec.library = some functions)
    (hfunction : functions (symbolOf path) = none) : Resolves r path (.error .notFound)
  /-- The library has the function. -/
  | function {e : Entry} {functions : String → Option Service} {f : Service}
    (h : r.table.dispatch path = some e) (hkind : e.spec.kind = .native) (hsymbol : symbolOf path ≠ "")
    (hlibrary : r.libraries.open? e.spec.library = some functions)
    (hfunction : functions (symbolOf path) = some f) : Resolves r path (.ok f)

variable {r : Registry} {path : String}

/-- A native route hands the path on to its library, unless the path names no function. -/
theorem resolve_of_native {e : Entry} (h : r.table.dispatch path = some e) (hkind : e.spec.kind = .native) :
    r.resolve path =
      if symbolOf path = "" then .error .notFound
      else r.libraries.resolve e.spec.library (symbolOf path) := by
  unfold resolve
  rw [h]
  simp only [hkind, ne_eq, not_true_eq_false, if_false, String.isEmpty_iff]

theorem resolves_resolve (r : Registry) (path : String) : r.Resolves path (r.resolve path) := by
  rcases h : r.table.dispatch path with _ | e
  · have hresolve : r.resolve path = .error .notFound := by
      unfold resolve
      rw [h]
    rw [hresolve]
    exact .noRoute h
  by_cases hkind : e.spec.kind = .native
  · rw [resolve_of_native h hkind]
    by_cases hsymbol : symbolOf path = ""
    · rw [if_pos hsymbol]
      exact .noSymbol h hkind hsymbol
    · rw [if_neg hsymbol]
      rw [Libraries.resolve_eq]
      rcases hlibrary : r.libraries.open? e.spec.library with _ | functions
      · exact .noLibrary h hkind hsymbol hlibrary
      · simp only
        rcases hfunction : functions (symbolOf path) with _ | f
        · exact .noFunction h hkind hsymbol hlibrary hfunction
        · exact .function h hkind hsymbol hlibrary hfunction
  · have hresolve : r.resolve path = .error .unsupported := by
      unfold resolve
      rw [h]
      exact if_pos hkind
    rw [hresolve]
    exact .unsupported h hkind

/-- A path is resolved to what the cases say, and to nothing else. -/
theorem resolves_iff {o : Except Outcome Service} : r.Resolves path o ↔ r.resolve path = o := by
  constructor
  · intro h
    cases h with
    | noRoute h =>
      unfold resolve
      rw [h]
    | unsupported h hkind =>
      unfold resolve
      rw [h]
      exact if_pos hkind
    | noSymbol h hkind hsymbol => rw [resolve_of_native h hkind, if_pos hsymbol]
    | noLibrary h hkind hsymbol hlibrary =>
      rw [resolve_of_native h hkind, if_neg hsymbol, Libraries.resolve_eq, hlibrary]
    | noFunction h hkind hsymbol hlibrary hfunction =>
      rw [resolve_of_native h hkind, if_neg hsymbol, Libraries.resolve_eq, hlibrary]
      simp only [hfunction]
    | function h hkind hsymbol hlibrary hfunction =>
      rw [resolve_of_native h hkind, if_neg hsymbol, Libraries.resolve_eq, hlibrary]
      simp only [hfunction]
  · rintro rfl
    exact resolves_resolve r path

end Registry
end Switchboard.Route
