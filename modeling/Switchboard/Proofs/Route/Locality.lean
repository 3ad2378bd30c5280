import Switchboard.Route.Canned

/-!
What services do not look at. A service is local if it works apart from the bytes past the request and from their
decoder (`Service.IsLocal`), and blind to the method if it does for HEAD what it does for GET (`Service.IsMethodBlind`).
Canned services are local (`isLocal_canned`), and blind to the method unless they tell it (`isMethodBlind_canned`).
What holds of all services in the libraries that are known holds of the one that serves a path
(`Registry.holds_of_known`).
-/

namespace Switchboard

open Http
open Exchange (Slot)

/-- A slot with other bytes past the request. -/
def Exchange.Slot.withRest (s : Slot) (b : Bytes) (d : Chunk.Decoder) : Slot :=
  { s with buffer := b, decoder := d }

/-- The slot with its request asked for the head only. -/
def Exchange.Slot.asHead (s : Slot) : Slot := { s with request := { s.request with method := .head } }

namespace Route

/-- A service works apart from the bytes past the request and from their decoder: it does not look at them, and
leaves them and the limits as they are. -/
structure Service.IsLocal (f : Service) : Prop where
  apart : ∀ t s b d, f t (s.withRest b d) = ((f t s).1.withRest b d, (f t s).2)
  limits : ∀ t s, (f t s).1.limits = s.limits

/-- What a canned service makes does not depend on what comes past the request. -/
theorem make_withRest (t : Table) (s : Slot) (b : Bytes) (d : Chunk.Decoder)
    (wasFresh : Bool) (recipe : Recipe) :
    recipe.make t (s.withRest b d) wasFresh = recipe.make t s wasFresh := by
  cases recipe <;> rfl

theorem isLocal_canned (c : Canned) : Service.IsLocal c.service where
  apart := by
    intro t s b d
    have hq : queriedStatus (s.withRest b d).request = queriedStatus s.request := rfl
    have hr : (s.withRest b d).response = s.response := rfl
    unfold Canned.service
    rw [hq, hr]
    cases c.recipe with
    | none => rfl
    | some recipe =>
      simp only [make_withRest]
      rfl
  limits := by
    intro t s
    rfl

/-- A service does not look at the method: asked for the head only, it does what it does for the whole; and it leaves
the method as it is. -/
structure Service.IsMethodBlind (f : Service) : Prop where
  blind : ∀ t s, s.request.method = .get → f t s.asHead = ((f t s).1.asHead, (f t s).2)
  keeps : ∀ t s, s.request.method = .get → (f t s).1.request.method = .get

theorem make_asHead (t : Table) (s : Slot) (wasFresh : Bool) {recipe : Recipe} (h : recipe ≠ .summary) :
    recipe.make t s.asHead wasFresh = recipe.make t s wasFresh := by
  cases recipe
  case summary => exact absurd rfl h
  all_goals rfl

theorem isMethodBlind_canned {c : Canned} (h : c.recipe ≠ some .summary) : Service.IsMethodBlind c.service where
  blind := by
    intro t s _
    have hq : queriedStatus s.asHead.request = queriedStatus s.request := rfl
    have hr : s.asHead.response = s.response := rfl
    unfold Canned.service
    rw [hq, hr]
    cases hrecipe : c.recipe with
    | none => rfl
    | some recipe =>
      have hne : recipe ≠ .summary := fun he => h (hrecipe.trans (congrArg some he))
      simp only [make_asHead _ _ _ hne]
      rfl
  keeps := by
    intro t s hs
    exact hs

/-- A service that is found in the libraries that are known is one of theirs: what holds of all of them holds of it. -/
theorem holds_of_resolve {Q : Service → Prop} {ls : Libraries} (hplugins : ls.plugins = false)
    (h : ∀ library ∈ ls.known, ∀ entry ∈ library.2, Q entry.2)
    {library symbol : String} {f : Service} (hf : ls.resolve library symbol = .ok f) : Q f := by
  unfold Libraries.resolve at hf
  rcases hk : ls.known.lookup library with _ | functions
  · rw [hk, hplugins] at hf
    exact absurd hf (by simp)
  · rw [hk] at hf
    simp only at hf
    rcases hg : functions.lookup symbol with _ | g <;> rw [hg] at hf
    · exact absurd hf (by simp)
    · obtain rfl := Except.ok.inj hf
      obtain ⟨before, after, hl, -⟩ := List.lookup_eq_some_iff.1 hk
      obtain ⟨before', after', hm, -⟩ := List.lookup_eq_some_iff.1 hg
      refine h (library, functions) ?_ (symbol, g) ?_
      · rw [hl]
        exact List.mem_append_right before List.mem_cons_self
      · rw [hm]
        exact List.mem_append_right before' List.mem_cons_self

theorem exists_of_resolve {r : Registry} {path : String} {f : Service}
    (hf : r.resolve path = .ok f) : ∃ library symbol, r.libraries.resolve library symbol = .ok f := by
  unfold Registry.resolve at hf
  split at hf
  · exact absurd hf (by simp)
  next e _ =>
  by_cases hkind : e.spec.kind = .native
  · rw [if_neg (not_not_intro hkind)] at hf
    by_cases hempty : (symbolOf path).isEmpty = true
    · simp only [hempty, if_true] at hf
      exact absurd hf (by simp)
    · simp only [hempty] at hf
      exact ⟨_, _, hf⟩
  · rw [if_pos hkind] at hf
    exact absurd hf (by simp)

/-- What holds of all services that are known holds of the one that serves a path. -/
theorem Registry.holds_of_known {Q : Service → Prop} {r : Registry} (hplugins : r.libraries.plugins = false)
    (h : ∀ library ∈ r.libraries.known, ∀ entry ∈ library.2, Q entry.2) (path : String) (f : Service)
    (hf : r.resolve path = .ok f) : Q f := by
  obtain ⟨library, symbol, hf⟩ := exists_of_resolve hf
  exact holds_of_resolve hplugins h hf

end Route
end Switchboard
