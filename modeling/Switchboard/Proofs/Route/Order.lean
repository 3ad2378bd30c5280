import Mathlib.Data.List.Sort
import Switchboard.Route.Table

/-!
The order of the route table. A table arranges a log of routes (`Arranges`): it holds them from the heaviest to the
lightest, and those of one weight in the order of the log. A log is arranged in one way only, the stable sort
(`Arranges.eq_mergeSort`); putting a route in its place arranges the log with this route at its end
(`Arranges.place`), and the first route of a table that serves a path is the first of the heaviest routes of the
log that do (`Arranges.find?_eq_some_iff`). In the table itself, a route is put in after those that are as heavy and
before those that are lighter, and the others stay in their order (`putIn_place`).
-/

namespace Switchboard.Route

/-- A route comes before another in the table at the latest when it is as heavy. -/
def Entry.precedes (a b : Entry) : Bool := decide (b.weight ≤ a.weight)

/-- The routes of one weight, in order. -/
def ofWeight (w : Nat) (l : List Entry) : List Entry := l.filter (·.weight == w)

@[simp] theorem mem_ofWeight {w : Nat} {l : List Entry} {e : Entry} :
    e ∈ ofWeight w l ↔ e ∈ l ∧ e.weight = w := by
  simp [ofWeight]

@[simp] theorem ofWeight_append (w : Nat) (l m : List Entry) :
    ofWeight w (l ++ m) = ofWeight w l ++ ofWeight w m := List.filter_append l m

theorem ofWeight_cons_of_eq {w : Nat} {e : Entry} (h : e.weight = w) (l : List Entry) :
    ofWeight w (e :: l) = e :: ofWeight w l :=
  List.filter_cons_of_pos (by simpa using h)

theorem ofWeight_cons_of_ne {w : Nat} {e : Entry} (h : e.weight ≠ w) (l : List Entry) :
    ofWeight w (e :: l) = ofWeight w l :=
  List.filter_cons_of_neg (by simpa using h)

theorem ofWeight_filter (w : Nat) (keep : Entry → Bool) (l : List Entry) :
    ofWeight w (l.filter keep) = (ofWeight w l).filter keep :=
  List.filter_comm _ _ l

theorem ofWeight_eq_nil {w : Nat} {l : List Entry} (h : ∀ e ∈ l, e.weight < w) :
    ofWeight w l = [] := by
  refine List.filter_eq_nil_iff.2 fun e he => ?_
  have := h e he
  simp only [beq_iff_eq]
  omega

/-- A list holds the routes of a log from the heaviest to the lightest, those of one weight in the order of the
log. -/
structure Arranges (log entries : List Entry) : Prop where
  sorted : entries.Pairwise fun a b => b.weight ≤ a.weight
  same : ∀ w, ofWeight w entries = ofWeight w log

namespace Arranges

variable {log entries : List Entry}

theorem nil : Arranges [] [] := ⟨List.Pairwise.nil, fun _ => rfl⟩

theorem mem_iff (h : Arranges log entries) (e : Entry) : e ∈ entries ↔ e ∈ log := by
  have hw : e ∈ ofWeight e.weight entries ↔ e ∈ ofWeight e.weight log := by rw [h.same]
  simpa using hw

/-- The route at the head of one arrangement of a log is no heavier than the one at the head of another. -/
theorem head_weight_le {a b : Entry} {l m : List Entry} (hm : Arranges log (b :: m))
    (hl : Arranges log (a :: l)) : a.weight ≤ b.weight := by
  have ha : a ∈ b :: m := (hm.mem_iff a).2 ((hl.mem_iff a).1 List.mem_cons_self)
  rcases List.mem_cons.1 ha with rfl | ha
  · exact Nat.le_refl _
  · exact List.rel_of_pairwise_cons hm.sorted ha

/-- A log is arranged in one way only. -/
theorem unique {l m : List Entry} (hl : Arranges log l) (hm : Arranges log m) : l = m := by
  induction l generalizing log m with
  | nil =>
    rcases m with _ | ⟨b, m⟩
    · rfl
    · have hb : b ∈ ([] : List Entry) := (hl.mem_iff b).2 ((hm.mem_iff b).1 List.mem_cons_self)
      exact absurd hb List.not_mem_nil
  | cons a l ih =>
    rcases m with _ | ⟨b, m⟩
    · have ha : a ∈ ([] : List Entry) := (hm.mem_iff a).2 ((hl.mem_iff a).1 List.mem_cons_self)
      exact absurd ha List.not_mem_nil
    · have hw : a.weight = b.weight := Nat.le_antisymm (head_weight_le hm hl) (head_weight_le hl hm)
      have hhead : a :: ofWeight b.weight l = b :: ofWeight b.weight m := by
        rw [← ofWeight_cons_of_eq hw, ← ofWeight_cons_of_eq rfl, hl.same, hm.same]
      obtain ⟨rfl, -⟩ := List.cons.inj hhead
      -- without their common head the lists arrange one log again, the rest of either
      have hrest : Arranges m l := by
        refine ⟨hl.sorted.of_cons, fun w => ?_⟩
        by_cases haw : a.weight = w
        · have h := (hl.same w).trans (hm.same w).symm
          rw [ofWeight_cons_of_eq haw, ofWeight_cons_of_eq haw] at h
          exact (List.cons.inj h).2
        · have h := (hl.same w).trans (hm.same w).symm
          rwa [ofWeight_cons_of_ne haw, ofWeight_cons_of_ne haw] at h
      rw [ih hrest ⟨hm.sorted.of_cons, fun _ => rfl⟩]

/-- The stable sort arranges a log. -/
theorem mergeSort (log : List Entry) : Arranges log (log.mergeSort Entry.precedes) := by
  have htrans : ∀ a b c : Entry, a.precedes b → b.precedes c → a.precedes c := by
    intro a b c hab hbc
    simp only [Entry.precedes, decide_eq_true_eq] at *
    omega
  have htotal : ∀ a b : Entry, a.precedes b || b.precedes a := by
    intro a b
    simp only [Entry.precedes, Bool.or_eq_true, decide_eq_true_eq]
    omega
  refine ⟨?_, fun w => ?_⟩
  · refine (List.pairwise_mergeSort htrans htotal log).imp fun h => ?_
    simpa [Entry.precedes] using h
  · -- routes of one weight are in order already, so that the sort keeps them as they stand
    have hordered : (ofWeight w log).Pairwise fun a b => a.precedes b := by
      refine List.pairwise_of_forall_mem_list fun a ha b hb => ?_
      have hwa := (mem_ofWeight.1 ha).2
      have hwb := (mem_ofWeight.1 hb).2
      simp [Entry.precedes, hwa, hwb]
    have hsub : (ofWeight w log).Sublist (log.mergeSort Entry.precedes) :=
      List.sublist_mergeSort htrans htotal hordered List.filter_sublist
    have hkept : (ofWeight w (ofWeight w log)).Sublist
        (ofWeight w (log.mergeSort Entry.precedes)) := hsub.filter _
    have hself : ofWeight w (ofWeight w log) = ofWeight w log := by simp [ofWeight]
    have hlen : (ofWeight w (log.mergeSort Entry.precedes)).length = (ofWeight w log).length :=
      ((List.mergeSort_perm log Entry.precedes).filter _).length_eq
    rw [hself] at hkept
    exact (hkept.eq_of_length hlen.symm).symm

theorem eq_mergeSort (h : Arranges log entries) : entries = log.mergeSort Entry.precedes :=
  h.unique (mergeSort log)

end Arranges

/-! ## Changes of an arranged list -/

theorem perm_place (e : Entry) (l : List Entry) : (Table.place e l).Perm (e :: l) := by
  induction l with
  | nil => exact List.Perm.refl _
  | cons f l ih =>
    unfold Table.place
    split
    · exact List.Perm.refl _
    · exact (ih.cons f).trans (List.Perm.swap e f l)

/-- The routes of a sorted list with a head of less weight have less weight. -/
theorem weight_lt_of_head {f : Entry} {l : List Entry} {w : Nat}
    (hl : (f :: l).Pairwise fun a b => b.weight ≤ a.weight) (hf : f.weight < w) :
    ∀ g ∈ f :: l, g.weight < w := by
  intro g hg
  rcases List.mem_cons.1 hg with rfl | hg
  · exact hf
  · exact Nat.lt_of_le_of_lt (List.rel_of_pairwise_cons hl hg) hf

theorem place_sorted (e : Entry) {l : List Entry} (hl : l.Pairwise fun a b => b.weight ≤ a.weight) :
    (Table.place e l).Pairwise fun a b => b.weight ≤ a.weight := by
  induction l with
  | nil => exact List.pairwise_singleton _ _
  | cons f l ih =>
    unfold Table.place
    split
    next hlt =>
      refine List.Pairwise.cons (fun g hg => ?_) hl
      exact Nat.le_of_lt (weight_lt_of_head hl hlt g hg)
    next hle =>
      refine List.Pairwise.cons (fun g hg => ?_) (ih hl.of_cons)
      rcases List.mem_cons.1 ((perm_place e l).mem_iff.1 hg) with rfl | hg
      · exact Nat.le_of_not_lt hle
      · exact List.rel_of_pairwise_cons hl hg

/-- A list is another one with a route put in where its weight belongs: after all routes that are as heavy, before all
that are lighter. -/
def PutIn (e : Entry) (l placed : List Entry) : Prop :=
  ∃ heavier lighter, l = heavier ++ lighter ∧ placed = heavier ++ e :: lighter ∧
    (∀ f ∈ heavier, e.weight ≤ f.weight) ∧ ∀ f ∈ lighter, f.weight < e.weight

theorem putIn_place (e : Entry) {l : List Entry} (hl : l.Pairwise fun a b => b.weight ≤ a.weight) :
    PutIn e l (Table.place e l) := by
  induction l with
  | nil => exact ⟨[], [], rfl, rfl, by simp, by simp⟩
  | cons f l ih =>
    unfold Table.place
    split
    next hlt => exact ⟨[], f :: l, rfl, rfl, by simp, weight_lt_of_head hl hlt⟩
    next hle =>
      obtain ⟨heavier, lighter, hsplit, hplaced, hheavier, hlighter⟩ := ih hl.of_cons
      refine ⟨f :: heavier, lighter, ?_, ?_, ?_, hlighter⟩
      · rw [hsplit, List.cons_append]
      · rw [hplaced, List.cons_append]
      · intro g hg
        rcases List.mem_cons.1 hg with rfl | hg
        · exact Nat.le_of_not_lt hle
        · exact hheavier g hg

/-- A route is placed after all routes of its weight. -/
theorem ofWeight_place (e : Entry) (w : Nat) {l : List Entry}
    (hl : l.Pairwise fun a b => b.weight ≤ a.weight) :
    ofWeight w (Table.place e l) = ofWeight w l ++ ofWeight w [e] := by
  induction l with
  | nil => rfl
  | cons f l ih =>
    unfold Table.place
    split
    next hlt =>
      by_cases hw : e.weight = w
      · have hnone : ofWeight w (f :: l) = [] :=
          ofWeight_eq_nil (weight_lt_of_head hl (hw ▸ hlt))
        rw [ofWeight_cons_of_eq hw, ofWeight_cons_of_eq hw, hnone]
        rfl
      · rw [ofWeight_cons_of_ne hw, ofWeight_cons_of_ne hw]
        exact (List.append_nil _).symm
    next hle =>
      have hrest := ih hl.of_cons
      by_cases hw : f.weight = w
      · rw [ofWeight_cons_of_eq hw, ofWeight_cons_of_eq hw, hrest]
        rfl
      · rw [ofWeight_cons_of_ne hw, ofWeight_cons_of_ne hw, hrest]

namespace Arranges

variable {log entries : List Entry}

/-- Putting a route in its place arranges the log with this route at its end. -/
theorem place (h : Arranges log entries) (e : Entry) :
    Arranges (log ++ [e]) (Table.place e entries) := by
  refine ⟨place_sorted e h.sorted, fun w => ?_⟩
  rw [ofWeight_place e w h.sorted, h.same, ofWeight_append]

/-- Removing routes from the list arranges the log without them. -/
theorem filter (h : Arranges log entries) (keep : Entry → Bool) :
    Arranges (log.filter keep) (entries.filter keep) := by
  refine ⟨h.sorted.filter keep, fun w => ?_⟩
  rw [ofWeight_filter, ofWeight_filter, h.same]

end Arranges

/-! ## The route for a path -/

/-- A route of a log is the most specific one for a path: it serves the path, the routes before it that do are
lighter, and the routes after it that do are no heavier. -/
def MostSpecific (log : List Entry) (path : String) (e : Entry) : Prop :=
  ∃ before after, log = before ++ e :: after ∧ e.accepts path = true ∧
    (∀ f ∈ before, f.accepts path = true → f.weight < e.weight) ∧
    (∀ f ∈ after, f.accepts path = true → f.weight ≤ e.weight)

theorem MostSpecific.unique {log : List Entry} {path : String} {e f : Entry}
    (he : MostSpecific log path e) (hf : MostSpecific log path f) : e = f := by
  obtain ⟨before, after, hlog, hep, hbefore, hafter⟩ := he
  obtain ⟨before', after', hlog', hfp, hbefore', hafter'⟩ := hf
  have hsplit : before ++ e :: after = before' ++ f :: after' := hlog.symm.trans hlog'
  rcases List.append_eq_append_iff.1 hsplit with ⟨mid, hmid, hrest⟩ | ⟨mid, hmid, hrest⟩
  · rcases mid with _ | ⟨g, mid⟩
    · exact (List.cons.inj hrest).1
    · -- the first route stands before the second one
      obtain ⟨rfl, rfl⟩ := List.cons.inj hrest
      have hlt : e.weight < f.weight := hbefore' e (hmid ▸ by simp) hep
      have hle : f.weight ≤ e.weight := hafter f (by simp) hfp
      omega
  · rcases mid with _ | ⟨g, mid⟩
    · exact (List.cons.inj hrest).1.symm
    · obtain ⟨rfl, rfl⟩ := List.cons.inj hrest
      have hlt : f.weight < e.weight := hbefore f (hmid ▸ by simp) hfp
      have hle : e.weight ≤ f.weight := hafter' e (by simp) hep
      omega

namespace Arranges

variable {log entries : List Entry} {path : String}

/-- The first route of the table that serves a path is the most specific one. -/
theorem mostSpecific_of_find? (h : Arranges log entries) {e : Entry}
    (he : entries.find? (·.accepts path) = some e) : MostSpecific log path e := by
  obtain ⟨hep, heavier, lighter, hentries, hnone⟩ := List.find?_eq_some_iff_append.1 he
  have hnone' : ∀ f ∈ heavier, f.accepts path ≠ true := fun f hf => by simpa using hnone f hf
  have hsorted : ∀ f ∈ lighter, f.weight ≤ e.weight := by
    have hs := h.sorted
    rw [hentries] at hs
    exact fun f hf => List.rel_of_pairwise_cons (List.pairwise_append.1 hs).2.1 hf
  have hle : ∀ f ∈ log, f.accepts path = true → f.weight ≤ e.weight := by
    intro f hf hfp
    have hmem : f ∈ heavier ++ e :: lighter := hentries ▸ (h.mem_iff f).2 hf
    rcases List.mem_append.1 hmem with hmem | hmem
    · exact absurd hfp (hnone' f hmem)
    · rcases List.mem_cons.1 hmem with rfl | hmem
      · exact Nat.le_refl _
      · exact hsorted f hmem
  -- the routes of this weight stand in the log as they do in the table
  have hsame : ofWeight e.weight log = ofWeight e.weight heavier ++ e :: ofWeight e.weight lighter := by
    rw [← h.same, hentries, ofWeight_append, ofWeight_cons_of_eq rfl]
  obtain ⟨front, back, hlog, hfront, hback⟩ := List.filter_eq_append_iff.1 hsame
  obtain ⟨between, after, hbacks, hbetween, -, -⟩ := List.filter_eq_cons_iff.1 hback
  refine ⟨front ++ between, after, by rw [hlog, hbacks, List.append_assoc], hep, ?_, ?_⟩
  · intro f hf hfp
    refine Nat.lt_of_le_of_ne (hle f ?_ hfp) fun hw => ?_
    · rw [hlog, hbacks]
      simp only [List.mem_append, List.mem_cons] at hf ⊢
      tauto
    · rcases List.mem_append.1 hf with hf | hf
      · have hheavier : f ∈ ofWeight e.weight heavier := by
          rw [← hfront]
          exact mem_ofWeight.2 ⟨hf, hw⟩
        exact hnone' f (mem_ofWeight.1 hheavier).1 hfp
      · exact hbetween f hf (by simpa using hw)
  · intro f hf hfp
    refine hle f ?_ hfp
    rw [hlog, hbacks]
    simp [hf]

theorem find?_eq_some_iff (h : Arranges log entries) (e : Entry) :
    entries.find? (·.accepts path) = some e ↔ MostSpecific log path e := by
  constructor
  · exact h.mostSpecific_of_find?
  · intro hspecific
    obtain ⟨before, after, hlog, hep, -, -⟩ := id hspecific
    have hmem : e ∈ entries := (h.mem_iff e).2 (by simp [hlog])
    have hsome : (entries.find? (·.accepts path)).isSome = true := List.find?_isSome.2 ⟨e, hmem, hep⟩
    obtain ⟨f, hf⟩ := Option.isSome_iff_exists.1 hsome
    rw [hf, (h.mostSpecific_of_find? hf).unique hspecific]

end Arranges
end Switchboard.Route
