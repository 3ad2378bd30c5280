import Mathlib.Algebra.Order.Group.Multiset
import Mathlib.Data.List.Basic
import Mathlib.Data.List.Induction
import Mathlib.Tactic.Abel
import Switchboard.Readiness.Watch
import Switchboard.Text.Bytes

/-!
Where a pass of the poller puts the connections. The watched list is walked from its end, and a connection that leaves
it is replaced by the last one; what is not looked at yet stays in front of the place (`exists_swapRemove`), so that each
connection is judged by what was reported of it (`dispatchBelow_looked`). While the queue is open, a pass queues the
ready connections, drops the idle ones and keeps the others, and of those handed back it queues the ones with bytes left
and watches the rest; no connection is lost and none is doubled (`pass_sorts`).

The queue is the poller's alone here: what workers take from it during a pass is left out, and so is the time that idle
connections are measured by.
-/

namespace Switchboard.Readiness

variable {γ : Type}

theorem exists_swapRemove (pre : List γ) (c : γ) (rest : List γ) :
    ∃ rest', swapRemove (pre ++ c :: rest) pre.length = pre ++ rest' ∧ rest'.Perm rest := by
  rcases List.eq_nil_or_concat' rest with rfl | ⟨front, last, rfl⟩
  · exact ⟨[], by simp [swapRemove], .refl _⟩
  · refine ⟨last :: front, ?_, (List.perm_append_singleton last front).symm⟩
    have hlast : (pre ++ c :: (front ++ [last])).getLast? = some last := by
      rw [← List.cons_append, ← List.append_assoc, List.getLast?_concat]
    have hlength : ¬ pre.length + 1 = (pre ++ c :: (front ++ [last])).length := by
      simp only [List.length_append, List.length_cons, List.length_nil]
      omega
    have hset : (pre ++ c :: (front ++ [last])).set pre.length last = pre ++ last :: front ++ [last] := by
      simp
    rw [swapRemove, hlast]
    simp only
    rw [if_neg hlength, hset, List.dropLast_concat]

/-! ## Reports -/

/-- The ready ones of some connections, each with what was reported of it. -/
def ready (reports : List (γ × Mask)) : List (Event γ) :=
  (reports.filter fun p => !p.2.isEmpty).map fun p => ⟨p.1, p.2⟩

/-- The ones that are not ready and have been idle for too long. -/
def idle (isIdle : γ → Bool) (reports : List (γ × Mask)) : List γ :=
  (reports.filter fun p => p.2.isEmpty && isIdle p.1).map (·.1)

/-- The ones that are neither ready nor idle. -/
def waiting (isIdle : γ → Bool) (reports : List (γ × Mask)) : List γ :=
  (reports.filter fun p => p.2.isEmpty && !isIdle p.1).map (·.1)

theorem ready_append (first second : List (γ × Mask)) : ready (first ++ second) = ready first ++ ready second := by
  rw [ready, List.filter_append, List.map_append]
  rfl

theorem idle_append (isIdle : γ → Bool) (first second : List (γ × Mask)) :
    idle isIdle (first ++ second) = idle isIdle first ++ idle isIdle second := by
  rw [idle, List.filter_append, List.map_append]
  rfl

theorem waiting_append (isIdle : γ → Bool) (first second : List (γ × Mask)) :
    waiting isIdle (first ++ second) = waiting isIdle first ++ waiting isIdle second := by
  rw [waiting, List.filter_append, List.map_append]
  rfl

/-- Every connection is one of the three. -/
theorem parts_perm (isIdle : γ → Bool) (reports : List (γ × Mask)) :
    ((ready reports).map (·.conn) ++ (idle isIdle reports ++ waiting isIdle reports)).Perm (reports.map (·.1)) := by
  have hready : (ready reports).map (·.conn) = (reports.filter fun p => !p.2.isEmpty).map (·.1) := by
    rw [ready, List.map_map]
    rfl
  have hrest : (idle isIdle reports ++ waiting isIdle reports).Perm
      ((reports.filter fun p => p.2.isEmpty).map (·.1)) := by
    have hsplit := List.filter_append_perm (fun p => isIdle p.1) (reports.filter fun p => p.2.isEmpty)
    simp only [List.filter_filter, Bool.and_comm (isIdle _), Bool.and_comm (!isIdle _)] at hsplit
    rw [idle, waiting, ← List.map_append]
    exact hsplit.map _
  have hall := (List.filter_append_perm (fun p : γ × Mask => p.2.isEmpty) reports).map (·.1)
  rw [hready]
  refine (hrest.append_left _).trans (List.perm_append_comm.trans ?_)
  rwa [List.map_append] at hall

namespace Watch

/-- All connections in the poller's hands, and those that it has dropped. -/
def conns (w : Watch γ) : List γ := w.queue.items.map (·.conn) ++ (w.watched ++ w.dropped)

variable {w w' w'' : Watch γ} {isIdle : γ → Bool}

/-- What comes of looking at some connections, the last one first. Behind them in the watched list stood `rest`, and now
`rest'` does. -/
structure Looked (isIdle : γ → Bool) (reports : List (γ × Mask)) (w w' : Watch γ) (rest rest' : List γ) : Prop where
  queue : w'.queue = ⟨w.queue.items ++ (ready reports).reverse, false⟩
  dropped : w'.dropped = w.dropped ++ (idle isIdle reports).reverse
  rest : rest'.Perm (waiting isIdle reports ++ rest)

theorem Looked.nil (hopen : w.queue.closed = false) (rest : List γ) : Looked isIdle [] w w rest rest where
  queue := by
    rw [← hopen]
    simp [ready]
  dropped := (List.append_nil _).symm
  rest := .refl _

theorem Looked.trans {first second : List (γ × Mask)} {rest rest' rest'' : List γ}
    (h : Looked isIdle second w w' rest rest') (h' : Looked isIdle first w' w'' rest' rest'') :
    Looked isIdle (first ++ second) w w'' rest rest'' where
  queue := by rw [h'.queue, h.queue, ready_append, List.reverse_append, List.append_assoc]
  dropped := by rw [h'.dropped, h.dropped, idle_append, List.reverse_append, List.append_assoc]
  rest := by
    rw [waiting_append, List.append_assoc]
    exact h'.rest.trans (h.rest.append_left _)

theorem push_of_open {q : Queue (Event γ)} (hopen : q.closed = false) (e : Event γ) :
    q.push e = .ok ⟨q.items ++ [e], false⟩ := by
  rw [Queue.push, hopen]
  rfl

/-- A look at one connection. -/
theorem visit_looked {pre rest : List γ} {c : γ} (hwatched : w.watched = pre ++ c :: rest)
    (hopen : w.queue.closed = false) (mask : Mask) (isIdle : γ → Bool) :
    ∃ w' rest', w.visit pre.length mask isIdle = (true, w') ∧ w'.watched = pre ++ rest' ∧
      Looked isIdle [(c, mask)] w w' rest rest' := by
  obtain ⟨rest', hremove, hrest⟩ := exists_swapRemove pre c rest
  have hget : w.watched[pre.length]? = some c := by
    rw [hwatched]
    simp
  rw [visit, hget, hwatched]
  simp only
  cases hmask : mask.isEmpty with
  | false =>
    refine ⟨{ w with watched := pre ++ rest', queue := ⟨w.queue.items ++ [⟨c, mask⟩], false⟩ }, rest', ?_, rfl, ?_⟩
    · rw [hremove, enqueue, push_of_open hopen]
      rfl
    · refine ⟨?_, ?_, ?_⟩
      · simp [ready, hmask]
      · simp [idle, hmask]
      · simpa [waiting, hmask] using hrest
  | true =>
    cases hidle : isIdle c with
    | true =>
      refine ⟨{ w with watched := pre ++ rest', dropped := w.dropped ++ [c] }, rest', ?_, rfl, ?_⟩
      · rw [hremove]
        rfl
      · refine ⟨?_, ?_, ?_⟩
        · rw [← hopen]
          simp [ready, hmask]
        · simp [idle, hmask, hidle]
        · simpa [waiting, hmask, hidle] using hrest
    | false =>
      refine ⟨w, c :: rest, rfl, hwatched, ?_, ?_, ?_⟩
      · rw [← hopen]
        simp [ready, hmask]
      · simp [idle, hmask, hidle]
      · simp [waiting, hmask, hidle]

/-- Looking at all watched connections loses none and doubles none. -/
theorem Looked.conns_perm {reports : List (γ × Mask)} (h : Looked isIdle reports w w' [] w'.watched)
    (hconns : reports.map (·.1) = w.watched) : w'.conns.Perm w.conns := by
  have hparts := Multiset.coe_eq_coe.2 (parts_perm isIdle reports)
  have hstay := Multiset.coe_eq_coe.2 h.rest
  rw [List.append_nil] at hstay
  rw [← Multiset.coe_eq_coe]
  simp only [conns, h.queue, h.dropped, List.map_append, List.map_reverse, ← Multiset.coe_add, Multiset.coe_reverse,
    hstay, ← hconns, ← hparts]
  abel

/-- Walking down some connections in front of the list looks at each of them, with what was reported of it. -/
theorem dispatchBelow_looked {masks : List Mask} {reports : List (γ × Mask)} {rest : List γ}
    (hmasks : reports.map (·.2) <+: masks) (hwatched : w.watched = reports.map (·.1) ++ rest)
    (hopen : w.queue.closed = false) (isIdle : γ → Bool) :
    ∃ w', dispatchBelow masks isIdle reports.length w = (true, w') ∧ Looked isIdle reports w w' rest w'.watched := by
  -- the walk goes down, so that the induction takes off the last connection
  induction reports using List.reverseRecOn generalizing w rest with
  | nil =>
    obtain rfl : rest = w.watched := hwatched.symm
    exact ⟨w, rfl, .nil hopen _⟩
  | append_singleton reports p ih =>
    rw [List.map_append] at hmasks hwatched
    have hmask : masks[reports.length]? = some p.2 := by
      obtain ⟨more, rfl⟩ := hmasks
      simp
    rw [List.append_assoc] at hwatched
    have hlength : (reports.map (·.1)).length = reports.length := List.length_map _
    obtain ⟨w₁, rest₁, hvisit, hwatched₁, hlooked⟩ := visit_looked hwatched hopen p.2 isIdle
    rw [hlength] at hvisit
    have hopen₁ : w₁.queue.closed = false := by rw [hlooked.queue]
    obtain ⟨w₂, hbelow, hlooked'⟩ := ih ((List.prefix_append _ _).trans hmasks) hwatched₁ hopen₁
    refine ⟨w₂, ?_, hlooked.trans hlooked'⟩
    rw [List.length_append, List.length_singleton, dispatchBelow, hmask, Option.getD_some, hvisit]
    exact hbelow

/-- Connections that are handed back are queued if they have bytes left, and watched otherwise. -/
theorem takeRearmed_eq (hasPending : γ → Bool) (rearmed : List γ) (hopen : w.queue.closed = false) :
    w.takeRearmed hasPending rearmed = (true,
      { w with
        watched := w.watched ++ rearmed.filter (!hasPending ·)
        queue := ⟨w.queue.items ++ (rearmed.filter hasPending).map (⟨·, .read⟩), false⟩ }) := by
  induction rearmed generalizing w with
  | nil =>
    rw [takeRearmed, ← hopen]
    simp
  | cons c rearmed ih =>
    rw [takeRearmed]
    cases hc : hasPending c with
    | true =>
      rw [if_pos rfl, enqueue, push_of_open hopen]
      simp only
      rw [ih rfl]
      simp [hc]
    | false =>
      rw [if_neg Bool.false_ne_true, ih (w := { w with watched := w.watched ++ [c] }) hopen]
      simp [hc]

/-- Taking connections back loses none and doubles none. -/
theorem takeRearmed_conns (hasPending : γ → Bool) (rearmed : List γ) (hopen : w.queue.closed = false) :
    (w.takeRearmed hasPending rearmed).2.conns.Perm (w.conns ++ rearmed) := by
  have hends := Multiset.coe_eq_coe.2 (List.filter_append_perm hasPending rearmed)
  have hqueued : (rearmed.filter hasPending).map ((·.conn) ∘ fun c => (⟨c, .read⟩ : Event γ)) =
      rearmed.filter hasPending := List.map_id _
  rw [takeRearmed_eq hasPending rearmed hopen, ← Multiset.coe_eq_coe]
  simp only [conns, List.map_append, List.map_map, hqueued, ← Multiset.coe_add, ← hends]
  abel

/-- A pass, while the queue is open, puts the connections where they belong. Each watched connection is judged by what
the poll reported of it at its own place: it is queued with that if this is some event, and otherwise it is dropped if it
has been idle for too long and watched on if not. Of the connections handed back, the ones with bytes left are queued as
readable and the others watched. Each connection is in one place afterwards, just as often as it was there before. -/
theorem pass_sorts (w : Watch γ) (reported : List UInt16) (isIdle : γ → Bool) (pending : γ → Bytes) (rearmed : List γ)
    (hlength : reported.length = w.watched.length) (hopen : w.queue.closed = false) :
    let reports := w.watched.zip (reported.map Mask.ofPoll)
    ∃ w', w.pass (reported.map Mask.ofPoll) isIdle (fun c => !(pending c).isEmpty) rearmed = (true, w') ∧
      w'.queue = ⟨w.queue.items ++ (ready reports).reverse ++
        (rearmed.filter fun c => !(pending c).isEmpty).map (⟨·, .read⟩), false⟩ ∧
      w'.dropped = w.dropped ++ (idle isIdle reports).reverse ∧
      w'.watched.Perm (waiting isIdle reports ++ rearmed.filter fun c => (pending c).isEmpty) ∧
      w'.conns.Perm (w.conns ++ rearmed) := by
  intro reports
  have hlengths : w.watched.length = (reported.map Mask.ofPoll).length := by rw [List.length_map, hlength]
  have hconns : reports.map (·.1) = w.watched := List.map_fst_zip (Nat.le_of_eq hlengths)
  have hmasks : reports.map (·.2) = reported.map Mask.ofPoll := List.map_snd_zip (Nat.le_of_eq hlengths.symm)
  have hcount : reports.length = w.watched.length := by rw [← hconns, List.length_map]
  have hprefix : reports.map (·.2) <+: reported.map Mask.ofPoll := hmasks ▸ List.prefix_refl _
  have hwatched : w.watched = reports.map (·.1) ++ [] := by rw [hconns, List.append_nil]
  obtain ⟨w₁, hdispatch, hlooked⟩ := dispatchBelow_looked hprefix hwatched hopen isIdle
  have hopen₁ : w₁.queue.closed = false := by rw [hlooked.queue]
  have hrest := hlooked.rest
  rw [List.append_nil] at hrest
  have hpass : w.pass (reported.map Mask.ofPoll) isIdle (fun c => !(pending c).isEmpty) rearmed =
      w₁.takeRearmed (fun c => !(pending c).isEmpty) rearmed := by
    rw [pass, dispatchReady, ← hcount, hdispatch]
  have hall := (takeRearmed_conns (fun c => !(pending c).isEmpty) rearmed hopen₁).trans
    ((hlooked.conns_perm hconns).append_right rearmed)
  have hhanded := takeRearmed_eq (fun c => !(pending c).isEmpty) rearmed hopen₁
  simp only [Bool.not_not] at hhanded
  rw [hhanded] at hall
  refine ⟨_, hpass.trans hhanded, ?_, hlooked.dropped, hrest.append_right _, hall⟩
  simp only [hlooked.queue]

/-- Of four connections the first is readable, the second idle and the third hung up; of two that are handed back, the
first has bytes left. -/
theorem pass_sorts_six :
    let w : Watch (Nat × Bytes) := { watched := [(1, []), (2, []), (3, []), (4, [])] }
    w.queue.closed = false ∧
    ∃ w', w.pass ([1, 0, 16, 0].map Mask.ofPoll) (·.1 == 2) (fun c => !c.2.isEmpty) [(5, [71]), (6, [])] = (true, w') ∧
      w'.queue = ⟨[⟨(3, []), .close⟩, ⟨(1, []), .read⟩, ⟨(5, [71]), .read⟩], false⟩ ∧
      w'.dropped = [(2, [])] ∧ w'.watched.Perm [(4, []), (6, [])] := by
  intro w
  obtain ⟨w', hpass, hqueue, hdropped, hwatched, -⟩ :=
    pass_sorts w [1, 0, 16, 0] (·.1 == 2) (·.2) [(5, [71]), (6, [])] rfl rfl
  exact ⟨rfl, w', hpass, hqueue.trans (by decide), hdropped.trans (by decide), hwatched⟩

end Watch
end Switchboard.Readiness
