import Mathlib.Data.List.TakeWhile
import Switchboard.Readiness.Queue

/-!
What becomes of the items of a queue, over any run of calls. A call that does not close the queue passes the items on in
their order: what it delivers and what stays are what was queued and what it puts in (`call_conserves`), and so it is for
a run of such calls (`calls_conserve`). Once the queue is closed nothing goes in or comes out (`log_closed`). A run of
any calls is of the first kind until the queue is closed, and then of the second (`items_conserved`).

Calls of several threads come one after the other, as each holds the lock of the queue. One that has to wait leaves the
queue as it is, and is made again when it is woken. Which of the waiting threads is woken is not covered.
-/

namespace Switchboard.Readiness

/-- A call on a queue. -/
inductive Call (α : Type) where
  | push (a : α)
  /-- Takes an item, and waits for one while the queue is open. -/
  | pop
  /-- Takes an item if there is one. -/
  | tryPop
  | close
  deriving DecidableEq, Repr

/-- What comes of a call. -/
inductive Reply (α : Type) where
  /-- The item is in the queue. -/
  | accepted
  /-- The item is handed back. -/
  | refused (a : α)
  /-- The item is delivered. -/
  | item (a : α)
  /-- No item is delivered. -/
  | nothing
  /-- The call does not come back as yet. -/
  | waits
  /-- The queue has been closed. -/
  | done
  deriving DecidableEq, Repr

variable {α : Type}

namespace Call

def isClose : Call α → Bool
  | close => true
  | _ => false

/-- The item that is to go in. -/
def pushed? : Call α → Option α
  | push a => some a
  | _ => none

/-- What comes of a call while the queue is open, from the first item that is queued. -/
def replyOpen (first : Option α) : Call α → Reply α
  | push _ => .accepted
  | pop => first.elim .waits .item
  | tryPop => first.elim .nothing .item
  | close => .done

/-- What comes of a call once the queue is closed. -/
def replyClosed : Call α → Reply α
  | push a => .refused a
  | pop => .nothing
  | tryPop => .nothing
  | close => .done

end Call

/-- The items that some calls are to put in. -/
def pushed (calls : List (Call α)) : List α := calls.filterMap Call.pushed?

/-- The calls before the first that closes the queue. -/
def untilClose (calls : List (Call α)) : List (Call α) := calls.takeWhile fun c => !c.isClose

theorem Call.isClose_iff {c : Call α} : c.isClose = true ↔ c = .close := by
  cases c <;> simp [isClose]

theorem any_isClose_iff {calls : List (Call α)} : calls.any Call.isClose = true ↔ .close ∈ calls := by
  simp only [List.any_eq_true, Call.isClose_iff, exists_eq_right]

theorem all_not_isClose {calls : List (Call α)} (hopen : .close ∉ calls) : ∀ c ∈ calls, (!c.isClose) = true := by
  intro c hc
  rw [Bool.not_eq_true', ← Bool.not_eq_true, Call.isClose_iff]
  rintro rfl
  exact hopen hc

theorem untilClose_of_not_mem {calls : List (Call α)} (hopen : .close ∉ calls) : untilClose calls = calls :=
  List.takeWhile_eq_self_iff.2 (all_not_isClose hopen)

theorem untilClose_close {calls : List (Call α)} (hopen : .close ∉ calls) (later : List (Call α)) :
    untilClose (calls ++ .close :: later) = calls := by
  unfold untilClose
  rw [List.takeWhile_append_of_pos (all_not_isClose hopen), List.takeWhile_cons_of_neg (by simp [Call.isClose]),
    List.append_nil]

/-! ## Logs -/

/-- Calls with what came of them. -/
abbrev Log (α : Type) := List (Call α × Reply α)

namespace Log

/-- The item that a call has put in. -/
def acceptedItem? : Call α × Reply α → Option α
  | (.push a, .accepted) => some a
  | _ => none

/-- The item that a call has delivered. -/
def deliveredItem? : Call α × Reply α → Option α
  | (_, .item a) => some a
  | _ => none

/-- The items that were put in. -/
def accepted (log : Log α) : List α := log.filterMap acceptedItem?

/-- The items that were delivered. -/
def delivered (log : Log α) : List α := log.filterMap deliveredItem?

theorem accepted_append (first second : Log α) : accepted (first ++ second) = accepted first ++ accepted second :=
  List.filterMap_append

theorem delivered_append (first second : Log α) : delivered (first ++ second) = delivered first ++ delivered second :=
  List.filterMap_append

end Log

namespace Queue

/-- Makes a call. -/
def call (q : Queue α) : Call α → Reply α × Queue α
  | .push a =>
    match q.push a with
    | .ok q => (.accepted, q)
    | .error a => (.refused a, q)
  | .pop =>
    match q.pop with
    | (.item a, q) => (.item a, q)
    | (.closed, q) => (.nothing, q)
    | (.nothing, q) => (.waits, q)
  | .tryPop =>
    match q.pop with
    | (.item a, q) => (.item a, q)
    | (_, q) => (.nothing, q)
  | .close => (.done, q.close)

/-- The queue after some calls. -/
def after (q : Queue α) (calls : List (Call α)) : Queue α := calls.foldl (fun q c => (q.call c).2) q

/-- What comes of some calls. -/
def log (q : Queue α) : List (Call α) → Log α
  | [] => []
  | c :: later => (c, (q.call c).1) :: (q.call c).2.log later

/-- What is dropped by the first call that closes the queue. -/
def dropped (q : Queue α) (calls : List (Call α)) : List α :=
  if calls.any Call.isClose then (q.after (untilClose calls)).items else []

theorem after_append (q : Queue α) (calls later : List (Call α)) :
    q.after (calls ++ later) = (q.after calls).after later := List.foldl_append

theorem log_append (q : Queue α) (calls later : List (Call α)) :
    q.log (calls ++ later) = q.log calls ++ (q.after calls).log later := by
  induction calls generalizing q with
  | nil => rfl
  | cons c calls ih => exact congrArg ((c, (q.call c).1) :: ·) (ih (q.call c).2)

/-! ## While the queue is open -/

theorem replyOpen_call (queued : List α) (c : Call α) : (call ⟨queued, false⟩ c).1 = c.replyOpen queued.head? := by
  cases c with
  | push a => rfl
  | pop => cases queued <;> rfl
  | tryPop => cases queued <;> rfl
  | close => rfl

/-- Some calls leave an open queue open. What they deliver and what stays are what was queued and what they push, and
each push is accepted. -/
structure Conserves (queued rest : List α) (calls : List (Call α)) : Prop where
  after : after ⟨queued, false⟩ calls = ⟨rest, false⟩
  items : (log ⟨queued, false⟩ calls).delivered ++ rest = queued ++ pushed calls
  accepted : (log ⟨queued, false⟩ calls).accepted = pushed calls

theorem Conserves.nil (queued : List α) : Conserves queued queued [] := ⟨rfl, (List.append_nil _).symm, rfl⟩

theorem Conserves.trans {queued mid rest : List α} {calls later : List (Call α)} (h : Conserves queued mid calls)
    (h' : Conserves mid rest later) : Conserves queued rest (calls ++ later) := by
  have hlog : log ⟨queued, false⟩ (calls ++ later) = log ⟨queued, false⟩ calls ++ log ⟨mid, false⟩ later := by
    rw [log_append, h.after]
  have hpushed : pushed (calls ++ later) = pushed calls ++ pushed later := List.filterMap_append
  constructor
  · rw [after_append, h.after, h'.after]
  · rw [hlog, Log.delivered_append, List.append_assoc, h'.items, ← List.append_assoc, h.items, hpushed,
      List.append_assoc]
  · rw [hlog, Log.accepted_append, h.accepted, h'.accepted, hpushed]

/-- One call. -/
theorem call_conserves (queued : List α) {c : Call α} (hc : c ≠ .close) : ∃ rest, Conserves queued rest [c] := by
  cases c with
  | push a => exact ⟨queued ++ [a], rfl, rfl, rfl⟩
  | pop =>
    cases queued with
    | nil => exact ⟨[], rfl, rfl, rfl⟩
    | cons first rest => exact ⟨rest, rfl, (List.append_nil _).symm, rfl⟩
  | tryPop =>
    cases queued with
    | nil => exact ⟨[], rfl, rfl, rfl⟩
    | cons first rest => exact ⟨rest, rfl, (List.append_nil _).symm, rfl⟩
  | close => exact absurd rfl hc

/-- A run of calls. -/
theorem calls_conserve (queued : List α) {calls : List (Call α)} (hopen : .close ∉ calls) :
    ∃ rest, Conserves queued rest calls := by
  induction calls generalizing queued with
  | nil => exact ⟨queued, .nil queued⟩
  | cons c calls ih =>
    obtain ⟨hc, hcalls⟩ := not_or.1 (mt List.mem_cons.2 hopen)
    obtain ⟨mid, hcall⟩ := call_conserves queued (Ne.symm hc)
    obtain ⟨rest, hrest⟩ := ih mid hcalls
    exact ⟨rest, hcall.trans hrest⟩

/-! ## Once the queue is closed -/

theorem call_closed (c : Call α) : call ⟨[], true⟩ c = (c.replyClosed, ⟨[], true⟩) := by
  cases c <;> rfl

theorem after_closed (calls : List (Call α)) : after ⟨[], true⟩ calls = ⟨[], true⟩ := by
  induction calls with
  | nil => rfl
  | cons c calls ih =>
    unfold after
    rw [List.foldl_cons, call_closed]
    exact ih

theorem log_closed (calls : List (Call α)) : log ⟨[], true⟩ calls = calls.map fun c => (c, c.replyClosed) := by
  induction calls with
  | nil => rfl
  | cons c calls ih => rw [log, call_closed, ih, List.map_cons]

theorem after_close (q : Queue α) (calls later : List (Call α)) : q.after (calls ++ .close :: later) = ⟨[], true⟩ := by
  rw [after_append]
  exact after_closed later

theorem log_close (q : Queue α) (calls later : List (Call α)) :
    q.log (calls ++ .close :: later) = q.log calls ++ (.close, .done) :: later.map fun c => (c, c.replyClosed) := by
  rw [log_append, log, ← log_closed]
  rfl

/-- What a closed queue answers neither puts an item in nor delivers one. -/
theorem filterMap_log_close {f : Call α × Reply α → Option α} (hf : ∀ c, f (c, c.replyClosed) = none) (q : Queue α)
    (calls later : List (Call α)) : (q.log (calls ++ .close :: later)).filterMap f = (q.log calls).filterMap f := by
  have hlater : ((Call.close :: later).map fun c => (c, c.replyClosed)).filterMap f = [] := by
    rw [List.filterMap_map, List.filterMap_eq_nil_iff]
    exact fun c _ => hf c
  rw [log_close, List.filterMap_append]
  exact (congrArg ((q.log calls).filterMap f ++ ·) hlater).trans (List.append_nil _)

theorem accepted_close (q : Queue α) (calls later : List (Call α)) :
    Log.accepted (q.log (calls ++ .close :: later)) = Log.accepted (q.log calls) :=
  filterMap_log_close (fun c => by cases c <;> rfl) q calls later

theorem delivered_close (q : Queue α) (calls later : List (Call α)) :
    Log.delivered (q.log (calls ++ .close :: later)) = Log.delivered (q.log calls) :=
  filterMap_log_close (fun c => by cases c <;> rfl) q calls later

/-! ## Any run -/

theorem dropped_of_not_mem (q : Queue α) {calls : List (Call α)} (hopen : .close ∉ calls) : q.dropped calls = [] :=
  if_neg (mt any_isClose_iff.1 hopen)

theorem dropped_close (q : Queue α) {calls : List (Call α)} (hopen : .close ∉ calls) (later : List (Call α)) :
    q.dropped (calls ++ .close :: later) = (q.after calls).items := by
  unfold dropped
  rw [if_pos (any_isClose_iff.2 (List.mem_append_right _ (List.mem_cons_self ..))), untilClose_close hopen]

/-- Over any calls on a new queue no item is lost and none is doubled. The items that were delivered, those that are
still queued and those that were dropped when the queue was first closed are, in this order, the items that were put in;
and these are the items of all pushes before it was closed. Until then a push is accepted, and a call that takes an item
gets the first that was not delivered yet; when there is none it gets nothing, or waits. From then on the queue is closed
and empty, nothing is delivered, and each push hands its own item back. -/
theorem items_conserved (calls : List (Call α)) :
    let q : Queue α := after {} calls
    let log : Log α := Queue.log {} calls
    log.delivered ++ (q.items ++ dropped {} calls) = log.accepted ∧
    log.accepted = pushed (untilClose calls) ∧
    (.close ∉ calls → q.closed = false ∧
      ∀ c, (q.call c).1 = c.replyOpen log.accepted[log.delivered.length]?) ∧
    ∀ later, after {} (calls ++ .close :: later) = (⟨[], true⟩ : Queue α) ∧
      Queue.log {} (calls ++ .close :: later) = log ++ (.close, .done) :: later.map fun c => (c, c.replyClosed) := by
  intro q log
  have hparts : log.delivered ++ (q.items ++ dropped {} calls) = log.accepted ∧
      log.accepted = pushed (untilClose calls) := by
    by_cases hclose : .close ∈ calls
    · -- the first call that closes the queue ends the open run, and what comes after it adds nothing
      obtain ⟨early, later, rfl, hopen⟩ := List.eq_append_cons_of_mem hclose
      obtain ⟨rest, h⟩ := calls_conserve [] hopen
      have hq : q = ⟨[], true⟩ := after_close {} early later
      have hdropped : dropped {} (early ++ .close :: later) = rest :=
        (dropped_close {} hopen later).trans (congrArg items h.after)
      have haccepted : log.accepted = pushed early := (accepted_close {} early later).trans h.accepted
      rw [hq, hdropped, haccepted, untilClose_close hopen]
      exact ⟨(congrArg (· ++ rest) (delivered_close {} early later)).trans h.items, rfl⟩
    · obtain ⟨rest, h⟩ := calls_conserve [] hclose
      have hq : q = ⟨rest, false⟩ := h.after
      have haccepted : log.accepted = pushed calls := h.accepted
      rw [hq, dropped_of_not_mem {} hclose, List.append_nil, haccepted, untilClose_of_not_mem hclose]
      exact ⟨h.items, rfl⟩
  refine ⟨hparts.1, hparts.2, fun hopen => ?_, fun later => ⟨after_close _ _ _, log_close _ _ _⟩⟩
  obtain ⟨rest, h⟩ := calls_conserve [] hopen
  have hq : q = ⟨rest, false⟩ := h.after
  have hlog : log.accepted = log.delivered ++ rest := h.accepted.trans h.items.symm
  have hfirst : log.accepted[log.delivered.length]? = rest.head? := by
    rw [hlog, List.getElem?_append_right (Nat.le_refl _), Nat.sub_self, List.head?_eq_getElem?]
  rw [hq, hfirst]
  exact ⟨rfl, replyOpen_call rest⟩

/-- One of three items is delivered, and two are dropped when the queue is closed; a fourth is handed back. -/
theorem items_conserved_four :
    let calls : List (Call Nat) := [.pop, .push 1, .push 2, .tryPop, .push 3]
    let ended := calls ++ .close :: [.push 4, .pop, .close]
    .close ∉ calls ∧ ((after {} calls).call .pop).1 = .item 2 ∧
    (Queue.log {} ended).delivered ++ ((after {} ended).items ++ dropped {} ended) = [1, 2, 3] ∧
    after {} ended = ⟨[], true⟩ ∧ dropped {} ended = [2, 3] ∧
    Queue.log {} ended = Queue.log {} calls ++
      [(.close, .done), (.push 4, .refused 4), (.pop, .nothing), (.close, .done)] := by
  intro calls ended
  have hopen : Call.close ∉ calls := by decide
  obtain ⟨-, -, hreply, hclosed⟩ := items_conserved calls
  obtain ⟨hall, hpushed, -, -⟩ := items_conserved ended
  obtain ⟨hafter, hlog⟩ := hclosed [.push 4, .pop, .close]
  exact ⟨hopen, (hreply hopen).2 .pop, hall.trans hpushed, hafter, rfl, hlog⟩

end Queue
end Switchboard.Readiness
