import Switchboard.Readiness.Mask
import Switchboard.Readiness.Queue

/-!
One pass of the poller. Watched connections that became ready move to the queue, those idle for too long are
dropped, and connections handed back are queued if they have bytes left, watched otherwise. The watched list
is walked from its end, and a connection that leaves it is replaced by the last one.
-/

namespace Switchboard.Readiness

/-- A connection with the readiness that woke it. -/
structure Event (γ : Type) where
  conn : γ
  mask : Mask
  deriving DecidableEq, Repr

/-- The connections in the poller's hands. -/
structure Watch (γ : Type) where
  watched : List γ := []
  queue : Queue (Event γ) := {}
  dropped : List γ := []
  deriving DecidableEq, Repr

/-- The list with the element at a position replaced by the last one, which leaves its place. -/
def swapRemove {α : Type} (xs : List α) (i : Nat) : List α :=
  match xs.getLast? with
  | none => []
  | some last => if i + 1 = xs.length then xs.dropLast else (xs.set i last).dropLast

namespace Watch

variable {γ : Type}

/-- Queues a connection; false when the queue is closed, and then the connection is dropped. -/
def enqueue (w : Watch γ) (conn : γ) (mask : Mask) : Bool × Watch γ :=
  match w.queue.push ⟨conn, mask⟩ with
  | .ok queue => (true, { w with queue })
  | .error e => (false, { w with dropped := w.dropped ++ [e.conn] })

/-- Looks at the watched connection at a position: queues it if it is ready, drops it if it is idle. -/
def visit (w : Watch γ) (i : Nat) (mask : Mask) (isIdle : γ → Bool) : Bool × Watch γ :=
  match w.watched[i]? with
  | none => (true, w)
  | some conn =>
    if !mask.isEmpty then
      { w with watched := swapRemove w.watched i }.enqueue conn mask
    else if isIdle conn then
      (true, { w with watched := swapRemove w.watched i, dropped := w.dropped ++ [conn] })
    else (true, w)

/-- Walks the positions below `n` downwards; false as soon as the queue turns out to be closed. -/
def dispatchBelow (masks : List Mask) (isIdle : γ → Bool) : Nat → Watch γ → Bool × Watch γ
  | 0, w => (true, w)
  | i + 1, w =>
    match w.visit i (masks[i]?.getD .none) isIdle with
    | (true, w) => dispatchBelow masks isIdle i w
    | (false, w) => (false, w)

/-- Queues the ready connections and drops the idle ones; `masks` holds the readiness of each watched
connection. -/
def dispatchReady (w : Watch γ) (masks : List Mask) (isIdle : γ → Bool) : Bool × Watch γ :=
  dispatchBelow masks isIdle w.watched.length w

/-- Takes back connections: those with bytes left are queued as readable, the others watched. -/
def takeRearmed (hasPending : γ → Bool) : List γ → Watch γ → Bool × Watch γ
  | [], w => (true, w)
  | conn :: rest, w =>
    if hasPending conn then
      match w.enqueue conn .read with
      | (true, w) => takeRearmed hasPending rest w
      | (false, w) => (false, { w with dropped := w.dropped ++ rest })
    else takeRearmed hasPending rest { w with watched := w.watched ++ [conn] }

/-- A whole pass: the ready and the idle connections first, then those handed back. -/
def pass (w : Watch γ) (masks : List Mask) (isIdle hasPending : γ → Bool) (rearmed : List γ) :
    Bool × Watch γ :=
  match w.dispatchReady masks isIdle with
  | (true, w) => w.takeRearmed hasPending rearmed
  | r => r

end Watch
end Switchboard.Readiness
