/-!
The queue between the poller and the workers: first in, first out, until it is closed. Closing drops what is
queued, and afterwards nothing goes in or comes out.
-/

namespace Switchboard.Readiness

/-- A queue. -/
structure Queue (α : Type) where
  items : List α := []
  closed : Bool := false
  deriving DecidableEq, Repr

/-- What an attempt to take an item finds. -/
inductive Taken (α : Type) where
  /-- The first item. -/
  | item (a : α)
  /-- The queue is closed. -/
  | closed
  /-- The queue is open and empty: one has to wait. -/
  | nothing
  deriving DecidableEq, Repr

namespace Queue

variable {α : Type}

/-- Adds an item at the end; a closed queue hands it back. -/
def push (q : Queue α) (a : α) : Except α (Queue α) :=
  if q.closed then .error a else .ok { q with items := q.items ++ [a] }

/-- Takes the first item. -/
def pop (q : Queue α) : Taken α × Queue α :=
  if q.closed then (.closed, q)
  else match q.items with
    | [] => (.nothing, q)
    | a :: rest => (.item a, { q with items := rest })

/-- Closes the queue and drops what is queued. -/
def close (_ : Queue α) : Queue α := { items := [], closed := true }

/-- The number of items. -/
def size (q : Queue α) : Nat := q.items.length

end Queue
end Switchboard.Readiness
