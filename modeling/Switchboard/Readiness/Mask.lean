/-!
Readiness masks: sets of eight events, and their reading from the bits that a poll reports.
-/

namespace Switchboard.Readiness

/-- A set of readiness events, a bit each. -/
structure Mask where
  bits : UInt8
  deriving DecidableEq, Repr

namespace Mask

def none : Mask := ⟨0⟩
def read : Mask := ⟨1⟩
def write : Mask := ⟨2⟩
def urgent : Mask := ⟨4⟩
def accept : Mask := ⟨8⟩
def error : Mask := ⟨16⟩
def close : Mask := ⟨32⟩
def timeout : Mask := ⟨64⟩
def busy : Mask := ⟨128⟩

/-- The events with their names. -/
def names : List (Mask × String) :=
  [(read, "READ"), (write, "WRITE"), (urgent, "OOB"), (accept, "ACCEPT"), (error, "ERROR"),
   (close, "CLOSE"), (timeout, "TIMEOUT"), (busy, "BUSY")]

/-- The event with this name; `NONE` is the empty set. -/
def ofName? (name : String) : Option Mask :=
  if name = "NONE" then some none else (names.find? (·.2 == name)).map (·.1)

/-- The events of either set. -/
def union (a b : Mask) : Mask := ⟨a.bits ||| b.bits⟩

/-- All events of the second set are in the first, and there are some. -/
def contains (a b : Mask) : Bool := a.bits &&& b.bits == b.bits && b.bits != 0

/-- Some event is in both sets. -/
def intersects (a b : Mask) : Bool := a.bits &&& b.bits != 0

/-- No event. -/
def isEmpty (a : Mask) : Bool := a.bits == 0

/-- The names of the events, or `NONE`. -/
def text (a : Mask) : String :=
  if a.isEmpty then "NONE"
  else "|".intercalate ((names.filter fun n => a.contains n.1).map (·.2))

/-- A mask if the condition holds, else the empty one. -/
def when (condition : Bool) (m : Mask) : Mask := if condition then m else none

/-- The events that a poll reports: readable 1, urgent 2, writable 4, failed 8, hung up 16, invalid 32. A
connection that was hung up and can still be read is not closed yet. -/
def ofPoll (reported : UInt16) : Mask :=
  let has (bit : UInt16) : Bool := reported &&& bit != 0
  let parts :=
    [when (has 2) urgent, when (has 8 || has 32) error, when (has 16 && !has 1) close,
     when (has 1) read, when (has 4) write]
  parts.foldl union none

end Mask
end Switchboard.Readiness
