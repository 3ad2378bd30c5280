import Switchboard.Http.Fault

/-!
Storages: what the system that keeps the files gives for a path. A path may be missing, closed to the program or not to
be opened at all; what was opened may be a folder, or a file whose reading fails after a part of it. Nothing is assumed
of a storage. Which media types there are is its matter as well: it guesses the type of a file from its path.
-/

namespace Switchboard.Files

/-- Why a path cannot be opened. -/
inductive OpenFault where
  /-- Nothing is there. -/
  | missing
  /-- The program may not open what is there. -/
  | denied
  /-- The path is no path, as one with a NUL in it. -/
  | invalid
  | other (detail : String)
  deriving DecidableEq, Repr

/-- What a path leads to, once it is open. -/
inductive Opened where
  /-- It cannot be told what was opened. -/
  | obscure (detail : String)
  | folder
  /-- A file: what reading it gives, and the failure that reading ends with, unless it goes to the end of the file. -/
  | file (content : Bytes) (failure : Option String)
  deriving DecidableEq, Repr

/-- A storage. -/
structure Storage where
  opens : String → Except OpenFault Opened
  /-- The media type that a path suggests. -/
  mediaType? : String → Option String := fun _ => none

/-- Why a file could not be read. -/
inductive Fault where
  /-- Nothing is there, or nothing that could be read. -/
  | notFound
  /-- The path leads upwards, or to what may not be opened. -/
  | noAccess
  | io (detail : String)
  deriving DecidableEq, Repr

namespace Fault

/-- The name of a kind of fault. -/
def label : Fault → String
  | notFound => "NotFound"
  | noAccess => "NoAccess"
  | io _ => "Io"

/-- The category of a fault. -/
def category : Fault → Category
  | notFound => .notFound
  | noAccess => .noAccess
  | io _ => .internal

/-- The wording of a fault. -/
def message : Fault → String
  | notFound => "Not found"
  | noAccess => "Access denied"
  | io detail => s!"I/O error: {detail}"

end Fault

/-- The fault that a path which cannot be opened is reported as. -/
def OpenFault.fault : OpenFault → Fault
  | missing | invalid => .notFound
  | denied => .noAccess
  | other detail => .io detail

end Switchboard.Files
