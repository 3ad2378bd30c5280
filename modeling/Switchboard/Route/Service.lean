import Switchboard.Exchange.Slot
import Switchboard.Route.Table

/-!
Services: functions in libraries. A request path is served by the route found in it, and by the function
named after its last slash in the library of that route. Libraries are known from the start, or opened by
name where plugins are allowed.
-/

namespace Switchboard.Route

open Exchange (Slot)

/-- A service: it sees the route table, works on the slot, and returns a code, zero for success. -/
abbrev Service := Table → Slot → Slot × Int

/-- A library: its functions by name. -/
abbrev Library := List (String × Service)

/-- The libraries that services come from. -/
structure Libraries where
  /-- The libraries known from the start. -/
  known : List (String × Library) := []
  /-- Other libraries may be opened by name. -/
  plugins : Bool := false
  /-- What opening a library by name gives. -/
  loader : String → Option (String → Option Service) := fun _ => none

/-- What came of serving a path. -/
inductive Outcome where
  | ok
  /-- No route, or no function of this name. -/
  | notFound
  /-- The route is not native. -/
  | unsupported
  /-- The function returned this code. -/
  | serviceError (code : Int)
  /-- The library of the route cannot be had. -/
  | noSuchLibrary
  deriving DecidableEq, Repr

namespace Outcome

/-- The outcome that a returned code means. -/
def ofCode (code : Int) : Outcome := if code = 0 then .ok else .serviceError code

/-- The label of an outcome. -/
def label : Outcome → String
  | ok => "Ok"
  | notFound => "NotFound"
  | unsupported => "Unsupported"
  | serviceError _ => "ServiceError"
  | noSuchLibrary => "NoSuchLibrary"

/-- The category of a failure. -/
def category? : Outcome → Option Category
  | ok => none
  | notFound => some .notFound
  | unsupported => some .unsupported
  | serviceError _ => some .serviceError
  | noSuchLibrary => some .noSuchLibrary

end Outcome

namespace Libraries

/-- A library of this name is known from the start. -/
def contains (ls : Libraries) (library : String) : Bool := (ls.known.lookup library).isSome

/-- Opens a library by name; a name with a NUL is no file name. -/
def openPlugin (ls : Libraries) (library : String) : Option (String → Option Service) :=
  if library.toList.contains '\x00' then none else ls.loader library

/-- The function of this name in the library, or why there is none. -/
def resolve (ls : Libraries) (library symbol : String) : Except Outcome Service :=
  match ls.known.lookup library with
  | some functions =>
    match functions.lookup symbol with
    | some f => .ok f
    | none => .error .notFound
  | none =>
    if !ls.plugins then .error .noSuchLibrary
    else
      match ls.openPlugin library with
      | none => .error .noSuchLibrary
      | some functions =>
        match if symbol.toList.contains '\x00' then none else functions symbol with
        | some f => .ok f
        | none => .error .notFound

end Libraries

/-- The part of a path after its last slash. -/
def symbolOf (path : String) : String :=
  String.ofList (path.toList.reverse.takeWhile (· != '/')).reverse

/-- The route table with the libraries behind it. -/
structure Registry where
  table : Table := .empty
  libraries : Libraries := {}

namespace Registry

/-- The function that serves a path, or why none does. -/
def resolve (r : Registry) (path : String) : Except Outcome Service :=
  match r.table.dispatch path with
  | none => .error .notFound
  | some e =>
    if e.spec.kind ≠ .native then .error .unsupported
    else
      let symbol := symbolOf path
      if symbol.isEmpty then .error .notFound else r.libraries.resolve e.spec.library symbol

/-- Serves a path: runs its function on the slot, if there is one. -/
def invoke (r : Registry) (path : String) (slot : Slot) : Outcome × Slot :=
  match r.resolve path with
  | .error o => (o, slot)
  | .ok f =>
    let (slot, code) := f r.table slot
    (.ofCode code, slot)

end Registry

/-! ## Dumps -/

/-- The items of a dump between a pair of brackets. -/
def bracketed (opening closing : Char) (items : List String) : String :=
  String.ofList [opening] ++ ", ".intercalate items ++ String.ofList [closing]

/-- A dump of a named record. -/
def record (name : String) (fields : List (String × String)) : String :=
  name ++ " " ++ bracketed '\x7b' '\x7d'
    [" " ++ ", ".intercalate (fields.map fun f => f.1 ++ ": " ++ f.2) ++ " "]

/-- A dump of a route. -/
def Entry.dump (e : Entry) : String :=
  record "RouteEntry"
    [("pattern", Text.quoted e.pattern), ("name", Text.quoted e.name), ("kind", e.spec.kind.label),
     ("library", Text.quoted e.spec.library)]

/-- A dump of the libraries: the names of the known ones in order, and whether plugins are allowed. -/
def Libraries.dump (ls : Libraries) : String :=
  let names := (ls.known.map (·.1)).mergeSort fun a b => decide (a ≤ b)
  record "ServiceLibraries"
    [("libraries", bracketed '[' ']' (names.map Text.quoted)), ("plugins", toString ls.plugins)]

/-- A dump of the registry. -/
def Registry.dump (r : Registry) : String :=
  record "RouteRegistry"
    [("routes", bracketed '[' ']' (r.table.entries.map Entry.dump)),
     ("services", r.libraries.dump)]

end Switchboard.Route
