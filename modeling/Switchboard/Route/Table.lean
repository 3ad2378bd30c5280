import Switchboard.Route.Entry

/-!
The route table: longer patterns before shorter ones, routes of one length in order of insertion. The first
route whose pattern is found in a path serves it. Every change yields a new table or a refusal.
-/

namespace Switchboard.Route

/-- A route table. -/
structure Table where
  entries : List Entry

namespace Table

/-- No route. -/
def empty : Table := ⟨[]⟩

/-- The number of routes. -/
def size (t : Table) : Nat := t.entries.length

/-- Puts a route before the first route of a list that has a shorter pattern. -/
def place (e : Entry) : List Entry → List Entry
  | [] => [e]
  | f :: rest => if f.weight < e.weight then e :: f :: rest else f :: place e rest

/-- Inserts a compiled route, unless it is there already. -/
def insert (t : Table) (e : Entry) : Except Refusal Table :=
  if t.entries.any (·.sameRoute e) then .error (.existed e.name e.pattern)
  else .ok ⟨place e t.entries⟩

/-- Compiles a route and inserts it. -/
def add (language : PatternLanguage) (t : Table) (spec : Spec) : Except Refusal Table :=
  match Entry.compile language spec with
  | none => .error .badPattern
  | some e => t.insert e

/-- The table without the routes of a name. -/
def erase (t : Table) (name : String) : Table := ⟨t.entries.filter (·.name != name)⟩

/-- The number of routes of a name. -/
def count (t : Table) (name : String) : Nat := t.entries.countP (·.name == name)

/-- Replaces all routes of a name by one compiled route. -/
def update (t : Table) (name : String) (e : Entry) : Except Refusal Table :=
  (t.erase name).insert e

/-- Compiles a route and replaces all routes of a name by it. -/
def updateSpec (language : PatternLanguage) (t : Table) (name : String) (spec : Spec) :
    Except Refusal Table :=
  match Entry.compile language spec with
  | none => .error .badPattern
  | some e => t.update name e

/-- The table of some routes, inserted in order. -/
def ofSpecs (language : PatternLanguage) (specs : List Spec) : Except Refusal Table :=
  specs.foldlM (Table.add language) empty

/-- The route that serves a path. -/
def dispatch (t : Table) (path : String) : Option Entry := t.entries.find? (·.accepts path)

@[simp] theorem entries_empty : empty.entries = [] := rfl

@[simp] theorem entries_erase (t : Table) (name : String) :
    (t.erase name).entries = t.entries.filter (·.name != name) := rfl

end Table
end Switchboard.Route
