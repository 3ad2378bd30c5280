import Switchboard.Route.Service

/-!
Canned services: services given as data, which set parts of the response in a fixed order and return a fixed
code.
-/

namespace Switchboard.Route

open Exchange (Slot)
open Http

/-- An edit of header fields. -/
inductive FieldEdit where
  | insert (name value : String)
  | set (name value : String)
  | remove (name : String)
  | clear
  /-- Inserts a field line, if it is one. -/
  | insertLine (line : String)
  deriving DecidableEq, Repr

/-- The fields after an edit. -/
def FieldEdit.apply (h : Fields) : FieldEdit → Fields
  | .insert name value => h.insert name value
  | .set name value => h.set name value
  | .remove name => h.remove name
  | .clear => .empty
  | .insertLine line =>
    match Field.ofLine line with
    | .ok f => h.insert f.name f.value
    | .error _ => h

/-- A body that is made from the request and the routes. -/
inductive Recipe where
  /-- The body of the request. -/
  | echo
  /-- The number of routes. -/
  | count
  /-- Method, path, query, number of fields and length of the body of the request. -/
  | summary
  /-- Whether the response was empty at the start. -/
  | fresh
  /-- The address of the other side. -/
  | peer
  /-- The names of the routes. -/
  | routes
  deriving DecidableEq, Repr

/-- A canned service. -/
structure Canned where
  /-- Sets the status that the query names. -/
  statusQuery : Bool := false
  status : Option Nat := none
  reason : Option String := none
  edits : List FieldEdit := []
  body : Option Bytes := none
  recipe : Option Recipe := none
  code : Int := 0
  deriving Repr

/-- The body of a recipe; `wasFresh` says that the response was empty at the start. -/
def Recipe.make (t : Table) (slot : Slot) (wasFresh : Bool) : Recipe → Bytes
  | .echo => slot.request.body
  | .count => Text.utf8 (Text.decimal t.size)
  | .summary =>
    let r := slot.request
    let query := "&".intercalate (r.query.map fun p => p.1 ++ "=" ++ p.2)
    Text.utf8 ("|".intercalate
      [r.method.name, r.path, query, Text.decimal r.fields.size, Text.decimal r.body.length])
  | .fresh => Text.utf8 s!"fresh={wasFresh}"
  | .peer => Text.utf8 (slot.peer.getD "none")
  | .routes => Text.utf8 (",".intercalate (t.entries.map (·.name)))

/-- The status that the query names under `code`, or zero. -/
def queriedStatus (r : Request) : Status :=
  ⟨((r.queryParam? "code").bind fun v => Text.readUnsigned? 65536 v.toList).getD 0⟩

/-- The service that a canned service stands for. -/
def Canned.service (c : Canned) : Service := fun t slot =>
  let r := slot.response
  let wasFresh := r.body.isEmpty && r.fields.isEmpty
  let r := if c.statusQuery then r.setStatus (queriedStatus slot.request) else r
  let r := match c.status with
    | some code => r.setStatus ⟨code⟩
    | none => r
  let r := match c.reason with
    | some reason => r.setReason reason
    | none => r
  let r := { r with fields := c.edits.foldl FieldEdit.apply r.fields }
  let r := match c.body with
    | some body => { r with body }
    | none => r
  let r := match c.recipe with
    | some recipe => { r with body := recipe.make t slot wasFresh }
    | none => r
  ({ slot with response := r }, c.code)

end Switchboard.Route
