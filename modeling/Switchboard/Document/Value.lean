/-!
The values of a configuration document in the TOML format, and how its statements build up the tables. A
table remembers how it came to be, because that decides which later statements may still add to it: a table
that was written down as a whole is closed, one that has its own header takes no dotted key from outside,
and one that is only named on the way to another may still get a header of its own.
-/

namespace Switchboard.Document

/-- How a table came to be. -/
inductive Origin where
  /-- Written between braces. -/
  | inline
  /-- By a header of its own. -/
  | headed
  /-- Named on the way in another header. -/
  | implied
  /-- Named on the way in a dotted key. -/
  | dotted
  deriving DecidableEq, Repr

/-- A value of a document. Floats and points in time are kept as they are written. -/
inductive Value where
  | text (s : String)
  | integer (n : Int)
  | float (literal : String)
  | boolean (b : Bool)
  | moment (literal : String)
  | array (items : List Value)
  | table (origin : Origin) (entries : List (String × Value))
  /-- An array of tables, one for each header of it. -/
  | tables (items : List (List (String × Value)))

/-- The entries of a table. -/
abbrev Entries := List (String × Value)

/-- The entries with the value of a key replaced, or added at the end. -/
def put (key : String) (v : Value) : Entries → Entries
  | [] => [(key, v)]
  | e :: rest => if e.1 = key then (key, v) :: rest else e :: put key v rest

/-- Changes the table that a path leads to from a table of some origin. Tables missing on the way are made,
of the origin `making`; an array of tables leads to its last element. -/
def alter (making : Origin) (change : Origin → Entries → Option Entries) :
    List String → Origin → Entries → Option Entries
  | [], origin, es => change origin es
  | key :: rest, _, es =>
    match es.lookup key with
    | none => (alter making change rest making []).map fun inner => put key (.table making inner) es
    | some (.table origin inner) =>
      if origin = .inline ∨ (making = .dotted ∧ origin = .headed) then none
      else (alter making change rest origin inner).map fun inner => put key (.table origin inner) es
    | some (.tables items) =>
      match items.getLast? with
      | none => none
      | some last =>
        (alter making change rest .headed last).map fun last =>
          put key (.tables (items.dropLast ++ [last])) es
    | some _ => none

/-- Adds a key that is not there yet. -/
def addNew (key : String) (v : Value) (es : Entries) : Option Entries :=
  if (es.lookup key).isSome then none else some (put key v es)

/-- A key with the keys that lead to it, and its value. -/
structure Pair where
  path : List String
  key : String
  value : Value

/-- Adds a pair to a table. A dotted key adds only to tables that dotted keys have made. -/
def assign (es : Entries) (p : Pair) : Option Entries :=
  alter .dotted (fun origin inner =>
    if p.path.isEmpty ∨ origin = .dotted then addNew p.key p.value inner else none)
    p.path .headed es

/-- Adds pairs to a table. -/
def assignAll (es : Entries) (ps : List Pair) : Option Entries := ps.foldlM assign es

/-- A header. -/
inductive Header where
  /-- Opens a table. -/
  | table (path : List String) (key : String)
  /-- Opens one more element of an array of tables. -/
  | element (path : List String) (key : String)

/-- A header with the pairs below it. -/
structure Section where
  header : Header
  pairs : List Pair

/-- Adds a section to the entries of the document. A table gets one header; only tables that other headers
have named may be there before it. -/
def addSection (root : Entries) (s : Section) : Option Entries :=
  match s.header with
  | .table path key =>
    alter .implied (fun _ es => do
      let old ← match es.lookup key with
        | none => some []
        | some (.table .implied inner) => some inner
        | some _ => none
      return put key (.table .headed (← assignAll old s.pairs)) es) path .headed root
  | .element path key =>
    alter .implied (fun _ es => do
      let items ← match es.lookup key with
        | none => some []
        | some (.tables items) => some items
        | some _ => none
      return put key (.tables (items ++ [← assignAll [] s.pairs])) es) path .headed root

/-- A statement of a document. -/
inductive Statement where
  | pair (p : Pair)
  | header (h : Header)

/-- The pairs before the first header, and the sections. -/
def sectionsOf : List Statement → List Pair × List Section
  | [] => ([], [])
  | .pair p :: rest =>
    let (ps, ss) := sectionsOf rest
    (p :: ps, ss)
  | .header h :: rest =>
    let (ps, ss) := sectionsOf rest
    ([], ⟨h, ps⟩ :: ss)

/-- The entries of a document, if its statements agree with each other. -/
def build (statements : List Statement) : Option Entries := do
  let (ps, ss) := sectionsOf statements
  ss.foldlM addSection (← assignAll [] ps)

end Switchboard.Document
