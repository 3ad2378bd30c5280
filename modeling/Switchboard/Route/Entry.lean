import Switchboard.Http.Fault
import Switchboard.Text.Ascii
import Switchboard.Text.Blank

/-!
Routes: a pattern with a name, the kind of its handler, and the library of the handler. A route that has been
compiled also holds the test of the paths in which its pattern is found.
-/

namespace Switchboard

/-- A language of patterns: the patterns among the texts, each with the test of the texts in which it is
found. -/
abbrev PatternLanguage := String → Option (String → Bool)

namespace Route

/-- How the handler of a route is made. -/
inductive Kind where
  /-- A function of a service library. -/
  | native
  /-- A script, which is known but not run. -/
  | scripted
  | unknown
  deriving DecidableEq, Repr

namespace Kind

/-- The kind with this name, blanks at the ends and the case of ASCII letters aside. -/
def ofText (s : String) : Kind :=
  let name := (Text.trimList Text.isBlank s.toList).map Char.toLower
  if name = "native".toList then .native
  else if name = "scripted".toList then .scripted
  else .unknown

/-- The name of a kind. -/
def name : Kind → String
  | native => "native"
  | scripted => "scripted"
  | unknown => "unknown"

/-- The label of a kind in dumps. -/
def label : Kind → String
  | native => "Native"
  | scripted => "UnsupportedScripted"
  | unknown => "Unknown"

end Kind

/-- A route as it is configured. -/
structure Spec where
  pattern : String
  name : String
  kind : Kind := .native
  library : String := ""
  deriving DecidableEq, Repr

/-- A compiled route. -/
structure Entry where
  spec : Spec
  /-- The paths in which the pattern is found. -/
  accepts : String → Bool

namespace Entry

/-- The pattern of a route. -/
def pattern (e : Entry) : String := e.spec.pattern

/-- The name of a route. -/
def name (e : Entry) : String := e.spec.name

/-- The bytes of the pattern, by which routes are ordered. -/
def weight (e : Entry) : Nat := Text.byteLength e.pattern

/-- Two routes are the same when name and pattern agree. -/
def sameRoute (a b : Entry) : Bool := a.name == b.name && a.pattern == b.pattern

/-- Compiles a route, if its pattern is one. -/
def compile (language : PatternLanguage) (spec : Spec) : Option Entry :=
  (language spec.pattern).map fun accepts => ⟨spec, accepts⟩

end Entry

/-- Why the table was not changed. -/
inductive Refusal where
  /-- The pattern is none. -/
  | badPattern
  /-- A route with this name and pattern is there already. -/
  | existed (name pattern : String)
  deriving DecidableEq, Repr

/-- The category of a refusal. -/
def Refusal.category : Refusal → Category
  | badPattern => .clientData
  | existed .. => .existed

/-- The wording of a refusal; what a bad pattern lacks is not said. -/
def Refusal.message : Refusal → String
  | badPattern => "Invalid route pattern:"
  | existed name pattern =>
    s!"Route {Text.quoted name} with pattern {Text.quoted pattern} already exists"

end Route
end Switchboard
