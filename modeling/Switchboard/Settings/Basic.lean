import Switchboard.Http.Limits
import Switchboard.Route.Entry
import Switchboard.Settings.Address

/-!
Settings: what a server is configured with, and which settings it refuses to start with. Settings are checked
in a fixed order, and the first defect is reported.
-/

namespace Switchboard

/-- What the log shows. -/
structure Settings.Log where
  level : String := "info"
  ansi : Bool := false
  deriving DecidableEq, Repr

/-- The settings of a server. -/
structure Settings where
  listen : Settings.Address := .octets 0 0 0 0 8080
  backlog : Int := 1024
  /-- The number of processes. -/
  processes : Nat := 1
  /-- The number of workers in each process. -/
  workers : Nat := 4
  documentRoot : String := "./htdocs"
  serverName : String := "svcd"
  /-- The polls in vain that a read or a write tolerates. -/
  timeout : Nat := 50
  /-- The milliseconds between polls. -/
  pollInterval : Nat := 100
  /-- The seconds after which an idle connection is dropped. -/
  idleSeconds : Nat := 60
  /-- Libraries may be opened by name. -/
  plugins : Bool := false
  limits : Http.Limits := {}
  log : Settings.Log := {}
  routes : List Route.Spec := []
  deriving DecidableEq, Repr

namespace Settings

/-- Why settings are refused. -/
inductive Defect where
  | noProcess
  | noWorker
  | noTimeout
  /-- The limit of this name is zero. -/
  | zeroLimit (name : String)
  /-- The route with this pattern has no name. -/
  | unnamedRoute (pattern : String)
  /-- The pattern of the route with this name is none. -/
  | badPattern (name : String)
  deriving DecidableEq, Repr

/-- The wording of a defect; what a bad pattern lacks is not said. -/
def Defect.message : Defect → String
  | noProcess => "worker_processes must be at least 1"
  | noWorker => "worker_task_n must be at least 1"
  | noTimeout => "timeout must be at least 1 poll"
  | zeroLimit name => s!"limits.{name} must be nonzero"
  | unnamedRoute pattern => s!"route {Text.quoted pattern} has an empty name"
  | badPattern name => s!"route {Text.quoted name}:"

/-- The limits by name, in the order of their table. -/
def namedLimits (l : Http.Limits) : List (String × UInt64) :=
  [("max_url_size", l.maxUrl), ("max_header_size", l.maxHeader), ("max_body_size", l.maxBody),
   ("read_cache_size", l.readCache), ("write_cache_size", l.writeCache)]

/-- What is wrong with a route. -/
def routeDefect? (language : PatternLanguage) (r : Route.Spec) : Option Defect :=
  if r.name.isEmpty then some (.unnamedRoute r.pattern)
  else if (language r.pattern).isNone then some (.badPattern r.name)
  else none

/-- The first thing that is wrong with the settings. -/
def defect? (language : PatternLanguage) (s : Settings) : Option Defect :=
  if s.processes = 0 then some .noProcess
  else if s.workers = 0 then some .noWorker
  else if s.timeout = 0 then some .noTimeout
  else match (namedLimits s.limits).find? (·.2 == 0) with
    | some l => some (.zeroLimit l.1)
    | none => s.routes.findSome? (routeDefect? language)

end Settings
end Switchboard
