import Switchboard.Files.DocumentRoot
import Switchboard.Route.Service
import Switchboard.Settings.Load

/-!
The site: what all connections of a server have in common. A site is opened from settings that are fit and
from routes that agree with each other.
-/

namespace Switchboard.Server

/-- A site. -/
structure Site where
  settings : Settings
  registry : Route.Registry
  documents : Files.DocumentRoot
  /-- The date that answers carry. -/
  date : String

/-- Why a site could not be opened. -/
inductive OpenFault where
  | settings (f : Settings.Fault)
  | route (r : Route.Refusal)
  deriving DecidableEq, Repr

namespace OpenFault

/-- The layer that a fault comes from. -/
def layer : OpenFault → String
  | settings _ => "Config"
  | route _ => "Route"

end OpenFault

namespace Site

/-- Opens a site: checks the settings, then compiles the routes. -/
def start (language : PatternLanguage) (s : Settings) (libraries : Route.Libraries)
    (documents : Files.Storage) (date : String) : Except OpenFault Site :=
  match s.validate language with
  | .error f => .error (.settings f)
  | .ok _ =>
    match Route.Table.ofSpecs language s.routes with
    | .error r => .error (.route r)
    | .ok table =>
      let libraries := { libraries with plugins := libraries.plugins || s.plugins }
      .ok {
        settings := s
        registry := ⟨table, libraries⟩
        documents := ⟨s.documentRoot, documents⟩
        date }

/-- The site with another route table. -/
def withTable (site : Site) (table : Route.Table) : Site :=
  { site with registry := { site.registry with table } }

end Site
end Switchboard.Server
