import Switchboard.Document.Value
import Switchboard.Settings.Basic

/-!
Settings from the values of a document. A key that is missing leaves its default, and keys that are not
known are passed over. A table with known keys may also be given as an array of their values in order.
-/

namespace Switchboard.Settings

open Document (Value Entries)

/-! ## Values -/

/-- A text. -/
def textOf : Value → Option String
  | .text s => some s
  | _ => none

/-- A truth value. -/
def boolOf : Value → Option Bool
  | .boolean b => some b
  | _ => none

/-- An integer within bounds, the upper one excluded. -/
def integerOf (least bound : Int) : Value → Option Int
  | .integer n => if least ≤ n ∧ n < bound then some n else none
  | _ => none

/-- A number below a bound. -/
def naturalOf (bound : Nat) (v : Value) : Option Nat := (integerOf 0 bound v).map Int.toNat

/-- A number of a machine word. -/
def wordOf : Value → Option Nat := naturalOf Text.wordSize

/-- An address. -/
def addressOf (v : Value) : Option Address := do Address.ofText? (← textOf v)

/-- The items of an array. -/
def itemsOf : Value → Option (List Value)
  | .array items => some items
  | .tables items => some (items.map (.table .headed))
  | _ => none

/-- The entries of a table whose keys are known in order. A point in time has none of them. -/
def entriesOf (keys : List String) : Value → Option Entries
  | .table _ es => some es
  | .moment _ => some []
  | v => (itemsOf v).map fun items => keys.zip items

/-- The value of a key, or its default. -/
def entryOr {α : Type} (es : Entries) (key : String) (dflt : α) (read : Value → Option α) : Option α :=
  match es.lookup key with
  | none => some dflt
  | some v => read v

/-! ## Tables -/

/-- The limits of a table. -/
def limitsOf (v : Value) : Option Http.Limits := do
  let dflt : Http.Limits := {}
  let es ← entriesOf ((namedLimits dflt).map (·.1)) v
  let word (key : String) (dflt : UInt64) : Option UInt64 :=
    entryOr es key dflt fun v => (wordOf v).map UInt64.ofNat
  return {
    maxUrl := ← word "max_url_size" dflt.maxUrl
    maxHeader := ← word "max_header_size" dflt.maxHeader
    maxBody := ← word "max_body_size" dflt.maxBody
    readCache := ← word "read_cache_size" dflt.readCache
    writeCache := ← word "write_cache_size" dflt.writeCache }

/-- The log settings of a table. -/
def logOf (v : Value) : Option Log := do
  let dflt : Log := {}
  let es ← entriesOf ["level", "ansi"] v
  return {
    level := ← entryOr es "level" dflt.level textOf
    ansi := ← entryOr es "ansi" dflt.ansi boolOf }

/-- The route of a table. -/
def routeOf (v : Value) : Option Route.Spec := do
  let es ← entriesOf ["pattern", "name", "kind", "library"] v
  return {
    pattern := ← textOf (← es.lookup "pattern")
    name := ← textOf (← es.lookup "name")
    kind := ← entryOr es "kind" .native fun v => (textOf v).map Route.Kind.ofText
    library := ← entryOr es "library" "" textOf }

/-- The routes of an array. -/
def routesOf (v : Value) : Option (List Route.Spec) := do (← itemsOf v).mapM routeOf

/-- The settings of a document. -/
def ofEntries (es : Entries) : Option Settings := do
  let dflt : Settings := {}
  return {
    listen := ← entryOr es "listen" dflt.listen addressOf
    backlog := ← entryOr es "backlog" dflt.backlog (integerOf Int32.minValue.toInt (Int32.maxValue.toInt + 1))
    processes := ← entryOr es "worker_processes" dflt.processes wordOf
    workers := ← entryOr es "worker_task_n" dflt.workers wordOf
    documentRoot := ← entryOr es "doc_root" dflt.documentRoot textOf
    serverName := ← entryOr es "server_name" dflt.serverName textOf
    timeout := ← entryOr es "timeout" dflt.timeout (naturalOf UInt32.size)
    pollInterval := ← entryOr es "poll_interval_ms" dflt.pollInterval wordOf
    idleSeconds := ← entryOr es "keepalive_idle_secs" dflt.idleSeconds wordOf
    plugins := ← entryOr es "plugins" dflt.plugins boolOf
    limits := ← entryOr es "limits" dflt.limits limitsOf
    log := ← entryOr es "log" dflt.log logOf
    routes := ← entryOr es "route" dflt.routes routesOf }

end Switchboard.Settings
