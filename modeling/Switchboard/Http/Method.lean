import Switchboard.Http.Fault

/-!
Methods and protocol versions, each with its one spelling.
-/

namespace Switchboard.Http

/-- A request method. -/
inductive Method where
  | get
  | head
  | post
  | put
  | delete
  | connect
  | options
  | trace
  | patch
  deriving DecidableEq, Repr

namespace Method

/-- The spelling of a method. -/
def name : Method → String
  | get => "GET"
  | head => "HEAD"
  | post => "POST"
  | put => "PUT"
  | delete => "DELETE"
  | connect => "CONNECT"
  | options => "OPTIONS"
  | trace => "TRACE"
  | patch => "PATCH"

/-- All methods. -/
def all : List Method := [get, head, post, put, delete, connect, options, trace, patch]

theorem mem_all (m : Method) : m ∈ all := by cases m <;> decide

/-- The method with this spelling. -/
def ofName (s : String) : Except Fault Method :=
  match all.find? (·.name == s) with
  | some m => .ok m
  | none => .error (.method s)

/-- A method that a service may be asked with. -/
def isDispatchable : Method → Bool
  | get | head | post | put | patch | delete => true
  | connect | options | trace => false

end Method

/-- A protocol version. -/
inductive Version where
  | http10
  | http11
  deriving DecidableEq, Repr

namespace Version

/-- The spelling of a version. -/
def name : Version → String
  | http10 => "HTTP/1.0"
  | http11 => "HTTP/1.1"

/-- The version with this spelling. -/
def ofName (s : String) : Except Fault Version :=
  if s = "HTTP/1.0" then .ok .http10
  else if s = "HTTP/1.1" then .ok .http11
  else .error (.version s)

end Version
end Switchboard.Http
