import Switchboard.Settings.Load

/-!
The command line: an option for the settings file and a flag to check the settings only, each given once at
most, and no other arguments. Arguments are read from left to right, and the first that is wrong, or that
asks for help, decides.
-/

namespace Switchboard.CommandLine

/-- An argument by itself. -/
inductive Argument where
  | help
  | check
  /-- The option for the settings file, with its value if that is attached. -/
  | settings (value : Option String)
  | unknown
  deriving DecidableEq, Repr

/-- The argument that a text is. -/
def Argument.ofText (s : String) : Argument :=
  match s.toList with
  | '-' :: '-' :: cs =>
    if cs = "check".toList then .check
    else if cs = "help".toList then .help
    else if cs = "config".toList then .settings none
    else if "config=".toList.isPrefixOf cs then .settings (some (String.ofList (cs.drop 7)))
    else .unknown
  | ['-', 'c'] => .settings none
  | '-' :: 'c' :: '=' :: value => .settings (some (String.ofList value))
  | '-' :: 'c' :: value => .settings (some (String.ofList value))
  | '-' :: 'h' :: _ => .help
  | _ => .unknown

/-- A text that cannot be the value of an option, because it is an option itself. -/
def looksLikeOption (s : String) : Bool :=
  match s.toList with
  | '-' :: _ :: _ => true
  | _ => false

/-- What the arguments ask for. -/
structure Choice where
  /-- The path of the settings file. -/
  path : Option String := none
  check : Bool := false
  deriving DecidableEq, Repr

/-- The choice with a settings file, unless it has one or the path is empty. -/
def Choice.withPath (c : Choice) (path : String) : Option Choice :=
  if c.path.isSome || path.isEmpty then none else some { c with path := some path }

/-- What is to be done. -/
inductive Request where
  | help
  | run (c : Choice)
  deriving DecidableEq, Repr

/-- Reads the arguments after those that have been chosen from. -/
def readFrom (c : Choice) : List String → Option Request
  | [] => some (.run c)
  | arg :: rest =>
    match Argument.ofText arg with
    | .help => some .help
    | .check => if c.check then none else readFrom { c with check := true } rest
    | .settings (some value) =>
      match c.withPath value with
      | some c => readFrom c rest
      | none => none
    | .settings none =>
      match rest with
      | [] => none
      | value :: rest =>
        if looksLikeOption value then none
        else match c.withPath value with
          | some c => readFrom c rest
          | none => none
    | .unknown => none

/-- What the arguments ask for, if they are fit. -/
def read (args : List String) : Option Request := readFrom {} args

/-- What came of the command. -/
inductive Outcome where
  /-- The arguments are not fit. -/
  | usage
  | help
  /-- The settings are fit. -/
  | checked (s : Settings)
  /-- The settings are fit, and the server is to start with them. -/
  | start (s : Settings)
  | failed (f : Settings.Fault)

/-- Carries out the command; `content` gives what is in a file. -/
def carryOut (language : PatternLanguage) (content : String → Except Settings.Unreadable Bytes)
    (args : List String) : Outcome :=
  match read args with
  | none => .usage
  | some .help => .help
  | some (.run c) =>
    let settings := match c.path with
      | some path => Settings.ofContent language (content path)
      | none => Settings.ofText language ""
    match settings with
    | .error f => .failed f
    | .ok s => if c.check then .checked s else .start s

/-- The help text. -/
def helpText : String :=
  String.intercalate "\n"
    ["HTTP/1.x service router and static file server",
     "",
     "Usage: svcd [OPTIONS]",
     "",
     "Options:",
     "  -c, --config <CONFIG>  Configuration file (TOML)",
     "      --check            Validate the configuration and exit",
     "  -h, --help             Print help",
     ""]

namespace Outcome

/-- The exit code of the command. -/
def exitCode : Outcome → Nat
  | help | checked _ => 0
  | start _ | failed _ => 1
  | usage => 2

/-- What goes to the standard output. -/
def output : Outcome → String
  | help => helpText
  | checked s => s!"configuration ok: {Text.decimal s.routes.length} route(s)\n"
  | start _ | failed _ | usage => ""

/-- What goes to the error output. Connections are served by the library, not by this command. -/
def errorOutput : Outcome → String
  | help | checked _ => ""
  | start s => s!"svcd: nothing listens on {s.listen.text} here\n"
  | failed f => s!"svcd: {f.message}\n"
  | usage => "error: unexpected arguments\n\nUsage: svcd [OPTIONS]\n"

end Outcome
end Switchboard.CommandLine
