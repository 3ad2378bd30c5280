import Switchboard.Document.Reader
import Switchboard.Files.Tree
import Switchboard.Settings.Decode
import Switchboard.Text.Lossy

/-!
Loading settings: from text, and from a file that may be missing or hold no text.
-/

namespace Switchboard.Settings

/-- Why a file could not be read as text. -/
inductive Unreadable where
  | missing
  | denied
  | folder
  /-- The path goes on below a file. -/
  | notFolder
  | nameTooLong
  | notText
  deriving DecidableEq, Repr

/-- The wording of a failure to read a file. -/
def Unreadable.message : Unreadable → String
  | missing => "No such file or directory (os error 2)"
  | denied => "Permission denied (os error 13)"
  | folder => "Is a directory (os error 21)"
  | notFolder => "Not a directory (os error 20)"
  | nameTooLong => "File name too long (os error 36)"
  | notText => "stream did not contain valid UTF-8"

/-- Why settings could not be loaded. -/
inductive Fault where
  | unreadable (u : Unreadable)
  /-- The text is no document, or its values are not those of settings. -/
  | malformed
  | invalid (d : Defect)
  deriving DecidableEq, Repr

namespace Fault

/-- The name of a kind of fault. -/
def label : Fault → String
  | unreadable _ => "Io"
  | malformed => "Parse"
  | invalid _ => "Invalid"

/-- The wording of a fault; what is wrong with a malformed text is not said. -/
def message : Fault → String
  | unreadable u => s!"I/O error: {u.message}"
  | malformed => "Parse error:"
  | invalid d => s!"Invalid configuration: {d.message}"

end Fault

/-- Settings that are fit to start with. -/
def validate (language : PatternLanguage) (s : Settings) : Except Fault Settings :=
  match s.defect? language with
  | some d => .error (.invalid d)
  | none => .ok s

/-- The settings of a text. -/
def ofText (language : PatternLanguage) (source : String) : Except Fault Settings :=
  match (Document.read? source).bind ofEntries with
  | none => .error .malformed
  | some s => s.validate language

/-- The settings of a file with this content. -/
def ofContent (language : PatternLanguage) (content : Except Unreadable Bytes) :
    Except Fault Settings :=
  match content with
  | .error u => .error (.unreadable u)
  | .ok bytes =>
    match Text.strict? bytes with
    | none => .error (.unreadable .notText)
    | some source => ofText language source

/-- The path names a folder: it ends with a slash or with a dot of its own. -/
def endsAsFolder (path : String) : Bool :=
  match (Text.splitAll '/' path.toList).getLast? with
  | some [] | some ['.'] => true
  | _ => false

/-- The content of a file below a folder. -/
def contentBelow (folder : Files.Tree) (path : String) : Except Unreadable Bytes :=
  match folder.walk (Files.pathNames path) with
  | .ok (.file content _) => if endsAsFolder path then .error .notFolder else .ok content
  | .ok (.folder _) => .error .folder
  | .ok .sealed => .error .denied
  | .error f =>
    if f = Files.Tree.notFolder then .error .notFolder
    else if f = Files.Tree.nameTooLong then .error .nameTooLong
    else if f = .denied then .error .denied
    else .error .missing

end Switchboard.Settings
