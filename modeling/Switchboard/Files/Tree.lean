import Switchboard.Files.Path
import Switchboard.Files.Storage

/-!
File trees: a storage in memory, of named files and folders. The names of a path are looked up one after another, and
the first that does not lead on decides what is wrong with the path.
-/

namespace Switchboard.Files

/-- A file or a folder. -/
inductive Tree where
  /-- A file with its content, and the failure that reading ends with after it, if there is one. -/
  | file (content : Bytes) (failure : Option String := none)
  | folder (items : List (String × Tree))
  /-- What may be neither opened nor gone through. -/
  | sealed

namespace Tree

/-- The longest name of a file or folder, in bytes. -/
def maxName : Nat := 255

/-- The longest path, in bytes. -/
def maxPath : Nat := 4095

/-- A path that goes on below a file. -/
def notFolder : OpenFault := .other "Not a directory (os error 20)"

/-- A path or a name that is too long. -/
def nameTooLong : OpenFault := .other "File name too long (os error 36)"

/-- What the names of a path lead to. -/
def walk : List String → Tree → Except OpenFault Tree
  | [], t => .ok t
  | _ :: _, .file .. => .error notFolder
  | _ :: _, .sealed => .error .denied
  | name :: rest, .folder items =>
    if Text.byteLength name > maxName then .error nameTooLong
    else match items.lookup name with
      | none => .error .missing
      | some t => walk rest t

/-- What a path leads to, once it is open. A NUL cannot be part of a path. -/
def opens (t : Tree) (path : String) : Except OpenFault Opened :=
  if path.toList.contains '\x00' then .error .invalid
  else if Text.byteLength path > maxPath then .error nameTooLong
  else
    match t.walk (pathNames path) with
    | .error f => .error f
    | .ok (.file content failure) => .ok (.file content failure)
    | .ok (.folder _) => .ok .folder
    | .ok .sealed => .error .denied

/-- The items with one of a name put in the place of the one there, or at the end. -/
def putItem (name : String) (t : Tree) : List (String × Tree) → List (String × Tree)
  | [] => [(name, t)]
  | item :: rest =>
    if item.1 = name then (name, t) :: rest else item :: putItem name t rest

/-- The tree with an item where a path leads to; the folders on the way are made, and a file on the way
makes room for one. -/
def place : Tree → List String → Tree → Tree
  | _, [], t => t
  | tree, name :: rest, t =>
    let items := match tree with
      | .folder items => items
      | _ => []
    .folder (putItem name (place ((items.lookup name).getD (.folder [])) rest t) items)

/-- The storage that a tree is, with the media types that are known. -/
def storage (t : Tree) (mediaType? : String → Option String := fun _ => none) : Storage where
  opens := t.opens
  mediaType? := mediaType?

end Tree

/-- The folder without items. -/
def emptyFolder : Tree := .folder []

end Switchboard.Files
