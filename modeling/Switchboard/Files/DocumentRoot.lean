import Switchboard.Files.Path
import Switchboard.Files.Storage

/-!
The document root: the folder below which requested paths are read. A path that ends with a slash asks for
the index file of its folder, and a path with a step upwards is refused, wherever it would lead.
-/

namespace Switchboard.Files

/-- The media type of a file whose path suggests none. -/
def defaultMediaType : String := "application/octet-stream"

/-- A folder of documents. -/
structure DocumentRoot where
  /-- The path of the folder. -/
  path : String
  storage : Storage

namespace DocumentRoot

/-- The name of the file that stands for its folder. -/
def indexName : String := "index.html"

/-- The names that a requested path goes through below the root. -/
def names (requested : String) : Except Fault (List String) :=
  let below := pathNames requested
  if below.contains ".." then .error .noAccess
  else if requested.isEmpty || requested.toList.getLast? == some '/' then .ok (below ++ [indexName])
  else .ok below

/-- The path of a requested path. -/
def resolve (d : DocumentRoot) (requested : String) : Except Fault String :=
  (names requested).map (·.foldl joinName d.path)

/-- Reads what was opened: its media type, with what was read of it. -/
def readOpened (d : DocumentRoot) (path : String) : Opened → Except Fault String × Bytes
  | .obscure detail => (.error (.io detail), [])
  | .folder => (.error .notFound, [])
  | .file content (some detail) => (.error (.io detail), content)
  | .file content none => (.ok ((d.storage.mediaType? path).getD defaultMediaType), content)

/-- Reads the file that a requested path asks for: its media type, with what was read of it. When reading fails, a part
may have been read before. -/
def read (d : DocumentRoot) (requested : String) : Except Fault String × Bytes :=
  match d.resolve requested with
  | .error f => (.error f, [])
  | .ok path =>
    match d.storage.opens path with
    | .error f => (.error f.fault, [])
    | .ok opened => d.readOpened path opened

end DocumentRoot
end Switchboard.Files
