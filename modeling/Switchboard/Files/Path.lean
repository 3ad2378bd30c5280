import Switchboard.Text.Parts

/-!
Path text: names between slashes. Repeated slashes count as one, and a dot between slashes stands for
nothing.
-/

namespace Switchboard.Files

/-- The parts of a path between its slashes, empty ones and dots left out. -/
def pathNames (path : String) : List String :=
  ((Text.splitAll '/' path.toList).map String.ofList).filter fun name => name != "" && name != "."

/-- A path extended by a name; a slash goes between them unless the path is empty or ends with one. -/
def joinName (path name : String) : String :=
  if path.isEmpty || path.toList.getLast? == some '/' then path ++ name else path ++ "/" ++ name

end Switchboard.Files
