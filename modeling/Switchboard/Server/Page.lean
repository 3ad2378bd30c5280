import Switchboard.Http.Status
import Switchboard.Text.Bytes

/-!
Error pages: the body of an answer that failed and has none of its own.
-/

namespace Switchboard.Server

/-- The page that tells a status and no more. -/
def errorPage (s : Http.Status) : Bytes :=
  let line := s.text
  Text.utf8 s!"<html><head><title>{line}</title></head><body><h1>{line}</h1></body></html>\r\n"

end Switchboard.Server
