import Switchboard.Http.Fields
import Switchboard.Text.Numeral

/-!
How a message says where its body ends: by a declared length or by the chunked coding.
-/

namespace Switchboard.Http.Fields

/-- The declared length of the body: the first value of its field, blanks at the ends aside. -/
def contentLength (h : Fields) : Except Fault (Option Nat) :=
  match h.get? "Content-Length" with
  | none => .ok none
  | some value =>
    match Text.readUnsigned? Text.wordSize (Text.trimList Text.isBlank value.toList) with
    | some n => .ok (some n)
    | none => .error (.contentLength value)

/-- The body comes in the chunked coding. -/
def isChunked (h : Fields) : Bool := h.hasToken "Transfer-Encoding" "chunked"

end Switchboard.Http.Fields
