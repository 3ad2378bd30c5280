/-!
Bytes and the UTF-8 form of text. A byte string is a list, so that every reader below recurses on it.
-/

namespace Switchboard

/-- A string of bytes. -/
abbrev Bytes := List UInt8

namespace Text

/-- The UTF-8 bytes of a text. -/
def utf8 (s : String) : Bytes := s.toList.flatMap String.utf8EncodeChar

/-- The number of bytes of a text in UTF-8. -/
def byteLength (s : String) : Nat := s.utf8ByteSize

/-- Carriage return. -/
abbrev cr : UInt8 := 13

/-- Line feed. -/
abbrev lf : UInt8 := 10

/-- The line end of the wire format. -/
def crlf : Bytes := [cr, lf]

/-- Space. -/
abbrev space : UInt8 := 32

@[simp] theorem utf8_empty : utf8 "" = [] := rfl

end Text
end Switchboard
