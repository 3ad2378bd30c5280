import Mathlib.Algebra.Ring.Nat
import Switchboard.Http.Fields
import Switchboard.Text.Lossy

/-!
The grammar of a chunked body, said apart from any reader or writer:

  body     = *chunk last-chunk *trailer CRLF
  chunk    = size extension CRLF octets CRLF      (as many octets as the size denotes, one at least)
  last     = size extension CRLF                  (the size denotes zero)
  trailer  = name ":" value CRLF

`Framed` holds the parts of a body, `Framed.wire` is the body they make up, and `Framed.Follows` says that the
parts are what they should be. What an extension may be is left open there: `Extension` is the grammar of
extensions, `LooseExtension` asks only for how one begins.
-/

namespace Switchboard.Http.Chunk

/-- The number that hexadecimal digits denote, read on from `acc`. -/
def readHex? : Nat → Bytes → Option Nat
  | acc, [] => some acc
  | acc, b :: rest =>
    match Text.hexValue? b with
    | some digit => readHex? (acc * 16 + digit) rest
    | none => none

/-- One hexadecimal digit or more, and the number that they denote. -/
def IsSize (digits : Bytes) (n : Nat) : Prop := digits ≠ [] ∧ readHex? 0 digits = some n

/-- A byte of running text: a tab, a space, a visible character of ASCII, or a byte above ASCII. -/
def IsTextByte (b : UInt8) : Prop := b = 9 ∨ (0x20 ≤ b ∧ b ≤ 0x7E) ∨ 0x80 ≤ b

/-- A byte that a quoted string holds as it is. -/
def IsQuotable (b : UInt8) : Prop := IsTextByte b ∧ b ≠ 34 ∧ b ≠ 92

/-- A token. -/
def IsToken (name : Bytes) : Prop := name ≠ [] ∧ ∀ b ∈ name, Text.isTokenByte b = true

instance (digits : Bytes) (n : Nat) : Decidable (IsSize digits n) :=
  inferInstanceAs (Decidable (_ ∧ _))

instance (b : UInt8) : Decidable (IsTextByte b) := inferInstanceAs (Decidable (_ ∨ _ ∨ _))

instance (b : UInt8) : Decidable (IsQuotable b) := inferInstanceAs (Decidable (_ ∧ _ ∧ _))

instance (name : Bytes) : Decidable (IsToken name) := inferInstanceAs (Decidable (_ ∧ _))

/-! ## Extensions -/

/-- The inside of a quoted string: bytes as they are, and bytes after a backslash. -/
inductive QuotedInside : Bytes → Prop where
  | nil : QuotedInside []
  | plain {b : UInt8} {w : Bytes} (hb : IsQuotable b) (hw : QuotedInside w) : QuotedInside (b :: w)
  | pair {b : UInt8} {w : Bytes} (hb : IsTextByte b) (hw : QuotedInside w) :
      QuotedInside (92 :: b :: w)

/-- The value of an extension: a token or a quoted string. -/
inductive ExtensionValue : Bytes → Prop where
  | token {w : Bytes} (hw : IsToken w) : ExtensionValue w
  | quoted {w : Bytes} (hw : QuotedInside w) : ExtensionValue (34 :: (w ++ [34]))

/-- Extensions: each a semicolon and a name, with an equals sign and a value or without. -/
inductive Extension : Bytes → Prop where
  | nil : Extension []
  | name {name rest : Bytes} (hn : IsToken name) (hr : Extension rest) :
      Extension (59 :: (name ++ rest))
  | value {name value rest : Bytes} (hn : IsToken name) (hv : ExtensionValue value)
      (hr : Extension rest) : Extension (59 :: (name ++ 61 :: (value ++ rest)))

/-- Nothing, or something that begins with a space, a tab or a semicolon. -/
def LooseExtension (ext : Bytes) : Prop := ∀ b ∈ ext.head?, b = 32 ∨ b = 9 ∨ b = 59

/-! ## Bodies -/

/-- A chunk with data. -/
structure Part where
  digits : Bytes
  extension : Bytes
  octets : Bytes

/-- A chunk as it is sent. -/
def Part.wire (c : Part) : Bytes :=
  c.digits ++ (c.extension ++ (Text.crlf ++ (c.octets ++ Text.crlf)))

/-- The size is that of the octets, of which there is one at least. -/
structure Part.Follows (E : Bytes → Prop) (c : Part) : Prop where
  size : IsSize c.digits c.octets.length
  nonempty : c.octets ≠ []
  extension : E c.extension

/-- A trailer line; blanks around the value belong to the line and not to the field. -/
structure TrailerLine where
  name : Bytes
  value : Bytes

namespace TrailerLine

/-- A trailer line as it is sent. -/
def wire (l : TrailerLine) : Bytes := l.name ++ 58 :: (l.value ++ Text.crlf)

/-- The name is a token, and the value is running text. -/
structure Follows (l : TrailerLine) : Prop where
  name : IsToken l.name
  value : ∀ b ∈ l.value, IsTextByte b

/-- The field of a trailer line. -/
def field (l : TrailerLine) : Field where
  name := Text.lossy l.name
  value := Text.trimSpaceTab (Text.lossy l.value)

/-- The bytes of a trailer line but for its line feed. -/
def weight (l : TrailerLine) : Nat := l.name.length + l.value.length + 2

end TrailerLine

/-- The parts of a chunked body. -/
structure Framed where
  chunks : List Part
  lastDigits : Bytes
  lastExtension : Bytes
  trailers : List TrailerLine

namespace Framed

/-- The trailer lines and the blank line after them. -/
def trailerWire (ls : List TrailerLine) : Bytes := ls.flatMap TrailerLine.wire ++ Text.crlf

/-- A body as it is sent. -/
def wire (f : Framed) : Bytes :=
  f.chunks.flatMap Part.wire ++
    (f.lastDigits ++ (f.lastExtension ++ (Text.crlf ++ trailerWire f.trailers)))

/-- The data of a body. -/
def data (f : Framed) : Bytes := f.chunks.flatMap Part.octets

/-- The trailer fields of a body. -/
def fields (f : Framed) : List Field := f.trailers.map TrailerLine.field

/-- The bytes of all trailer lines but for the line feeds. -/
def trailerWeight (f : Framed) : Nat := (f.trailers.map TrailerLine.weight).sum

/-- The parts make up a body whose extensions are as `E` has them. -/
structure Follows (E : Bytes → Prop) (f : Framed) : Prop where
  chunks : ∀ c ∈ f.chunks, c.Follows E
  lastSize : IsSize f.lastDigits 0
  lastExtension : E f.lastExtension
  trailers : ∀ l ∈ f.trailers, l.Follows

end Framed
end Switchboard.Http.Chunk
