import Switchboard.Text.Bytes

/-!
Where a reader of the chunked coding stands. A phase carries just what the bytes still to come need: the
size announced by the current size line, the octets of data that are missing, the parts of the trailer
field being read. The two parts of a trailer field are kept in reverse.
-/

namespace Switchboard.Http.Chunk

/-- Where a reader stands inside the value of a chunk extension. -/
inductive ExtValue where
  /-- Right after the equals sign. -/
  | start
  /-- Inside a token, or after the closing quote. -/
  | inside
  /-- Inside a quoted string. -/
  | quoted
  /-- After a backslash in a quoted string. -/
  | escaped
  deriving DecidableEq, Repr

/-- The position of a reader inside a chunked body. -/
inductive Phase where
  /-- At the start of a size line. -/
  | sizeStart
  /-- Inside the size, whose digits denote `size` so far. -/
  | size (size : Nat)
  /-- Inside the name of an extension; `begun` once the name has a character. -/
  | extName (size : Nat) (begun : Bool)
  /-- Inside the value of an extension. -/
  | extValue (size : Nat) (value : ExtValue)
  /-- In the blanks between the size and the carriage return. -/
  | sizeBlank (size : Nat)
  /-- Before the line feed of a size line, or of a trailer line with `size` zero. -/
  | lineFeed (size : Nat)
  /-- At the start of a line after the last chunk. -/
  | trailerStart
  /-- Before the line feed that ends the body. -/
  | lastLineFeed
  /-- Inside the name of a trailer field. -/
  | trailerName (nameRev : Bytes)
  /-- Inside the value of a trailer field. -/
  | trailerValue (nameRev valueRev : Bytes)
  /-- Inside the data of a chunk, of which `left` octets are missing. -/
  | data (left : Nat)
  /-- Before the carriage return after the data. -/
  | dataReturn
  /-- Before the line feed after the data. -/
  | dataLineFeed
  /-- After the end of the body. -/
  | finished
  deriving DecidableEq, Repr

/-- The name of a phase in messages. -/
def Phase.label : Phase → String
  | sizeStart => "Chunked"
  | size _ => "ChunkSize"
  | extName .. => "ChunkExtName"
  | extValue .. => "ChunkExtValue"
  | sizeBlank _ => "ChunkCr1"
  | lineFeed _ => "ChunkLf1"
  | trailerStart => "ChunkCr2"
  | lastLineFeed => "ChunkLf2"
  | trailerName _ => "ChunkTrailerName"
  | trailerValue .. => "ChunkTrailerValue"
  | data _ => "ChunkData"
  | dataReturn => "ChunkDataCr"
  | dataLineFeed => "ChunkDataLf"
  | finished => "ChunkedFinish"

end Switchboard.Http.Chunk
