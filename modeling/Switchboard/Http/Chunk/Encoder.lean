import Switchboard.Http.Fields

/-!
The writer of the chunked coding. A chunk without data is not written, since a size of zero ends the body.
-/

namespace Switchboard.Http.Chunk

/-- A chunk with an extension after its size; an empty extension is left out. -/
def encodeChunk (data : Bytes) (ext : String) : Bytes :=
  if data.isEmpty then []
  else
    Text.utf8 (Text.hex data.length) ++ (if ext.isEmpty then [] else Text.utf8 ";" ++ Text.utf8 ext) ++
      Text.crlf ++ data ++ Text.crlf

/-- The last chunk and the trailer fields. -/
def encodeEnd (trailers : Fields) : Bytes := Text.utf8 "0" ++ Text.crlf ++ trailers.wire

/-- The pieces of a list, each `size + 1` long but for the last; `room` is left in the current piece. -/
def piecesFrom (size : Nat) : Nat → Bytes → Bytes → List Bytes
  | _, acc, [] => if acc.isEmpty then [] else [acc.reverse]
  | 0, acc, b :: rest => acc.reverse :: piecesFrom size size [b] rest
  | room + 1, acc, b :: rest => piecesFrom size room (b :: acc) rest

/-- The pieces of some data, each of `size` bytes but for the last; a size of zero counts as one. -/
def pieces (size : Nat) (data : Bytes) : List Bytes :=
  piecesFrom (size - 1) (size - 1 + 1) [] data

/-- The data as a body of chunks of one size. -/
def encodeBody (data : Bytes) (size : Nat) : Bytes :=
  (pieces size data).flatMap (encodeChunk · "") ++ encodeEnd .empty

end Switchboard.Http.Chunk
