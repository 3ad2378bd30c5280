import Switchboard.Http.Fields
import Switchboard.Text.Lossy

/-!
The decoder of the chunked coding. One byte moves it one step, with at most one octet of data or one trailer
field coming out; decoding is the fold of that step over the input, so it does not matter how the input is
cut. A step that fails leaves the decoder as the byte found it, but for the count of trailer bytes, and
later input goes on from there.
-/

namespace Switchboard.Http.Chunk

/-- A decoder. -/
structure Decoder where
  phase : Phase
  /-- The current message uses the coding. -/
  armed : Bool
  /-- The octets of data decoded so far. -/
  total : Nat
  /-- The bytes of trailer lines counted so far. -/
  trailerBytes : Nat
  maxBody : Nat
  maxTrailer : Nat
  deriving DecidableEq, Repr

/-- What a byte completes. -/
inductive Yield where
  | nothing
  | octet (byte : UInt8)
  | field (field : Field)
  deriving DecidableEq, Repr

namespace Decoder

/-- A decoder before its first message. -/
def new (maxBody maxTrailer : Nat) : Decoder where
  phase := .sizeStart
  armed := false
  total := 0
  trailerBytes := 0
  maxBody := maxBody
  maxTrailer := maxTrailer

/-- The trailer bytes that a decoder without limits of its own accepts. -/
def defaultMaxTrailer : Nat := 65536

/-- The decoder without a limit on the body. -/
def unlimited : Decoder := new (Text.wordSize - 1) defaultMaxTrailer

/-- Back to the state before the first message; the limits stay. -/
def reset (d : Decoder) : Decoder :=
  { d with phase := .sizeStart, armed := false, total := 0, trailerBytes := 0 }

theorem reset_eq (d : Decoder) : d.reset = new d.maxBody d.maxTrailer := rfl

/-- Ready for a message in the chunked coding. -/
def start (d : Decoder) : Decoder := { d.reset with armed := true }

/-- The body has ended. -/
def isFinished (d : Decoder) : Bool := d.phase == .finished

/-- The size after one more digit, if it fits the machine word and what is left of the body. -/
def grow (d : Decoder) (size digit : Nat) : Except Fault Nat :=
  let size := size * 16 + digit
  if size ≥ Text.wordSize then .error .chunkSizeOverflow
  else if size > d.maxBody - d.total then .error (.bodyTooLarge d.maxBody)
  else .ok size

/-- The bytes of text: tab, space, visible ASCII and everything above. -/
def isTextByte (b : UInt8) : Bool := b == 9 || (0x20 ≤ b && b ≤ 0x7E) || 0x80 ≤ b

/-- The trailer field whose name and value were read in reverse. -/
def trailerField (nameRev valueRev : Bytes) : Field where
  name := String.ofList (nameRev.reverse.map fun b => Char.ofNat b.toNat)
  value := Text.trimSpaceTab (Text.lossy valueRev.reverse)

/-- The result of a step: the decoder after it, and what the byte completes or why it is refused. -/
abbrev Stepped := Decoder × Except Fault Yield

/-- Moves on to a phase. -/
def goto (d : Decoder) (p : Phase) : Stepped := ({ d with phase := p }, .ok .nothing)

/-- Stays, and refuses. -/
def refuse (d : Decoder) (f : Fault) : Stepped := (d, .error f)

/-- Refuses a byte where it stands. -/
def unexpected (d : Decoder) (b : UInt8) : Stepped := d.refuse (.chunkByte b d.phase)

/-- Takes a digit of the size. -/
def takeDigit (d : Decoder) (size digit : Nat) : Stepped :=
  match d.grow size digit with
  | .ok n => d.goto (.size n)
  | .error f => d.refuse f

/-- Takes a byte that is neither a digit nor refused after the size: an extension, a blank, the line end. -/
def afterSize? (d : Decoder) (size : Nat) (b : UInt8) : Option Stepped :=
  if b = 59 then some (d.goto (.extName size false))
  else if b = 32 ∨ b = 9 then some (d.goto (.sizeBlank size))
  else if b = 13 then some (d.goto (.lineFeed size))
  else none

/-- A step inside the value of an extension. -/
def stepExtValue (d : Decoder) (size : Nat) (v : ExtValue) (b : UInt8) : Stepped :=
  match v with
  | .start =>
    if b = 34 then d.goto (.extValue size .quoted)
    else if Text.isTokenByte b then d.goto (.extValue size .inside)
    else d.unexpected b
  | .inside =>
    if Text.isTokenByte b then d.goto (.extValue size .inside)
    else if b = 59 then d.goto (.extName size false)
    else if b = 13 then d.goto (.lineFeed size)
    else d.unexpected b
  | .quoted =>
    if b = 92 then d.goto (.extValue size .escaped)
    else if b = 34 then d.goto (.extValue size .inside)
    else if isTextByte b then d.goto (.extValue size .quoted)
    else d.unexpected b
  | .escaped => d.goto (.extValue size .quoted)

/-- Counts a byte of a trailer line against its limit, then goes on. -/
def counted (d : Decoder) (next : Decoder → Stepped) : Stepped :=
  let d := { d with trailerBytes := d.trailerBytes + 1 }
  if d.trailerBytes > d.maxTrailer then d.refuse (.headerTooLarge d.maxTrailer) else next d

/-- One byte of input. -/
def step (d : Decoder) (b : UInt8) : Stepped :=
  match d.phase with
  | .sizeStart =>
    match Text.hexValue? b with
    | some digit => d.takeDigit 0 digit
    | none => d.unexpected b
  | .size size =>
    match d.afterSize? size b with
    | some r => r
    | none =>
      match Text.hexValue? b with
      | some digit => d.takeDigit size digit
      | none => d.unexpected b
  | .extName size false =>
    if b = 32 ∨ b = 9 then d.goto (.extName size false)
    else if Text.isTokenByte b then d.goto (.extName size true)
    else d.unexpected b
  | .extName size true =>
    if Text.isTokenByte b then d.goto (.extName size true)
    else if b = 61 then d.goto (.extValue size .start)
    else if b = 59 then d.goto (.extName size false)
    else if b = 13 then d.goto (.lineFeed size)
    else d.unexpected b
  | .extValue size v => d.stepExtValue size v b
  | .sizeBlank size => (d.afterSize? size b).getD (d.unexpected b)
  | .lineFeed size =>
    if b = 10 then d.goto (if size > 0 then .data size else .trailerStart) else d.unexpected b
  | .trailerStart =>
    if b = 13 then d.goto .lastLineFeed
    else if Text.isTokenByte b then d.counted fun d => d.goto (.trailerName [b])
    else d.unexpected b
  | .lastLineFeed => if b = 10 then d.goto .finished else d.unexpected b
  | .trailerName nameRev =>
    d.counted fun d =>
      if Text.isTokenByte b then d.goto (.trailerName (b :: nameRev))
      else if b = 58 then d.goto (.trailerValue nameRev [])
      else d.unexpected b
  | .trailerValue nameRev valueRev =>
    d.counted fun d =>
      if b = 13 then
        ({ d with phase := .lineFeed 0 }, .ok (.field (trailerField nameRev valueRev)))
      else if isTextByte b then d.goto (.trailerValue nameRev (b :: valueRev))
      else d.unexpected b
  | .data left =>
    ({ d with
        phase := if left = 1 then .dataReturn else .data (left - 1)
        total := d.total + 1 }, .ok (.octet b))
  | .dataReturn => if b = 13 then d.goto .dataLineFeed else d.unexpected b
  | .dataLineFeed => if b = 10 then d.goto .sizeStart else d.unexpected b
  | .finished => (d, .ok .nothing)

end Decoder

/-- The progress of a decoder through some input. -/
structure Progress where
  decoder : Decoder
  /-- The octets of data so far, in reverse. -/
  dataRev : Bytes := []
  /-- The trailer fields so far, in reverse. -/
  trailersRev : List Field := []
  /-- The bytes taken so far. -/
  consumed : Nat := 0
  /-- Why the last byte was refused. -/
  fault : Option Fault := none
  deriving DecidableEq, Repr

namespace Progress

/-- Records what a byte completes. -/
def record (p : Progress) (d : Decoder) : Yield → Progress
  | .nothing => { p with decoder := d, consumed := p.consumed + 1 }
  | .octet b => { p with decoder := d, consumed := p.consumed + 1, dataRev := b :: p.dataRev }
  | .field f =>
    { p with decoder := d, consumed := p.consumed + 1, trailersRev := f :: p.trailersRev }

/-- Takes one byte, unless the body has ended or a byte was refused. -/
def absorb (p : Progress) (b : UInt8) : Progress :=
  if p.fault.isSome || p.decoder.isFinished then p
  else match p.decoder.step b with
    | (d, .ok y) => p.record d y
    | (d, .error f) => { p with decoder := d, fault := some f }

/-- The octets of data, in order. -/
def data (p : Progress) : Bytes := p.dataRev.reverse

/-- The trailer fields, in order. -/
def trailers (p : Progress) : List Field := p.trailersRev.reverse

/-- The number of bytes taken, or why one was refused. -/
def result (p : Progress) : Except Fault Nat :=
  match p.fault with
  | some f => .error f
  | none => .ok p.consumed

end Progress

/-- Decodes as much of the input as there is of the body. -/
def Decoder.decode (d : Decoder) (input : Bytes) : Progress :=
  input.foldl Progress.absorb { decoder := d }

/-- The data and the trailer fields of a complete body, bytes after its end ignored. -/
def decodeBody (input : Bytes) : Except Fault (Bytes × Fields) :=
  let p := Decoder.unlimited.start.decode input
  match p.fault with
  | some f => .error f
  | none =>
    if p.decoder.isFinished then .ok (p.data, ⟨p.trailers⟩) else .error .chunkTruncated

end Switchboard.Http.Chunk
