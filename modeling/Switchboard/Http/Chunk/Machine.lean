import Switchboard.Http.Chunk.Decoder

/-!
The decoder of the chunked coding as it is run: registers that are written one by one. Between two size lines the
registers of the last one keep what they held, and the data of a chunk is copied in one go, as much as there is of it.
`Machine.view` tells which decoder the registers stand for.
-/

namespace Switchboard.Http.Chunk

/-- The state of a machine. -/
inductive State where
  | sizeStart
  | size
  | extName
  | extValue
  | sizeBlank
  | lineFeed
  | trailerStart
  | lastLineFeed
  | trailerName
  | trailerValue
  | data
  | dataReturn
  | dataLineFeed
  | finished
  deriving DecidableEq, Repr

/-- A machine. -/
structure Machine where
  state : State
  /-- The current message uses the coding. -/
  chunked : Bool
  /-- The line end after the last line was taken. -/
  finished : Bool
  /-- The size that the current size line announces, or the last one did. -/
  chunkSize : Nat
  /-- The octets of data that are missing in the current chunk. -/
  chunkLeft : Nat
  /-- The octets of data decoded so far. -/
  total : Nat
  /-- The characters of the current name or value of an extension. -/
  extLen : Nat
  extQuoted : Bool
  extEscaped : Bool
  /-- The name of the current trailer field, which is ASCII. -/
  trailerName : Array UInt8
  trailerValue : Array UInt8
  /-- The bytes of trailer lines counted so far. -/
  trailerBytes : Nat
  maxBody : Nat
  maxTrailer : Nat
  deriving DecidableEq, Repr

namespace Machine

/-- A machine before its first message. -/
def new (maxBody maxTrailer : Nat) : Machine where
  state := .sizeStart
  chunked := false
  finished := false
  chunkSize := 0
  chunkLeft := 0
  total := 0
  extLen := 0
  extQuoted := false
  extEscaped := false
  trailerName := #[]
  trailerValue := #[]
  trailerBytes := 0
  maxBody := maxBody
  maxTrailer := maxTrailer

/-- The machine without a limit on the body. -/
def unlimited : Machine := new (Text.wordSize - 1) Decoder.defaultMaxTrailer

/-- Writes every register but the limits. -/
def reset (m : Machine) : Machine :=
  { m with
    state := .sizeStart
    chunked := false
    finished := false
    chunkSize := 0
    chunkLeft := 0
    total := 0
    extLen := 0
    extQuoted := false
    extEscaped := false
    trailerName := #[]
    trailerValue := #[]
    trailerBytes := 0 }

/-- Ready for a message in the chunked coding. -/
def start (m : Machine) : Machine := { m.reset with chunked := true }

/-- Where the registers stand in a body. -/
def phase (m : Machine) : Phase :=
  match m.state with
  | .sizeStart => .sizeStart
  | .size => .size m.chunkSize
  | .extName => .extName m.chunkSize (0 < m.extLen)
  | .extValue =>
    .extValue m.chunkSize
      (if m.extQuoted then (if m.extEscaped then .escaped else .quoted)
        else if 0 < m.extLen then .inside else .start)
  | .sizeBlank => .sizeBlank m.chunkSize
  | .lineFeed => .lineFeed m.chunkSize
  | .trailerStart => .trailerStart
  | .lastLineFeed => .lastLineFeed
  | .trailerName => .trailerName m.trailerName.toList.reverse
  | .trailerValue => .trailerValue m.trailerName.toList.reverse m.trailerValue.toList.reverse
  | .data => .data m.chunkLeft
  | .dataReturn => .dataReturn
  | .dataLineFeed => .dataLineFeed
  | .finished => .finished

/-- The decoder that the registers stand for. -/
def view (m : Machine) : Decoder where
  phase := m.phase
  armed := m.chunked
  total := m.total
  trailerBytes := m.trailerBytes
  maxBody := m.maxBody
  maxTrailer := m.maxTrailer

/-- Registers that stand for a decoder. -/
def ofDecoder (d : Decoder) : Machine :=
  let m : Machine :=
    { new d.maxBody d.maxTrailer with chunked := d.armed, total := d.total, trailerBytes := d.trailerBytes }
  match d.phase with
  | .sizeStart => m
  | .size size => { m with state := .size, chunkSize := size }
  | .extName size named => { m with state := .extName, chunkSize := size, extLen := named.toNat }
  | .extValue size .start => { m with state := .extValue, chunkSize := size }
  | .extValue size .inside => { m with state := .extValue, chunkSize := size, extLen := 1 }
  | .extValue size .quoted => { m with state := .extValue, chunkSize := size, extLen := 1, extQuoted := true }
  | .extValue size .escaped =>
    { m with state := .extValue, chunkSize := size, extLen := 1, extQuoted := true, extEscaped := true }
  | .sizeBlank size => { m with state := .sizeBlank, chunkSize := size }
  | .lineFeed size => { m with state := .lineFeed, chunkSize := size, chunkLeft := size }
  | .trailerStart => { m with state := .trailerStart }
  | .lastLineFeed => { m with state := .lastLineFeed }
  | .trailerName nameRev => { m with state := .trailerName, trailerName := nameRev.reverse.toArray }
  | .trailerValue nameRev valueRev =>
    { m with
      state := .trailerValue
      trailerName := nameRev.reverse.toArray
      trailerValue := valueRev.reverse.toArray }
  | .data left => { m with state := .data, chunkLeft := left }
  | .dataReturn => { m with state := .dataReturn }
  | .dataLineFeed => { m with state := .dataLineFeed }
  | .finished => { m with state := .finished, finished := true }

/-! ## Single bytes -/

/-- What comes of a byte: the machine after it, and the trailer field that it completes or why it is refused. -/
abbrev Stepped := Machine × Except Fault (Option Field)

/-- Goes on, with nothing completed. -/
def proceed (m : Machine) : Stepped := (m, .ok none)

/-- Stays, and refuses. -/
def refuse (m : Machine) (f : Fault) : Stepped := (m, .error f)

/-- Refuses a byte where it stands. -/
def unexpected (m : Machine) (b : UInt8) : Stepped := m.refuse (.chunkByte b m.phase)

/-- Takes a digit of the size, if the size with it fits the machine word and what is left of the body. -/
def pushDigit (m : Machine) (digit : Nat) : Stepped :=
  let size := m.chunkSize * 16 + digit
  if size ≥ Text.wordSize then m.refuse .chunkSizeOverflow
  else if size > m.maxBody - m.total then m.refuse (.bodyTooLarge m.maxBody)
  else proceed { m with chunkSize := size, state := .size }

/-- Ends a size line. -/
def endSizeLine (m : Machine) : Stepped :=
  proceed { m with chunkLeft := m.chunkSize, state := .lineFeed }

/-- Begins the name of an extension. -/
def beginExtension (m : Machine) : Stepped := proceed { m with extLen := 0, state := .extName }

/-- Counts a byte of a trailer line against its limit, then goes on. -/
def counted (m : Machine) (next : Machine → Stepped) : Stepped :=
  let m := { m with trailerBytes := m.trailerBytes + 1 }
  if m.trailerBytes > m.maxTrailer then m.refuse (.headerTooLarge m.maxTrailer) else next m

/-- The field that the registers hold. -/
def trailerField (m : Machine) : Field :=
  Decoder.trailerField m.trailerName.toList.reverse m.trailerValue.toList.reverse

/-- The first byte of a size line. -/
def stepSizeStart (m : Machine) (b : UInt8) : Stepped :=
  match Text.hexValue? b with
  | some digit => { m with chunkSize := 0 }.pushDigit digit
  | none => m.unexpected b

/-- A byte after a digit of the size. -/
def stepSize (m : Machine) (b : UInt8) : Stepped :=
  if b = 59 then m.beginExtension
  else if b = 32 ∨ b = 9 then proceed { m with state := .sizeBlank }
  else if b = 13 then m.endSizeLine
  else match Text.hexValue? b with
    | some digit => m.pushDigit digit
    | none => m.unexpected b

/-- A byte in the name of an extension. -/
def stepExtName (m : Machine) (b : UInt8) : Stepped :=
  if (b = 32 ∨ b = 9) ∧ m.extLen = 0 then m.proceed
  else if Text.isTokenByte b then proceed { m with extLen := m.extLen + 1 }
  else if b = 61 ∧ 0 < m.extLen then
    proceed { m with extLen := 0, extQuoted := false, extEscaped := false, state := .extValue }
  else if b = 59 ∧ 0 < m.extLen then proceed { m with extLen := 0 }
  else if b = 13 ∧ 0 < m.extLen then m.endSizeLine
  else m.unexpected b

/-- A byte in a quoted value of an extension. -/
def stepQuoted (m : Machine) (b : UInt8) : Stepped :=
  let m' := { m with extLen := m.extLen + 1 }
  if m.extEscaped then proceed { m' with extEscaped := false }
  else if b = 92 then proceed { m' with extEscaped := true }
  else if b = 34 then proceed { m' with extQuoted := false }
  else if Decoder.isTextByte b then m'.proceed
  else m.unexpected b

/-- A byte in the value of an extension outside of quotes. -/
def stepValue (m : Machine) (b : UInt8) : Stepped :=
  if b = 34 ∧ m.extLen = 0 then proceed { m with extQuoted := true, extLen := m.extLen + 1 }
  else if Text.isTokenByte b then proceed { m with extLen := m.extLen + 1 }
  else if b = 59 ∧ 0 < m.extLen then m.beginExtension
  else if b = 13 ∧ 0 < m.extLen then m.endSizeLine
  else m.unexpected b

/-- A byte after a blank that follows the size. -/
def stepSizeBlank (m : Machine) (b : UInt8) : Stepped :=
  if b = 32 ∨ b = 9 then m.proceed
  else if b = 59 then m.beginExtension
  else if b = 13 then m.endSizeLine
  else m.unexpected b

/-- The first byte of a line after the last chunk. -/
def stepTrailerStart (m : Machine) (b : UInt8) : Stepped :=
  if b = 13 then proceed { m with state := .lastLineFeed }
  else if Text.isTokenByte b then
    m.counted fun m => proceed { m with trailerName := #[b], state := .trailerName }
  else m.unexpected b

/-- A byte in the name of a trailer field. -/
def stepTrailerName (m : Machine) (b : UInt8) : Stepped :=
  m.counted fun m =>
    if Text.isTokenByte b then proceed { m with trailerName := m.trailerName.push b }
    else if b = 58 then proceed { m with trailerValue := #[], state := .trailerValue }
    else m.unexpected b

/-- A byte in the value of a trailer field. -/
def stepTrailerValue (m : Machine) (b : UInt8) : Stepped :=
  m.counted fun m =>
    -- the size is zero here, so the line feed leads back to the start of a line after the last chunk
    if b = 13 then
      ({ m with trailerName := #[], trailerValue := #[], state := .lineFeed }, .ok (some m.trailerField))
    else if Decoder.isTextByte b then proceed { m with trailerValue := m.trailerValue.push b }
    else m.unexpected b

/-- Goes on to a state if the byte is the one that leads there. -/
def expect (m : Machine) (byte : UInt8) (m' : Machine) (b : UInt8) : Stepped :=
  if b = byte then m'.proceed else m.unexpected b

/-- One byte of input outside of data. -/
def step (m : Machine) (b : UInt8) : Stepped :=
  match m.state with
  | .sizeStart => m.stepSizeStart b
  | .size => m.stepSize b
  | .extName => m.stepExtName b
  | .extValue => if m.extQuoted then m.stepQuoted b else m.stepValue b
  | .sizeBlank => m.stepSizeBlank b
  | .lineFeed => m.expect 10 { m with state := if 0 < m.chunkSize then .data else .trailerStart } b
  | .trailerStart => m.stepTrailerStart b
  | .lastLineFeed => m.expect 10 { m with state := .finished, finished := true } b
  | .trailerName => m.stepTrailerName b
  | .trailerValue => m.stepTrailerValue b
  | .dataReturn => m.expect 13 { m with state := .dataLineFeed } b
  | .dataLineFeed => m.expect 10 { m with state := .sizeStart } b
  | .data | .finished => m.proceed

/-! ## Input -/

/-- The machine after some octets of data, of which it has counted so many. -/
def copied (m : Machine) (n : Nat) : Machine :=
  { m with
    chunkLeft := m.chunkLeft - n
    total := m.total + n
    state := if m.chunkLeft - n = 0 then .dataReturn else .data }

end Machine

/-- What has come of some input: the machine after it, what was added to the body and to the fields, the number of bytes
taken, and why the last byte was refused. -/
structure Decoded where
  machine : Machine
  data : Array UInt8 := #[]
  fields : Array Field := #[]
  consumed : Nat := 0
  fault : Option Fault := none

namespace Decoded

/-- Copies some octets of data. -/
def copy (r : Decoded) (octets : Bytes) : Decoded :=
  { r with
    machine := r.machine.copied octets.length
    data := r.data ++ octets
    consumed := r.consumed + octets.length }

/-- Takes a byte. -/
def take (r : Decoded) (m : Machine) (field : Option Field) : Decoded :=
  { r with
    machine := m
    fields := r.fields ++ field.toList
    consumed := r.consumed + 1 }

/-- The number of bytes taken, or why one was refused. -/
def result (r : Decoded) : Except Fault Nat :=
  match r.fault with
  | some f => .error f
  | none => .ok r.consumed

end Decoded

namespace Machine

/-- Decodes on, until the input or the body has ended or a byte is refused. -/
def decodeOn (r : Decoded) (input : Bytes) : Decoded :=
  match input with
  | [] => r
  | b :: rest =>
    if r.machine.state = .finished then r
    else if r.machine.state = .data then
      let n := min r.machine.chunkLeft (rest.length + 1)
      decodeOn (r.copy ((b :: rest).take n)) ((b :: rest).drop n)
    else
      match r.machine.step b with
      | (m, .error f) => { r with machine := m, fault := some f }
      | (m, .ok field) => decodeOn (r.take m field) rest
-- a copy of no octets leaves the state of data
termination_by 2 * input.length + if r.machine.state = .data then 1 else 0
decreasing_by
  · rename_i hdata
    rw [if_pos hdata]
    simp only [Decoded.copy, copied, List.length_take, List.length_drop, List.length_cons]
    split <;> split at * <;> first | omega | contradiction
  · split <;> simp only [List.length_cons] <;> omega

/-- Decodes as much of the input as there is of the body. -/
def decode (m : Machine) (input : Bytes) : Decoded := decodeOn { machine := m } input

end Machine
end Switchboard.Http.Chunk
