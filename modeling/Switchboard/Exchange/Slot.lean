import Switchboard.Http.Chunk.Decoder
import Switchboard.Http.Limits
import Switchboard.Http.Request
import Switchboard.Http.Response

/-!
A slot: the request and the response of the connection being served, the bytes received but not yet used,
and the decoder of the chunked coding. A slot outlives its connections and is cleared between them.
-/

namespace Switchboard.Exchange

open Http

/-- The message that a chunked body belongs to. -/
inductive Direction where
  | request
  | response
  deriving DecidableEq, Repr

/-- A slot. -/
structure Slot where
  limits : Limits
  request : Request := .cleared
  response : Response := .cleared
  /-- The bytes received but not yet used. -/
  buffer : Bytes := []
  decoder : Chunk.Decoder
  /-- The address of the other side. -/
  peer : Option String := none
  deriving DecidableEq, Repr

namespace Slot

/-- A slot that has not been used. -/
def new (limits : Limits) : Slot where
  limits := limits
  decoder := .new limits.maxBody.toNat limits.maxHeader.toNat

/-- Clears all that belongs to a connection. -/
def reset (s : Slot) : Slot :=
  { s with
    request := s.request.clear
    response := s.response.clear
    buffer := []
    decoder := s.decoder.reset
    peer := none }

/-- What a reset leaves of a slot is its limits and those of its decoder. -/
theorem reset_eq (s : Slot) : s.reset = { new s.limits with decoder := s.decoder.reset } := rfl

/-- Hands over the bytes received past the current message. -/
def takePending (s : Slot) : Bytes × Slot := (s.buffer, { s with buffer := [] })

/-- Adds bytes received earlier on this connection. -/
def addPending (s : Slot) (bytes : Bytes) : Slot := { s with buffer := s.buffer ++ bytes }

/-- The client waits for a go-ahead before it sends the body. -/
def wantsContinue (s : Slot) : Bool := s.request.expectContinue

/-- Adds data to the body of a message and trailer fields to its fields. -/
def deliver (s : Slot) (dir : Direction) (data : Bytes) (trailers : List Field) : Slot :=
  match dir with
  | .request =>
    let r := s.request
    { s with request := { r with body := r.body ++ data, fields := r.fields.append trailers } }
  | .response =>
    let r := s.response
    { s with response := { r with body := r.body ++ data, fields := r.fields.append trailers } }

/-- Decodes a chunked body as far as the input goes. What came before a refused byte is delivered. -/
def decodeChunks (s : Slot) (dir : Direction) (input : Bytes) : Except Fault Nat × Slot :=
  let p := s.decoder.decode input
  (p.result, { s.deliver dir p.data p.trailers with decoder := p.decoder })

end Slot
end Switchboard.Exchange
