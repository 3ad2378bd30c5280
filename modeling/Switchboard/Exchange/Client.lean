import Switchboard.Exchange.Send
import Switchboard.Http.Chunk.Encoder

/-!
The client side: requests out, responses in. Interim responses are skipped on the way to the final one.
-/

namespace Switchboard.Exchange

open Http

/-- A client: a link, and the method of the last request, which says how to read its response. -/
structure Client (σ : Type) where
  link : Link σ
  lastMethod : Method := .get

namespace Client

variable {σ : Type} [Transport σ]

/-- A client over a session. -/
def new (session : Session σ) (limits : Limits) : Client σ :=
  { link := { slot := .new limits, session } }

/-- Sends a request. -/
def sendRequest (c : Client σ) (r : Request) : Except Fault Unit × Client σ :=
  let x := c.link.mapSlot fun s => { s with request := r }
  let (result, x) := x.sendRequest
  (result, { link := x, lastMethod := r.method })

/-- The request with some data as its chunked body. -/
def chunkedRequest (r : Request) (data : Bytes) (size : Nat) : Request :=
  { r with
    fields := (r.fields.set "Transfer-Encoding" "chunked").remove "Content-Length"
    body := Chunk.encodeBody data size }

/-- Sends a request with some data in chunks of one size. -/
def sendChunked (c : Client σ) (r : Request) (data : Bytes) (size : Nat) :
    Except Fault Unit × Client σ :=
  c.sendRequest (chunkedRequest r data size)

/-- Sends bytes as they are. -/
def sendRaw (c : Client σ) (bytes : Bytes) : Except Fault Unit × Client σ :=
  let (r, x) := c.link.send bytes
  (r, { c with link := x })

/-- Receives one response, interim or final. -/
def receiveAny (c : Client σ) : Except Fault Response × Client σ :=
  let (r, x) := c.link.readResponse (c.lastMethod == .head)
  (r.map fun _ => x.slot.response, { c with link := x })

/-- Receives responses up to the first that is not interim, so many at most. -/
def receiveFinal : Nat → Client σ → Except Fault Response × Client σ
  | 0, c => (.error .closed, c)
  | n + 1, c =>
    match c.receiveAny with
    | (.error f, c) => (.error f, c)
    | (.ok r, c) => if r.status.isInformational then receiveFinal n c else (.ok r, c)

/-- Receives the next final response. Each response takes a byte or more, so the bytes at hand bound their
number. -/
def receiveResponse (c : Client σ) : Except Fault Response × Client σ :=
  receiveFinal (c.link.slot.buffer.length + c.link.supply + 1) c

/-- Sends a request and receives its response. -/
def roundTrip (c : Client σ) (r : Request) : Except Fault Response × Client σ :=
  match c.sendRequest r with
  | (.error f, c) => (.error f, c)
  | (.ok (), c) => c.receiveResponse

/-- Asks for a target. -/
def get (c : Client σ) (target : String) : Except Fault Response × Client σ :=
  c.roundTrip { method := .get, target, fields := .ofPairs [("Host", "localhost")] }

/-- Posts some data to a target. -/
def post (c : Client σ) (target : String) (body : Bytes) : Except Fault Response × Client σ :=
  c.roundTrip
    { method := .post
      target
      fields := .ofPairs [("Host", "localhost"), ("Content-Length", Text.decimal body.length)]
      body }

/-- Closes the connection; that it is closed already is no failure. -/
def close (c : Client σ) : Except Fault Unit × Client σ :=
  let (r, session) := c.link.session.close
  let c := { c with link := { c.link with session } }
  match r with
  | .error .closed => (.ok (), c)
  | r => (r, c)

end Client
end Switchboard.Exchange
