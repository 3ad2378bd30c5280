import Switchboard.Exchange.Send
import Switchboard.Http.Chunk.Machine

/-!
Contexts: the slot of a worker as it is run, in registers that are written and cleared one by one. What a read gives
passes through a scratch area, which is never cleared, and a head that is sent is put together in a buffer first. A
context is made once and serves one connection after another. `Context.slot` tells which slot the registers stand for.
-/

namespace Switchboard.Exchange

open Http

/-! ## Registers of a request -/

/-- The registers of a request. The parts of the target are kept beside it. -/
structure RequestRegisters where
  expectContinue : Bool
  method : Method
  url : String
  path : String
  version : Version
  fields : Fields
  query : List (String × String)
  rawQuery : String
  fragment : String
  body : Bytes
  deriving DecidableEq, Repr

namespace RequestRegisters

/-- Registers that have not been used. -/
def new : RequestRegisters where
  expectContinue := false
  method := .get
  url := ""
  path := ""
  version := .http11
  fields := .empty
  query := []
  rawQuery := ""
  fragment := ""
  body := []

/-- Clears each register. -/
def clear (r : RequestRegisters) : RequestRegisters :=
  { r with
    expectContinue := false
    method := .get
    url := ""
    path := ""
    version := .http11
    fields := .empty
    query := []
    rawQuery := ""
    fragment := ""
    body := [] }

/-- Writes a target with its parts. -/
def setTarget (r : RequestRegisters) (url : String) : RequestRegisters :=
  let parts := Target.ofText url
  { r with
    path := parts.path
    rawQuery := parts.rawQuery
    query := parts.query
    fragment := parts.fragment
    url }

/-- The request that the registers stand for. -/
def view (r : RequestRegisters) : Request where
  expectContinue := r.expectContinue
  method := r.method
  target := r.url
  version := r.version
  fields := r.fields
  body := r.body

/-- Registers that stand for a request. -/
def ofRequest (r : Request) : RequestRegisters :=
  setTarget
    { new with
      expectContinue := r.expectContinue
      method := r.method
      version := r.version
      fields := r.fields
      body := r.body }
    r.target

end RequestRegisters

/-! ## Contexts -/

/-- A context. -/
structure Context where
  limits : Limits
  request : RequestRegisters
  response : Response
  /-- The bytes received but not yet used. -/
  rbuf : Bytes
  /-- Where a read puts what it gives. -/
  scratch : Bytes
  /-- The head that is being sent, or the one that was sent last. -/
  wbuf : Bytes
  chunk : Chunk.Machine
  /-- The address of the other side. -/
  peer : Option String
  deriving DecidableEq, Repr

namespace Context

/-- A context that has not been used. -/
def new (limits : Limits) : Context where
  limits := limits
  request := .new
  response := .cleared
  rbuf := []
  scratch := List.replicate limits.readSize 0
  wbuf := []
  chunk := .new limits.maxBody.toNat limits.maxHeader.toNat
  peer := none

/-- Clears each register that belongs to a connection, except for the scratch area. -/
def reset (c : Context) : Context :=
  { c with
    request := c.request.clear
    response := c.response.clear
    rbuf := []
    wbuf := []
    chunk := c.chunk.reset
    peer := none }

/-- The slot that the registers stand for. -/
def slot (c : Context) : Slot where
  limits := c.limits
  request := c.request.view
  response := c.response
  buffer := c.rbuf
  decoder := c.chunk.view
  peer := c.peer

/-- Writes a slot into the registers. Those of the decoder are left alone unless the decoder is another one. -/
def put (c : Context) (s : Slot) : Context :=
  { c with
    limits := s.limits
    request := .ofRequest s.request
    response := s.response
    rbuf := s.buffer
    chunk := if s.decoder = c.chunk.view then c.chunk else .ofDecoder s.decoder
    peer := s.peer }

/-- Hands over the bytes received past the current message. -/
def takePending (c : Context) : Bytes × Context := (c.rbuf, { c with rbuf := [] })

/-- Adds bytes received earlier on this connection. -/
def setPending (c : Context) (bytes : Bytes) : Context := { c with rbuf := c.rbuf ++ bytes }

/-- Adds data to the body of a message and trailer fields to its fields. -/
def deliver (c : Context) (dir : Direction) (data : Bytes) (trailers : List Field) : Context :=
  match dir with
  | .request =>
    let r := c.request
    { c with request := { r with body := r.body ++ data, fields := r.fields.append trailers } }
  | .response =>
    let r := c.response
    { c with response := { r with body := r.body ++ data, fields := r.fields.append trailers } }

/-- Decodes a chunked body as far as the input goes. What came before a refused byte is delivered. -/
def parseChunk (c : Context) (dir : Direction) (input : Bytes) : Except Fault Nat × Context :=
  let r := c.chunk.decode input
  (r.result, { c.deliver dir r.data.toList r.fields.toList with chunk := r.machine })

/-- Takes in the bytes that a read has put into the scratch area; what was there behind them stays. -/
def receive (c : Context) (bytes : Bytes) : Context :=
  let c := { c with scratch := bytes ++ c.scratch.drop bytes.length }
  { c with rbuf := c.rbuf ++ c.scratch.take bytes.length }

/-- Puts a head together in the buffer for it. -/
def packHead (c : Context) (head : Bytes) : Context :=
  let c := { c with wbuf := [] }
  { c with wbuf := c.wbuf ++ head }

/-! ### Tests -/

/-- A test that looks at the limits and the received bytes only. -/
def onBuffer {α : Type} (test : Slot → Verdict Slot α) (c : Context) : Verdict Context α :=
  match test c.slot with
  | .done a s => .done a { c with rbuf := s.buffer }
  | .failed f s => .failed f { c with rbuf := s.buffer }
  | .more s => .more { c with rbuf := s.buffer }

/-- Decodes all received bytes as part of a chunked body. -/
def decodeTest (dir : Direction) (c : Context) : Verdict Context Unit :=
  match c.parseChunk dir c.rbuf with
  | (.error f, c) => .failed f c
  | (.ok n, c) =>
    let c := { c with rbuf := c.rbuf.drop n }
    if c.chunk.finished then .done () c else .more c

/-! ### Heads -/

/-- Reads the head of a request into the registers, as far as it is well formed. -/
def openRequest (c : Context) (head : Bytes) : Except Fault Unit × Context :=
  match Head.parse head c.limits.maxHeader.toNat with
  | .error f => (.error f, c)
  | .ok (line, fields) =>
    match RequestLine.parse line c.limits.maxUrl.toNat with
    | .error f => (.error f, c)
    | .ok r =>
      let request := { c.request with method := r.method, version := r.version }
      let request := { request.setTarget r.target with fields }
      let c := { c with request }
      if fields.contains "Transfer-Encoding" && !fields.isChunked then
        (.error .transferCoding, c)
      else
        match if fields.isChunked then .ok none else fields.contentLength with
        | .error f => (.error f, c)
        | .ok _ =>
          let expect := fields.hasToken "Expect" "100-continue"
          (.ok (), { c with request := { request with expectContinue := expect } })

/-- Reads the head of a response into the registers, as far as it is well formed. -/
def openResponse (c : Context) (head : Bytes) : Except Fault Unit × Context :=
  let (r, s) := c.slot.openResponse head
  (r, { c with response := s.response })

end Context

/-! ## Sessions -/

/-- A context with the session that it is served through. -/
structure Port (σ : Type) where
  ctx : Context
  session : Session σ

namespace Port

variable {σ : Type} [Transport σ]

/-- The link that the registers stand for. -/
def link {σ : Type} (x : Port σ) : Link σ := ⟨x.ctx.slot, x.session⟩

/-- Applies a function to the context. -/
def mapContext {σ : Type} (x : Port σ) (f : Context → Context) : Port σ := { x with ctx := f x.ctx }

/-- Reads once, as much as the scratch area holds; the end of the stream is a failure. -/
def fill (x : Port σ) : Except Fault Unit × Port σ :=
  match x.session.read x.ctx.scratch.length with
  | (.error f, session) => (.error f, { x with session })
  | (.ok [], session) => (.error .closed, { x with session })
  | (.ok bytes, session) => (.ok (), { ctx := x.ctx.receive bytes, session })

theorem supply_fill {x : Port σ} (h : x.fill.1 = .ok ()) : x.fill.2.session.supply < x.session.supply := by
  unfold fill at *
  split at h <;> try contradiction
  next bytes session hne he =>
    have hb := @Session.read_bound σ _ x.session x.ctx.scratch.length bytes (by rw [he])
    rw [he] at hb
    have hpos : 0 < bytes.length := List.length_pos_iff.2 hne
    simp only [he] at *
    omega

/-- Reads until the test is satisfied or fails. -/
def pump {α : Type} (test : Context → Verdict Context α) (x : Port σ) : Except Fault α × Port σ :=
  match test x.ctx with
  | .done a ctx => (.ok a, { x with ctx })
  | .failed f ctx => (.error f, { x with ctx })
  | .more ctx =>
    match _h : fill { x with ctx } with
    | (.error f, x) => (.error f, x)
    | (.ok (), next) => pump test next
termination_by x.session.supply
decreasing_by
  have := supply_fill (x := { x with ctx }) (by rw [_h])
  rw [_h] at this
  exact this

/-! ### Receiving -/

/-- Reads a chunked body with its trailer fields. -/
def readChunked (dir : Direction) (x : Port σ) : Except Fault Unit × Port σ :=
  (x.mapContext fun c => { c with chunk := c.chunk.start }).pump (Context.decodeTest dir)

/-- Reads a body of a given length, which must not exceed its limit. -/
def readSized (n : Nat) (dir : Direction) (x : Port σ) : Except Fault Unit × Port σ :=
  if n > x.ctx.limits.maxBody.toNat then
    (.error (.bodyTooLarge x.ctx.limits.maxBody.toNat), x)
  else
    match x.pump (Context.onBuffer (sizedTest n)) with
    | (.error f, x) => (.error f, x)
    | (.ok data, x) => (.ok (), x.mapContext (·.deliver dir data []))

/-- Reads a body that ends with the stream. -/
def readUntilClosed (x : Port σ) : Except Fault Unit × Port σ :=
  match x.pump (Context.onBuffer untilClosedTest) with
  | (.error .closed, x) =>
    (.ok (), x.mapContext fun c => { c.deliver .response c.rbuf [] with rbuf := [] })
  | r => r

/-- Reads the body that the head of the request announces. -/
def readBody (x : Port σ) : Except Fault Unit × Port σ :=
  if x.ctx.request.fields.isChunked then x.readChunked .request
  else
    match x.ctx.request.fields.contentLength with
    | .error f => (.error f, x)
    | .ok none => (.ok (), x)
    | .ok (some n) => x.readSized n .request

/-- Reads a request. The body is left unread when the client waits for a go-ahead. -/
def parseRequest (x : Port σ) : Except Fault Unit × Port σ :=
  let x := x.mapContext fun c => { c with request := c.request.clear, chunk := c.chunk.reset }
  match x.pump (Context.onBuffer (headTest .request)) with
  | (.error f, x) => (.error f, x)
  | (.ok head, x) =>
    match x.ctx.openRequest head with
    | (.error f, ctx) => (.error f, { x with ctx })
    | (.ok (), ctx) =>
      if ctx.request.expectContinue then (.ok (), { x with ctx })
      else readBody { x with ctx }

/-- Reads a response; `toHead` says that it answers a request for the head only. -/
def parseResponse (toHead : Bool) (x : Port σ) : Except Fault Unit × Port σ :=
  let x := x.mapContext fun c => { c with response := c.response.clear, chunk := c.chunk.reset }
  match x.pump (Context.onBuffer (headTest .response)) with
  | (.error f, x) => (.error f, x)
  | (.ok head, x) =>
    match x.ctx.openResponse head with
    | (.error f, ctx) => (.error f, { x with ctx })
    | (.ok (), ctx) =>
      let x := { x with ctx }
      if Link.isBodiless toHead ctx.response.status then (.ok (), x)
      else if ctx.response.isChunked then x.readChunked .response
      else
        match ctx.response.contentLength with
        | .error f => (.error f, x)
        | .ok (some n) => x.readSized n .response
        | .ok none => x.readUntilClosed

/-! ### Sending -/

/-- Writes bytes through the session. -/
def send (x : Port σ) (bytes : Bytes) : Except Fault Unit × Port σ :=
  let (r, session) := x.session.writeAll x.ctx.limits.writeSize bytes
  (r, { x with session })

/-- Puts a head together and writes it, then a body. -/
def sendParts (x : Port σ) (head body : Bytes) : Except Fault Unit × Port σ :=
  let x := x.mapContext (·.packHead head)
  match x.send x.ctx.wbuf with
  | (.error f, x) => (.error f, x)
  | (.ok (), x) => x.send body

/-- Writes the request. -/
def packRequest (x : Port σ) : Except Fault Unit × Port σ :=
  x.sendParts x.ctx.request.view.head x.ctx.request.body

/-- Writes the response, or its head only. -/
def packResponse (x : Port σ) (headOnly : Bool) : Except Fault Unit × Port σ :=
  x.sendParts x.ctx.response.head (if headOnly then [] else x.ctx.response.body)

/-- Writes the interim response that asks for the body. -/
def packContinue (x : Port σ) : Except Fault Unit × Port σ :=
  let x := x.mapContext (·.packHead (Response.interim x.ctx.request.version).head)
  x.send x.ctx.wbuf

end Port
end Switchboard.Exchange
