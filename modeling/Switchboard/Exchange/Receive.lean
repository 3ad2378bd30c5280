import Switchboard.Exchange.Session
import Switchboard.Exchange.Slot
import Switchboard.Http.Head

/-!
Receiving messages. All reading is one loop: a test looks at the slot and says whether it is done, has failed
or needs more bytes, and the loop fills the buffer until the test is satisfied. The bytes that the transport
can still supply bound the loop. A failure leaves the slot and the session as they were found at that point.
-/

namespace Switchboard.Exchange

open Http

/-- A slot with the session that it is served through. -/
structure Link (σ : Type) where
  slot : Slot
  session : Session σ

/-- What a test says about a slot, or about whatever else holds the bytes that were received. -/
inductive Verdict (S α : Type) where
  /-- The test is satisfied. -/
  | done (a : α) (store : S)
  /-- No more bytes can help. -/
  | failed (f : Fault) (store : S)
  /-- More bytes are needed. -/
  | more (store : S)

namespace Link

variable {σ : Type} [Transport σ]

/-- Reads once into the buffer; the end of the stream is a failure. -/
def fill (x : Link σ) : Except Fault Unit × Link σ :=
  match x.session.read x.slot.limits.readSize with
  | (.error f, session) => (.error f, { x with session })
  | (.ok [], session) => (.error .closed, { x with session })
  | (.ok bytes, session) => (.ok (), { slot := x.slot.addPending bytes, session })

/-- The bytes that can still be read. -/
def supply (x : Link σ) : Nat := x.session.supply

theorem supply_fill {x : Link σ} (h : x.fill.1 = .ok ()) : x.fill.2.supply < x.supply := by
  unfold fill at *
  split at h <;> try contradiction
  next bytes session hne he =>
    have hb := @Session.read_bound σ _ x.session x.slot.limits.readSize bytes (by rw [he])
    rw [he] at hb
    have hpos : 0 < bytes.length := List.length_pos_iff.2 hne
    simp only [supply, he] at *
    omega

/-- Fills the buffer until the test is satisfied or fails. -/
def pump {α : Type} (test : Slot → Verdict Slot α) (x : Link σ) : Except Fault α × Link σ :=
  match test x.slot with
  | .done a slot => (.ok a, { x with slot })
  | .failed f slot => (.error f, { x with slot })
  | .more slot =>
    match _h : fill { x with slot } with
    | (.error f, x) => (.error f, x)
    | (.ok (), next) => pump test next
termination_by x.supply
decreasing_by
  have := supply_fill (x := { x with slot }) (by rw [_h])
  rw [_h] at this
  exact this

end Link

/-- Asks for more, unless so many bytes are past a bound; a bound that is not a machine word cannot be compared with. -/
def Slot.within {α : Type} (s : Slot) (bound : Option Nat) (held : Nat) (f : Fault) : Verdict Slot α :=
  match bound with
  | none => .failed .overflow s
  | some n => if held > n then .failed f s else .more s

/-- Looks for a complete head at the front of the buffer, blank lines before it skipped. Without one, a line
that is too long or a section that is too long cannot become a head any more. -/
def headTest (dir : Direction) (s : Slot) : Verdict Slot Bytes :=
  let s := { s with buffer := Head.dropBlankLines s.buffer }
  match Head.split? s.buffer with
  | some (head, rest) => .done head { s with buffer := rest }
  | none =>
    match Head.splitLine? s.buffer, dir with
    | none, .request =>
      s.within s.limits.lineBound? s.buffer.length (.urlTooLong s.limits.maxUrl.toNat)
    | none, .response =>
      s.within (some s.limits.maxHeader.toNat) s.buffer.length (.headerTooLarge s.limits.maxHeader.toNat)
    | some (line, _), _ =>
      s.within s.limits.sectionBound? (s.buffer.length - line.length)
        (.headerTooLarge s.limits.maxHeader.toNat)

/-- Decodes the whole buffer as part of a chunked body. A buffer with a refused byte stays as it is. -/
def chunkTest (dir : Direction) (s : Slot) : Verdict Slot Unit :=
  match s.decodeChunks dir s.buffer with
  | (.error f, s) => .failed f s
  | (.ok n, s) =>
    let s := { s with buffer := s.buffer.drop n }
    if s.decoder.isFinished then .done () s else .more s

/-- Takes so many bytes from the front of the buffer. -/
def sizedTest (n : Nat) (s : Slot) : Verdict Slot Bytes :=
  if s.buffer.length < n then .more s
  else .done (s.buffer.take n) { s with buffer := s.buffer.drop n }

/-- Asks for more until the stream ends or the body is too large. -/
def untilClosedTest (s : Slot) : Verdict Slot Unit :=
  if s.buffer.length > s.limits.maxBody.toNat then
    .failed (.bodyTooLarge s.limits.maxBody.toNat) s
  else .more s

/-- Reads the head of a request into the slot, as far as it is well formed: its first line and fields, then
the framing of the body and the wish for a go-ahead. -/
def Slot.openRequest (s : Slot) (head : Bytes) : Except Fault Unit × Slot :=
  match Head.parse head s.limits.maxHeader.toNat with
  | .error f => (.error f, s)
  | .ok (line, fields) =>
    match RequestLine.parse line s.limits.maxUrl.toNat with
    | .error f => (.error f, s)
    | .ok r =>
      let request : Request :=
        { s.request with method := r.method, version := r.version, target := r.target, fields }
      let s := { s with request }
      if fields.contains "Transfer-Encoding" && !fields.isChunked then
        (.error .transferCoding, s)
      else
        match if fields.isChunked then .ok none else fields.contentLength with
        | .error f => (.error f, s)
        | .ok _ =>
          let expect := fields.hasToken "Expect" "100-continue"
          (.ok (), { s with request := { request with expectContinue := expect } })

/-- Reads the head of a response into the slot. A reason that the table would give anyway is not kept. -/
def Slot.openResponse (s : Slot) (head : Bytes) : Except Fault Unit × Slot :=
  match Head.parse head s.limits.maxHeader.toNat with
  | .error f => (.error f, s)
  | .ok (line, fields) =>
    match StatusLine.parse line with
    | .error f => (.error f, s)
    | .ok r =>
      let customReason := r.reason.filter (· != r.status.phrase)
      let response : Response :=
        { s.response with version := r.version, status := r.status, customReason, fields }
      (.ok (), { s with response })

namespace Link

variable {σ : Type} [Transport σ]

/-- Applies a function to the slot. -/
def mapSlot (x : Link σ) (f : Slot → Slot) : Link σ := { x with slot := f x.slot }

/-- Reads a chunked body with its trailer fields. -/
def readChunked (dir : Direction) (x : Link σ) : Except Fault Unit × Link σ :=
  (x.mapSlot fun s => { s with decoder := s.decoder.start }).pump (chunkTest dir)

/-- Reads a body of a given length, which must not exceed its limit. -/
def readSized (n : Nat) (dir : Direction) (x : Link σ) : Except Fault Unit × Link σ :=
  if n > x.slot.limits.maxBody.toNat then
    (.error (.bodyTooLarge x.slot.limits.maxBody.toNat), x)
  else
    match x.pump (sizedTest n) with
    | (.error f, x) => (.error f, x)
    | (.ok data, x) => (.ok (), x.mapSlot (·.deliver dir data []))

/-- Reads a body that ends with the stream. -/
def readUntilClosed (x : Link σ) : Except Fault Unit × Link σ :=
  match x.pump untilClosedTest with
  | (.error .closed, x) =>
    (.ok (), x.mapSlot fun s => { s.deliver .response s.buffer [] with buffer := [] })
  | r => r

/-- Reads the body that the head of the request announces. -/
def readBody (x : Link σ) : Except Fault Unit × Link σ :=
  if x.slot.request.isChunked then x.readChunked .request
  else
    match x.slot.request.contentLength with
    | .error f => (.error f, x)
    | .ok none => (.ok (), x)
    | .ok (some n) => x.readSized n .request

/-- Reads a request. The body is left unread when the client waits for a go-ahead. -/
def readRequest (x : Link σ) : Except Fault Unit × Link σ :=
  let x := x.mapSlot fun s => { s with request := .cleared, decoder := s.decoder.reset }
  match x.pump (headTest .request) with
  | (.error f, x) => (.error f, x)
  | (.ok head, x) =>
    match x.slot.openRequest head with
    | (.error f, slot) => (.error f, { x with slot })
    | (.ok (), slot) =>
      if slot.request.expectContinue then (.ok (), { x with slot })
      else readBody { x with slot }

/-- A response to this request method with this status has no body, whatever its fields say. -/
def isBodiless (toHead : Bool) (s : Status) : Bool :=
  toHead || s.isInformational || s.code == 204 || s.code == 304

/-- Reads a response; `toHead` says that it answers a request for the head only. -/
def readResponse (toHead : Bool) (x : Link σ) : Except Fault Unit × Link σ :=
  let x := x.mapSlot fun s => { s with response := .cleared, decoder := s.decoder.reset }
  match x.pump (headTest .response) with
  | (.error f, x) => (.error f, x)
  | (.ok head, x) =>
    match x.slot.openResponse head with
    | (.error f, slot) => (.error f, { x with slot })
    | (.ok (), slot) =>
      let x := { x with slot }
      if isBodiless toHead slot.response.status then (.ok (), x)
      else if slot.response.isChunked then x.readChunked .response
      else
        match slot.response.contentLength with
        | .error f => (.error f, x)
        | .ok (some n) => x.readSized n .response
        | .ok none => x.readUntilClosed

end Link
end Switchboard.Exchange
