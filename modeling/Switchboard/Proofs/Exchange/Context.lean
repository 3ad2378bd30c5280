import Switchboard.Exchange.Context
import Switchboard.Proofs.Exchange.Bounds
import Switchboard.Proofs.Http.Chunk.Machine

/-!
A context does what its slot does. The registers are sound (`Context.Sound`) when the parts of the target are those of the
target, the machine is sound, and the scratch area is of the size that reads have. Then each operation on the context
comes to what it comes to on the slot that the registers stand for, and leaves the registers sound (`Port.Follows`). A
reset makes registers sound that hold anything at all, so long as the scratch area has its size (`sound_reset`).
-/

namespace Switchboard.Exchange

open Http

/-! ## Registers -/

namespace RequestRegisters

/-- The parts of the target are those of the target. -/
structure Sound (r : RequestRegisters) : Prop where
  path : r.path = (Target.ofText r.url).path
  rawQuery : r.rawQuery = (Target.ofText r.url).rawQuery
  query : r.query = (Target.ofText r.url).query
  fragment : r.fragment = (Target.ofText r.url).fragment

theorem clear_eq (r : RequestRegisters) : r.clear = new := rfl

theorem sound_new : new.Sound := by
  constructor <;> decide +kernel

theorem view_ofRequest (r : Request) : (ofRequest r).view = r := rfl

theorem sound_setTarget (r : RequestRegisters) (url : String) : (r.setTarget url).Sound := ⟨rfl, rfl, rfl, rfl⟩

end RequestRegisters

namespace Context

/-- The registers of a context hold what its operations rely on. -/
structure Sound (c : Context) : Prop where
  request : c.request.Sound
  chunk : c.chunk.Sound
  scratch : c.scratch.length = c.limits.readSize

variable {c : Context}

theorem slot_new (l : Limits) : (new l).slot = .new l := rfl

/-- Whatever the registers held, after a reset they stand for the slot that a reset leaves. -/
theorem slot_reset (c : Context) : c.reset.slot = c.slot.reset := rfl

theorem slot_put (c : Context) (s : Slot) : (c.put s).slot = s := by
  have hdecoder : (c.put s).chunk.view = s.decoder := by
    unfold put
    dsimp only
    split
    · exact (‹s.decoder = c.chunk.view›).symm
    · exact Chunk.Machine.view_ofDecoder s.decoder
  rw [slot, hdecoder]
  rfl

theorem sound_new (l : Limits) : (new l).Sound :=
  ⟨RequestRegisters.sound_new, Chunk.Machine.sound_new _ _, List.length_replicate⟩

theorem sound_reset (h : c.scratch.length = c.limits.readSize) : c.reset.Sound :=
  ⟨RequestRegisters.sound_new, Chunk.Machine.sound_reset c.chunk, h⟩

theorem slot_deliver (c : Context) (dir : Direction) (data : Bytes) (trailers : List Field) :
    (c.deliver dir data trailers).slot = c.slot.deliver dir data trailers := by
  cases dir <;> rfl

theorem Sound.deliver (h : c.Sound) (dir : Direction) (data : Bytes) (trailers : List Field) :
    (c.deliver dir data trailers).Sound := by
  obtain ⟨hrequest, hchunk, hscratch⟩ := h
  cases dir with
  | request => exact ⟨⟨hrequest.path, hrequest.rawQuery, hrequest.query, hrequest.fragment⟩, hchunk, hscratch⟩
  | response => exact ⟨hrequest, hchunk, hscratch⟩

/-- Decoding goes as it does in the slot. -/
theorem parseChunk_slot (h : c.Sound) (dir : Direction) (input : Bytes) :
    (c.parseChunk dir input).2.Sound ∧
      c.slot.decodeChunks dir input = ((c.parseChunk dir input).1, (c.parseChunk dir input).2.slot) := by
  have hagrees := Chunk.Machine.decode_view h.chunk input
  have hdeliver := h.deliver dir (c.chunk.decode input).data.toList (c.chunk.decode input).fields.toList
  refine ⟨⟨hdeliver.request, hagrees.sound, hdeliver.scratch⟩, ?_⟩
  have hslot : (c.parseChunk dir input).2.slot =
      { (c.deliver dir (c.chunk.decode input).data.toList (c.chunk.decode input).fields.toList).slot with
        decoder := (c.chunk.decode input).machine.view } := rfl
  refine Prod.ext hagrees.result.symm ?_
  rw [hslot, slot_deliver, hagrees.data, hagrees.fields, hagrees.decoder]
  rfl

/-! ## Heads -/

theorem openRequest_slot (h : c.Sound) (head : Bytes) :
    (c.openRequest head).2.Sound ∧
      c.slot.openRequest head = ((c.openRequest head).1, (c.openRequest head).2.slot) := by
  have hlimits : c.slot.limits = c.limits := rfl
  unfold openRequest Slot.openRequest
  rw [hlimits]
  rcases Head.parse head c.limits.maxHeader.toNat with f | ⟨line, fields⟩
  · exact ⟨h, rfl⟩
  dsimp only
  rcases RequestLine.parse line c.limits.maxUrl.toNat with f | r
  · exact ⟨h, rfl⟩
  dsimp only
  split
  · exact ⟨⟨⟨rfl, rfl, rfl, rfl⟩, h.chunk, h.scratch⟩, rfl⟩
  rcases (if fields.isChunked then .ok none else fields.contentLength : Except Fault (Option Nat)) with f | n
  · exact ⟨⟨⟨rfl, rfl, rfl, rfl⟩, h.chunk, h.scratch⟩, rfl⟩
  · exact ⟨⟨⟨rfl, rfl, rfl, rfl⟩, h.chunk, h.scratch⟩, rfl⟩

theorem openResponse_slot (h : c.Sound) (head : Bytes) :
    (c.openResponse head).2.Sound ∧
      c.slot.openResponse head = ((c.openResponse head).1, (c.openResponse head).2.slot) := by
  refine ⟨⟨h.request, h.chunk, h.scratch⟩, Prod.ext rfl ?_⟩
  show (c.slot.openResponse head).2 = { c.slot with response := (c.slot.openResponse head).2.response }
  unfold Slot.openResponse
  rcases Head.parse head c.slot.limits.maxHeader.toNat with f | ⟨line, fields⟩
  · rfl
  dsimp only
  rcases StatusLine.parse line with f | r <;> rfl

end Context

/-! ## Operations -/

/-- What comes of an operation on a port is what comes of the one on its link, and the registers are sound. -/
inductive Port.Follows {σ α : Type} : Except Fault α × Port σ → Except Fault α × Link σ → Prop where
  | intro (r : Except Fault α) {x : Port σ} (h : x.ctx.Sound) : Follows (r, x) (r, x.link)

theorem Port.Follows.same {σ α : Type} {r : Except Fault α × Port σ} {r' : Except Fault α × Link σ}
    (h : Follows r r') : r.2.ctx.Sound ∧ r' = (r.1, r.2.link) := by
  obtain ⟨r, h⟩ := h
  exact ⟨h, rfl⟩

/-- What a test says about a context is what it says about the slot, and leaves sound registers. -/
def Verdict.Matches {α : Type} (v : Verdict Context α) (v' : Verdict Slot α) : Prop :=
  match v with
  | .done a c => c.Sound ∧ v' = .done a c.slot
  | .failed f c => c.Sound ∧ v' = .failed f c.slot
  | .more c => c.Sound ∧ v' = .more c.slot

/-- A test changes nothing of the slot but the bytes that were received. -/
def OnBuffer {α : Type} (test : Slot → Verdict Slot α) : Prop :=
  ∀ s, (test s).slot = { s with buffer := (test s).slot.buffer }

theorem onBuffer_headTest (dir : Direction) : OnBuffer (headTest dir) := by
  intro s
  rcases headTest_cases dir s with ⟨head, rest, -, h⟩ | ⟨-, ⟨f, -, -, h⟩ | ⟨f, line, rest, -, -, h⟩ | h⟩ <;> rw [h] <;> rfl

theorem onBuffer_sizedTest (n : Nat) : OnBuffer (sizedTest n) := by
  intro s
  unfold sizedTest
  split <;> rfl

theorem onBuffer_untilClosedTest : OnBuffer untilClosedTest := by
  intro s
  unfold untilClosedTest
  split <;> rfl

namespace Context

variable {c : Context} {α : Type}

theorem matches_onBuffer {test : Slot → Verdict Slot α} (htest : OnBuffer test) (h : c.Sound) :
    (c.onBuffer test).Matches (test c.slot) := by
  have hs := htest c.slot
  have hbuffer : ∀ b, { c with rbuf := b }.Sound := fun _ => ⟨h.request, h.chunk, h.scratch⟩
  unfold onBuffer
  cases ht : test c.slot <;> rw [ht] at hs
  · exact ⟨hbuffer _, congrArg _ hs⟩
  · exact ⟨hbuffer _, congrArg _ hs⟩
  · exact ⟨hbuffer _, congrArg _ hs⟩

theorem matches_decodeTest (dir : Direction) (h : c.Sound) : (c.decodeTest dir).Matches (chunkTest dir c.slot) := by
  obtain ⟨hsound, hslot⟩ := parseChunk_slot h dir c.rbuf
  unfold decodeTest chunkTest
  rw [show c.slot.buffer = c.rbuf from rfl, hslot]
  generalize c.parseChunk dir c.rbuf = p at hsound ⊢
  obtain ⟨f | n, t⟩ := p
  · exact ⟨hsound, rfl⟩
  · have hend : t.slot.decoder.isFinished = t.chunk.finished := hsound.chunk.isFinished
    have hdrop : { t with rbuf := t.rbuf.drop n }.Sound := ⟨hsound.request, hsound.chunk, hsound.scratch⟩
    dsimp only
    rw [hend]
    split
    · exact ⟨hdrop, rfl⟩
    · exact ⟨hdrop, rfl⟩

end Context

namespace Port

variable {σ : Type} [Transport σ] {x : Port σ} {α : Type}

/-- The bytes that a read gives are received through the scratch area, which keeps its size. -/
theorem receive_slot {c : Context} (h : c.Sound) {bytes : Bytes} (hle : bytes.length ≤ c.scratch.length) :
    (c.receive bytes).Sound ∧ (c.receive bytes).slot = c.slot.addPending bytes := by
  have htake : (bytes ++ c.scratch.drop bytes.length).take bytes.length = bytes := List.take_left
  have hsize : (bytes ++ c.scratch.drop bytes.length).length = c.scratch.length := by
    rw [List.length_append, List.length_drop]
    omega
  refine ⟨⟨h.request, h.chunk, hsize.trans h.scratch⟩, ?_⟩
  have hrbuf : (c.receive bytes).rbuf = c.rbuf ++ bytes := congrArg (c.rbuf ++ ·) htake
  rw [Context.slot, hrbuf]
  rfl

theorem follows_fill (h : x.ctx.Sound) : Follows x.fill x.link.fill := by
  have hsize : x.link.slot.limits.readSize = x.ctx.scratch.length := h.scratch.symm
  have hsession : x.link.session = x.session := rfl
  unfold fill Link.fill
  rw [hsize, hsession]
  rcases hr : x.session.read x.ctx.scratch.length with ⟨f | _ | ⟨b, bytes⟩, session⟩
  · exact .intro _ h
  · exact .intro _ h
  · have hbound := (Session.read_bound (congrArg Prod.fst hr)).1
    obtain ⟨hsound, hslot⟩ := receive_slot h hbound
    have hnext := Follows.intro (Except.ok ()) (x := ⟨x.ctx.receive (b :: bytes), session⟩) hsound
    rwa [link, hslot] at hnext

theorem follows_pump {test : Context → Verdict Context α} {test' : Slot → Verdict Slot α}
    (htest : ∀ c : Context, c.Sound → (test c).Matches (test' c.slot)) (h : x.ctx.Sound) :
    Follows (x.pump test) (x.link.pump test') := by
  fun_induction pump test x with
  | case1 x a ctx ht =>
    have hmatches := htest x.ctx h
    rw [ht] at hmatches
    rw [Link.pump_done hmatches.2]
    exact .intro _ hmatches.1
  | case2 x f ctx ht =>
    have hmatches := htest x.ctx h
    rw [ht] at hmatches
    rw [Link.pump_failed hmatches.2]
    exact .intro _ hmatches.1
  | case3 x ctx ht f y hfill =>
    have hmatches := htest x.ctx h
    rw [ht] at hmatches
    have hnext := follows_fill (x := { x with ctx }) hmatches.1
    rw [hfill] at hnext
    obtain ⟨hsound, hsame⟩ := hnext.same
    rw [Link.pump_more_error hmatches.2 hsame]
    exact .intro _ hsound
  | case4 x ctx ht y hfill ih =>
    have hmatches := htest x.ctx h
    rw [ht] at hmatches
    have hnext := follows_fill (x := { x with ctx }) hmatches.1
    rw [hfill] at hnext
    obtain ⟨hsound, hsame⟩ := hnext.same
    rw [Link.pump_more_ok hmatches.2 hsame]
    exact ih hsound

/-! ### Receiving -/

theorem follows_readChunked (dir : Direction) (h : x.ctx.Sound) :
    Follows (x.readChunked dir) (x.link.readChunked dir) :=
  follows_pump (fun _ => Context.matches_decodeTest dir)
    (x := x.mapContext fun c => { c with chunk := c.chunk.start })
    ⟨h.request, Chunk.Machine.sound_start x.ctx.chunk, h.scratch⟩

theorem follows_readSized (n : Nat) (dir : Direction) (h : x.ctx.Sound) :
    Follows (x.readSized n dir) (x.link.readSized n dir) := by
  have hlimits : x.link.slot.limits = x.ctx.limits := rfl
  have hpump := follows_pump (fun _ => Context.matches_onBuffer (onBuffer_sizedTest n)) h
  unfold readSized Link.readSized
  rw [hlimits]
  split
  · exact .intro _ h
  generalize x.pump (Context.onBuffer (sizedTest n)) = p, x.link.pump (sizedTest n) = q at hpump ⊢
  obtain @⟨r, y, hy⟩ := hpump
  rcases r with f | data
  · exact .intro _ hy
  · have hdelivered := Follows.intro (Except.ok ()) (x := y.mapContext (·.deliver dir data [])) (hy.deliver dir data [])
    rwa [link, mapContext, Context.slot_deliver] at hdelivered

theorem follows_readUntilClosed (h : x.ctx.Sound) : Follows x.readUntilClosed x.link.readUntilClosed := by
  have hpump := follows_pump (fun _ => Context.matches_onBuffer onBuffer_untilClosedTest) h
  unfold readUntilClosed Link.readUntilClosed
  generalize x.pump (Context.onBuffer untilClosedTest) = p, x.link.pump untilClosedTest = q at hpump ⊢
  obtain @⟨r, y, hy⟩ := hpump
  by_cases hr : r = .error .closed
  · rw [hr]
    exact .intro _ (x := y.mapContext fun c => { c.deliver .response c.rbuf [] with rbuf := [] })
      ⟨hy.request, hy.chunk, hy.scratch⟩
  · rcases r with f | _
    · cases f <;> first | exact absurd rfl hr | exact .intro _ hy
    · exact .intro _ hy

theorem follows_readBody (h : x.ctx.Sound) : Follows x.readBody x.link.readBody := by
  have hchunked : x.link.slot.request.isChunked = x.ctx.request.fields.isChunked := rfl
  have hlength : x.link.slot.request.contentLength = x.ctx.request.fields.contentLength := rfl
  unfold readBody Link.readBody
  rw [hchunked, hlength]
  split
  · exact follows_readChunked .request h
  rcases x.ctx.request.fields.contentLength with f | _ | n
  · exact .intro _ h
  · exact .intro _ h
  · exact follows_readSized n .request h

theorem follows_parseRequest (h : x.ctx.Sound) : Follows x.parseRequest x.link.readRequest := by
  have hclear : Context.Sound { x.ctx with request := x.ctx.request.clear, chunk := x.ctx.chunk.reset } :=
    ⟨RequestRegisters.sound_new, Chunk.Machine.sound_reset x.ctx.chunk, h.scratch⟩
  have hpump := follows_pump (fun _ => Context.matches_onBuffer (onBuffer_headTest .request))
    (x := x.mapContext fun c => { c with request := c.request.clear, chunk := c.chunk.reset }) hclear
  have hlink : (x.mapContext fun c => { c with request := c.request.clear, chunk := c.chunk.reset }).link =
      x.link.mapSlot fun s => { s with request := .cleared, decoder := s.decoder.reset } := rfl
  unfold parseRequest Link.readRequest
  dsimp only
  rw [← hlink]
  generalize pump (σ := σ) (Context.onBuffer (headTest .request)) _ = p, Link.pump (σ := σ) (headTest .request) _ = q at hpump ⊢
  obtain @⟨r, y, hy⟩ := hpump
  rcases r with f | head
  · exact .intro _ hy
  have hopen := Context.openRequest_slot hy head
  dsimp only
  rw [show y.link.slot = y.ctx.slot from rfl, hopen.2]
  have hsound := hopen.1
  generalize y.ctx.openRequest head = opened at hsound ⊢
  obtain ⟨f | _, ctx⟩ := opened
  · exact .intro _ (x := { y with ctx }) hsound
  · have hexpect : ctx.slot.request.expectContinue = ctx.request.expectContinue := rfl
    dsimp only
    rw [hexpect]
    split
    · exact .intro _ (x := { y with ctx }) hsound
    · exact follows_readBody (x := { y with ctx }) hsound

theorem follows_parseResponse (toHead : Bool) (h : x.ctx.Sound) :
    Follows (x.parseResponse toHead) (x.link.readResponse toHead) := by
  have hclear : Context.Sound { x.ctx with response := x.ctx.response.clear, chunk := x.ctx.chunk.reset } :=
    ⟨h.request, Chunk.Machine.sound_reset x.ctx.chunk, h.scratch⟩
  have hpump := follows_pump (fun _ => Context.matches_onBuffer (onBuffer_headTest .response))
    (x := x.mapContext fun c => { c with response := c.response.clear, chunk := c.chunk.reset }) hclear
  have hlink : (x.mapContext fun c => { c with response := c.response.clear, chunk := c.chunk.reset }).link =
      x.link.mapSlot fun s => { s with response := .cleared, decoder := s.decoder.reset } := rfl
  unfold parseResponse Link.readResponse
  dsimp only
  rw [← hlink]
  generalize pump (σ := σ) (Context.onBuffer (headTest .response)) _ = p, Link.pump (σ := σ) (headTest .response) _ = q at hpump ⊢
  obtain @⟨r, y, hy⟩ := hpump
  rcases r with f | head
  · exact .intro _ hy
  have hopen := Context.openResponse_slot hy head
  dsimp only
  rw [show y.link.slot = y.ctx.slot from rfl, hopen.2]
  have hsound := hopen.1
  generalize y.ctx.openResponse head = opened at hsound ⊢
  obtain ⟨f | _, ctx⟩ := opened
  · exact .intro _ (x := { y with ctx }) hsound
  have hresponse : ctx.slot.response = ctx.response := rfl
  dsimp only
  rw [hresponse]
  split
  · exact .intro _ (x := { y with ctx }) hsound
  split
  · exact follows_readChunked .response (x := { y with ctx }) hsound
  rcases ctx.response.contentLength with f | _ | n
  · exact .intro _ (x := { y with ctx }) hsound
  · exact follows_readUntilClosed (x := { y with ctx }) hsound
  · exact follows_readSized n .response (x := { y with ctx }) hsound

/-! ### Sending -/

theorem send_link (x : Port σ) (bytes : Bytes) : x.link.send bytes = ((x.send bytes).1, (x.send bytes).2.link) := rfl

theorem ctx_send (x : Port σ) (bytes : Bytes) : (x.send bytes).2.ctx = x.ctx := rfl

/-- Sending needs no more of the registers than that they stand for what is sent. -/
theorem sendParts_link (x : Port σ) (head body : Bytes) :
    x.link.sendParts head body = ((x.sendParts head body).1, (x.sendParts head body).2.link) ∧
      (x.sendParts head body).2.ctx = x.ctx.packHead head := by
  have hlink : (x.mapContext (·.packHead head)).link = x.link := rfl
  have hwbuf : (x.mapContext (·.packHead head)).ctx.wbuf = head := rfl
  have hctx := ctx_send (x.mapContext (·.packHead head)) head
  unfold sendParts Link.sendParts
  dsimp only
  rw [hwbuf, ← hlink, send_link]
  generalize send (σ := σ) _ head = p at hctx ⊢
  obtain ⟨f | _, y⟩ := p
  · exact ⟨rfl, hctx⟩
  · exact ⟨send_link y body, (ctx_send y body).trans hctx⟩

theorem sound_packHead {c : Context} (h : c.Sound) (head : Bytes) : (c.packHead head).Sound :=
  ⟨h.request, h.chunk, h.scratch⟩

theorem follows_sendParts (h : x.ctx.Sound) (head body : Bytes) :
    Follows (x.sendParts head body) (x.link.sendParts head body) := by
  obtain ⟨hlink, hctx⟩ := sendParts_link x head body
  rw [hlink]
  exact .intro _ (hctx ▸ sound_packHead h head)

theorem follows_packRequest (h : x.ctx.Sound) : Follows x.packRequest x.link.sendRequest :=
  follows_sendParts h x.ctx.request.view.head x.ctx.request.body

theorem follows_packResponse (headOnly : Bool) (h : x.ctx.Sound) :
    Follows (x.packResponse headOnly) (x.link.sendResponse headOnly) :=
  follows_sendParts h x.ctx.response.head (if headOnly then [] else x.ctx.response.body)

theorem follows_packContinue (h : x.ctx.Sound) : Follows x.packContinue x.link.sendContinue :=
  .intro _ (x := x.packContinue.2) (sound_packHead h _)

end Port
end Switchboard.Exchange
