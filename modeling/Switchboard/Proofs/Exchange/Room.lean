import Switchboard.Proofs.Exchange.Segmentation
import Switchboard.Proofs.Exchange.Watch
import Switchboard.Proofs.Http.Chunk.Bounds

/-!
How much a reader of requests holds at a time. Each test of a loop comes before the next read, so a buffer may go past
the bound of its test by the bytes of one read. The head is bounded in two parts, the first line and what comes after
it; a body is decoded or counted as it comes. All that is ever in the buffer, and all of the body, is within the room
that the limits give (`watchRequest_sees`, `watchBody_sees`), and what a request leaves behind it is no more than one
read (`ReadInRoom`), so that the next one starts like the first.
-/

namespace Switchboard.Exchange

open Http

/-- The bytes that the buffer may come to hold. -/
def bufferRoom (l : Limits) : Nat :=
  max (l.maxUrl.toNat + l.maxHeader.toNat + 36 + 2 * l.readSize) (l.maxBody.toNat + l.readSize)

/-- A slot within the room that the limits give. -/
structure InRoom (l : Limits) (s : Slot) : Prop where
  buffer : s.buffer.length ≤ bufferRoom l
  body : s.request.body.length ≤ l.maxBody.toNat

/-- A slot with a request that was read: the target is within its limit, and the bytes past the request are no more than
one read gives. -/
structure ReadInRoom (l : Limits) (s : Slot) : Prop where
  target : Text.byteLength s.request.target ≤ l.maxUrl.toNat
  buffer : s.buffer.length ≤ l.readSize

/-- A slot works under these limits, and so does its decoder. -/
structure Slot.Under (l : Limits) (s : Slot) : Prop where
  limits : s.limits = l
  maxBody : s.decoder.maxBody = l.maxBody.toNat

theorem Slot.under_of_reset {l : Limits} {s : Slot} (h : s.reset = Slot.new l) : s.Under l where
  limits := congrArg Slot.limits h
  maxBody := congrArg (fun t => t.decoder.maxBody) h

/-! ## Heads -/

section Heads

variable {l : Limits} {a piece : Bytes}

/-- The beginning of a head that the test lets grow: the first line is within its bound until it has ended, and the
bytes from its end on are within theirs after that. When the line has ended, it did so within one read. -/
structure Growing (l : Limits) (a : Bytes) : Prop where
  trimmed : Head.dropBlankLines a = a
  headless : Head.split? a = none
  unended : Head.splitLine? a = none → a.length < lineRoom l .request
  ended : ∀ line rest, Head.splitLine? a = some (line, rest) →
    a.length - line.length < sectionRoom l ∧ line.length + 2 < lineRoom l .request + l.readSize

theorem growing_nil (hroom : 0 < lineRoom l .request) : Growing l [] :=
  ⟨rfl, rfl, fun _ => hroom, fun _ _ h => absurd h (by simp [Head.splitLine?])⟩

theorem Growing.length_le (h : Growing l a) (hurl : l.maxUrl.toNat < 2 ^ 62) (hheader : l.maxHeader.toNat < 2 ^ 62) :
    a.length ≤ l.maxUrl.toNat + l.maxHeader.toNat + 36 + l.readSize := by
  have hline := lineRoom_of_lt (l := l) (by omega)
  have hsection := sectionRoom_of_lt (l := l) (by omega)
  rcases hs : Head.splitLine? a with _ | ⟨line, rest⟩
  · have := h.unended hs
    omega
  · have := h.ended line rest hs
    omega

theorem length_dropBlankLines_le (a : Bytes) : (Head.dropBlankLines a).length ≤ a.length := by
  obtain ⟨blanks, ha, -⟩ := Head.exists_blankLines a
  have hlen := congrArg List.length ha
  rw [List.length_append] at hlen
  omega

/-- Two bytes of a head stay at its front. -/
theorem Growing.dropBlankLines_append (h : Growing l a) (hlen : 2 ≤ a.length) (piece : Bytes) :
    Head.dropBlankLines (a ++ piece) = a ++ piece := by
  have hlen : 2 ≤ (Head.dropBlankLines a).length := by
    rw [h.trimmed]
    exact hlen
  rw [Head.dropBlankLines_append_of_le hlen, h.trimmed]

/-- What comes after the head is part of the last read. -/
theorem Growing.rest_le (h : Growing l a) {head rest : Bytes}
    (hs : Head.split? (Head.dropBlankLines (a ++ piece)) = some (head, rest)) : rest.length ≤ piece.length := by
  have hlen := congrArg List.length (Head.split?_eq_some hs)
  rw [List.length_append] at hlen
  by_cases ha : 2 ≤ a.length
  · rw [h.dropBlankLines_append ha] at hs hlen
    have := Head.length_lt_of_split? h.headless hs
    rw [List.length_append] at hlen
    omega
  · -- a head is longer than what was there before the read
    obtain ⟨u, rfl, -⟩ := Head.cut?_of_split? hs
    have hle := length_dropBlankLines_le (a ++ piece)
    simp only [List.length_append, Head.blankLine, List.length_cons, List.length_nil] at hlen hle
    omega

/-- A line that ends does so within the bound and one read. -/
theorem Growing.line_le (h : Growing l a) (hroom : 1 < lineRoom l .request) (hp : piece.length ≤ l.readSize)
    {line rest : Bytes} (hs : Head.splitLine? (Head.dropBlankLines (a ++ piece)) = some (line, rest)) :
    line.length + 2 < lineRoom l .request + l.readSize := by
  have hlen := congrArg List.length (Head.splitLine?_eq_some hs)
  have hle := length_dropBlankLines_le (a ++ piece)
  simp only [List.length_append, Text.crlf, List.length_cons, List.length_nil] at hlen hle
  by_cases ha : 2 ≤ a.length
  · rcases hl : Head.splitLine? a with _ | ⟨line', rest'⟩
    · have := h.unended hl
      omega
    · rw [h.dropBlankLines_append ha, Head.splitLine?_append hl piece] at hs
      obtain ⟨rfl, -⟩ := Prod.mk.inj (Option.some.inj hs)
      exact (h.ended _ _ hl).2
  · omega

/-- A head that grows by a read, and that the test lets grow further. -/
theorem Growing.append (h : Growing l a) (hroom : 1 < lineRoom l .request) (hp : piece.length ≤ l.readSize) {s s' : Slot}
    (hl : s.limits = l) (hb : s.buffer = a ++ piece) (ht : headTest .request s = .more s') :
    Growing l s'.buffer := by
  obtain ⟨hnone, rfl⟩ := headTest_of_more ht
  obtain ⟨hunended, hended⟩ := allows_of_more ht
  rw [hb] at hnone hunended hended
  rw [hl] at hunended hended
  show Growing l (Head.dropBlankLines s.buffer)
  rw [hb]
  refine ⟨?_, hnone, hunended, fun line rest hs => ⟨hended line rest hs, h.line_le hroom hp hs⟩⟩
  exact Head.dropBlankLines_of_no_crlf (Head.not_prefix_dropBlankLines _)

end Heads

/-! ## Reading a head -/

section Slots

variable {l : Limits} {s : Slot}

theorem readSize_le_bufferRoom (l : Limits) : l.readSize ≤ bufferRoom l :=
  Nat.le_trans (Nat.le_add_left _ _) (Nat.le_max_right _ _)

theorem InRoom.withBuffer (h : InRoom l s) {b : Bytes} (hb : b.length ≤ bufferRoom l) :
    InRoom l { s with buffer := b } := ⟨hb, h.body⟩

theorem Slot.Under.withBuffer (h : s.Under l) (b : Bytes) : Slot.Under l { s with buffer := b } :=
  ⟨h.limits, h.maxBody⟩

/-- A slot before a test for the head of a request: no body yet, and in the buffer the beginning of a head with the
bytes of one read. -/
structure Awaiting (l : Limits) (s : Slot) : Prop where
  under : s.Under l
  body : s.request.body = []
  buffer : ∃ a piece, s.buffer = a ++ piece ∧ piece.length ≤ l.readSize ∧ Growing l a

/-- A slot before its body is read: no body yet, and no more in the buffer than one read gives. -/
structure Fresh (l : Limits) (s : Slot) : Prop where
  under : s.Under l
  body : s.request.body = []
  buffer : s.buffer.length ≤ l.readSize

theorem Fresh.inRoom (h : Fresh l s) : InRoom l s :=
  ⟨Nat.le_trans h.buffer (readSize_le_bufferRoom l), by rw [h.body]; exact Nat.zero_le _⟩

theorem Fresh.awaiting (h : Fresh l s) (hurl : l.maxUrl.toNat < 2 ^ 62) : Awaiting l s := by
  have hroom : 0 < lineRoom l .request := by
    rw [lineRoom_of_lt (by omega)]
    omega
  exact ⟨h.under, h.body, [], s.buffer, rfl, h.buffer, growing_nil hroom⟩

theorem Awaiting.inRoom (h : Awaiting l s) (hurl : l.maxUrl.toNat < 2 ^ 62) (hheader : l.maxHeader.toNat < 2 ^ 62) :
    InRoom l s := by
  obtain ⟨a, piece, hb, hp, ha⟩ := h.buffer
  have hlen := ha.length_le hurl hheader
  refine ⟨?_, by rw [h.body]; exact Nat.zero_le _⟩
  rw [hb, List.length_append]
  refine Nat.le_trans ?_ (Nat.le_max_left _ _)
  omega

/-- Dropping blank lines stays within the room. -/
theorem InRoom.dropBlankLines (h : InRoom l s) : InRoom l { s with buffer := Head.dropBlankLines s.buffer } :=
  h.withBuffer (Nat.le_trans (length_dropBlankLines_le s.buffer) h.buffer)

end Slots

section Reading

variable {σ : Type} [Transport σ] {l : Limits} {x : Link σ}

/-- While the head of a request is looked for, all is within the room; past it, no more is left than one read gives. -/
theorem watchPump_headTest_sees (hurl : l.maxUrl.toNat < 2 ^ 62) (hheader : l.maxHeader.toNat < 2 ^ 62)
    (h : Awaiting l x.slot) :
    (∀ s ∈ (x.watchPump (headTest .request)).2, InRoom l s) ∧
      ∀ head y, (x.watchPump (headTest .request)).1 = (.ok head, y) → Fresh l y.slot := by
  refine Link.watchPump_sees _ _ _ _ (fun hs => hs.inRoom hurl hheader) ?_ ?_ ?_ h
  · intro s t head hs ht
    obtain ⟨rest, hsplit, rfl⟩ := headTest_of_done ht
    obtain ⟨a, piece, hb, hp, ha⟩ := hs.buffer
    rw [hb] at hsplit
    have hfresh : Fresh l { s with buffer := rest } :=
      ⟨hs.under.withBuffer rest, hs.body, Nat.le_trans (ha.rest_le hsplit) hp⟩
    exact ⟨hfresh.inRoom, hfresh⟩
  · intro s t f hs ht
    rcases headTest_cases .request s with ⟨_, _, -, hd⟩ | ⟨-, ⟨_, -, -, hd⟩ | ⟨_, _, _, -, -, hd⟩ | hd⟩ <;>
      rw [hd] at ht
    · exact absurd ht (by simp)
    · exact (Verdict.failed.inj ht).2 ▸ (hs.inRoom hurl hheader).dropBlankLines
    · exact (Verdict.failed.inj ht).2 ▸ (hs.inRoom hurl hheader).dropBlankLines
    · exact absurd ht (by simp)
  · intro s t hs ht
    obtain ⟨a, piece, hb, hp, ha⟩ := hs.buffer
    have hroom : 1 < lineRoom l .request := by
      rw [lineRoom_of_lt (by omega)]
      omega
    have hgrowing := ha.append hroom hp hs.under.limits hb ht
    obtain ⟨-, rfl⟩ := headTest_of_more ht
    refine ⟨(hs.inRoom hurl hheader).dropBlankLines, fun piece' hp' => ?_⟩
    have hp' : piece'.length ≤ s.limits.readSize := hp'
    rw [hs.under.limits] at hp'
    exact ⟨hs.under.withBuffer _, hs.body, _, piece', rfl, hp', hgrowing⟩

/-! ## Reading a body -/

/-- What reading a body leaves of the slot with the request `r`: the request, but for its body and its fields, and no
more in the buffer than one read gives. -/
structure LeavesLittle (l : Limits) (r : Request) (s : Slot) : Prop where
  request : s.request = { r with body := s.request.body, fields := s.request.fields }
  buffer : s.buffer.length ≤ l.readSize

/-- A slot before a test for a chunked body: the body is what the decoder has counted. -/
structure Unchunking (l : Limits) (r : Request) (s : Slot) : Prop where
  under : s.Under l
  decoder : s.decoder.InBounds
  body : s.request.body.length = s.decoder.total
  left : LeavesLittle l r s

section Chunks

variable {s : Slot} {r : Request}

theorem LeavesLittle.decoded (h : LeavesLittle l r s) (p : Chunk.Progress) :
    (s.decoded .request p).request =
      { r with body := (s.decoded .request p).request.body, fields := (s.decoded .request p).request.fields } := by
  show ({ s.request with body := _, fields := _ } : Request) = _
  rw [h.request]
  rfl

theorem Unchunking.inRoom (h : Unchunking l r s) : InRoom l s := by
  refine ⟨Nat.le_trans h.left.buffer (readSize_le_bufferRoom l), ?_⟩
  rw [h.body, ← h.under.maxBody]
  exact Nat.le_trans (Nat.le_add_right _ _) h.decoder.fits

/-- What the decoder gives stays within the limit for the body. -/
theorem Unchunking.inRoom_decoded (h : Unchunking l r s) :
    InRoom l (s.decoded .request (s.decoder.decode s.buffer)) := by
  have hle := Chunk.data_le_maxBody h.decoder s.buffer
  rw [h.under.maxBody, ← h.body, ← List.length_append] at hle
  exact ⟨Nat.le_trans h.left.buffer (readSize_le_bufferRoom l), hle⟩

/-- The body goes on with the bytes of a read. -/
theorem Unchunking.more (h : Unchunking l r s) (hf : (s.decoder.decode s.buffer).fault = none) {piece : Bytes}
    (hp : piece.length ≤ l.readSize) :
    Unchunking l r { s.decoded .request (s.decoder.decode s.buffer) with buffer := piece } := by
  obtain ⟨hd, htotal, hmax⟩ := Chunk.inBounds_decode h.decoder hf
  refine ⟨⟨h.under.limits, hmax.trans h.under.maxBody⟩, hd, ?_, h.left.decoded _, hp⟩
  show (s.request.body ++ (s.decoder.decode s.buffer).data).length = (s.decoder.decode s.buffer).decoder.total
  rw [List.length_append, h.body, htotal]

end Chunks

/-- A chunked body is decoded within the room. -/
theorem watchChunked_sees (h : Fresh l x.slot) :
    (∀ s ∈ (x.watchChunked .request).2, InRoom l s) ∧
      ∀ y, (x.watchChunked .request).1 = (.ok (), y) → LeavesLittle l x.slot.request y.slot := by
  have hstart : Unchunking l x.slot.request
      (x.mapSlot fun s => { s with decoder := s.decoder.start }).slot :=
    ⟨⟨h.under.limits, h.under.maxBody⟩, Chunk.Decoder.inBounds_start _, congrArg List.length h.body, rfl, h.buffer⟩
  have hsees := Link.watchPump_sees (chunkTest .request) (Unchunking l x.slot.request) (InRoom l)
    (fun _ => LeavesLittle l x.slot.request) Unchunking.inRoom ?_ ?_ ?_ hstart
  · exact ⟨hsees.1, fun y hy => hsees.2 () y hy⟩
  · intro s t _ hs ht
    have hle : (s.buffer.drop (s.decoder.decode s.buffer).consumed).length ≤ l.readSize := by
      rw [List.length_drop]
      exact Nat.le_trans (Nat.sub_le _ _) hs.left.buffer
    obtain ⟨-, -, rfl⟩ := chunkTest_eq_done_iff.1 ht
    exact ⟨hs.inRoom_decoded.withBuffer (Nat.le_trans hle (readSize_le_bufferRoom l)), hs.left.decoded _, hle⟩
  · intro s t f hs ht
    obtain ⟨-, rfl⟩ := chunkTest_of_failed ht
    exact hs.inRoom_decoded
  · intro s t hs ht
    obtain ⟨hf, -, rfl⟩ := chunkTest_eq_more_iff.1 ht
    refine ⟨hs.inRoom_decoded.withBuffer (Nat.zero_le _), fun piece hp => ?_⟩
    have hp : piece.length ≤ s.limits.readSize := hp
    rw [hs.under.limits] at hp
    exact hs.more hf hp

/-- A slot before a test for a body of `n` bytes: of these the buffer may lack one, and then get one read more. -/
structure Gathering (l : Limits) (n : Nat) (r : Request) (s : Slot) : Prop where
  under : s.Under l
  request : s.request = r
  buffer : s.buffer.length ≤ n + l.readSize

theorem Gathering.inRoom {n : Nat} {r : Request} {s : Slot} (h : Gathering l n r s) (hn : n ≤ l.maxBody.toNat)
    (hr : r.body = []) : InRoom l s := by
  refine ⟨Nat.le_trans h.buffer (Nat.le_trans (Nat.add_le_add_right hn _) (Nat.le_max_right _ _)), ?_⟩
  rw [h.request, hr]
  exact Nat.zero_le _

/-- A body of `n` bytes is gathered within the room. -/
theorem watchPump_sizedTest_sees (h : Fresh l x.slot) {n : Nat} (hn : n ≤ l.maxBody.toNat) :
    (∀ s ∈ (x.watchPump (sizedTest n)).2, InRoom l s) ∧
      ∀ data y, (x.watchPump (sizedTest n)).1 = (.ok data, y) →
        data.length = n ∧ y.slot.request = x.slot.request ∧ y.slot.buffer.length ≤ l.readSize := by
  refine Link.watchPump_sees _ (Gathering l n x.slot.request) _
    (fun (data : Bytes) s => data.length = n ∧ s.request = x.slot.request ∧ s.buffer.length ≤ l.readSize)
    (fun hs => hs.inRoom hn h.body) ?_ ?_ ?_ ⟨h.under, rfl, Nat.le_trans h.buffer (Nat.le_add_left _ _)⟩
  · intro s t data hs ht
    obtain ⟨henough, rfl, rfl⟩ := sizedTest_eq_done_iff.1 ht
    have hbuffer := hs.buffer
    have hleft : (s.buffer.drop n).length ≤ l.readSize := by
      rw [List.length_drop]
      omega
    refine ⟨(hs.inRoom hn h.body).withBuffer (Nat.le_trans hleft (readSize_le_bufferRoom l)), ?_, hs.request, hleft⟩
    rw [List.length_take]
    omega
  · exact fun _ ht => absurd ht sizedTest_ne_failed
  · intro s t hs ht
    obtain ⟨hshort, rfl⟩ := sizedTest_eq_more_iff.1 ht
    refine ⟨hs.inRoom hn h.body, fun piece hp => ⟨hs.under.withBuffer _, hs.request, ?_⟩⟩
    rw [hs.under.limits] at hp
    show (t.buffer ++ piece).length ≤ _
    rw [List.length_append]
    omega

/-- A body of a given length is read within the room. -/
theorem watchSized_sees (h : Fresh l x.slot) (n : Nat) :
    (∀ s ∈ (x.watchSized n .request).2, InRoom l s) ∧
      ∀ y, (x.watchSized n .request).1 = (.ok (), y) → LeavesLittle l x.slot.request y.slot := by
  unfold Link.watchSized
  split
  · exact ⟨fun s hs => List.mem_singleton.1 hs ▸ h.inRoom, fun y hy => absurd (congrArg Prod.fst hy) (by simp)⟩
  next hle =>
  rw [h.under.limits] at hle
  have hn : n ≤ l.maxBody.toNat := Nat.le_of_not_lt hle
  obtain ⟨hall, hout⟩ := watchPump_sizedTest_sees h hn
  rcases hw : x.watchPump (sizedTest n) with ⟨⟨f | data, y⟩, seen⟩ <;> rw [hw] at hall hout
  · exact ⟨hall, fun y hy => absurd (congrArg Prod.fst hy) (by simp)⟩
  · obtain ⟨hdata, hrequest, hbuffer⟩ := hout data y rfl
    have hdeliver : InRoom l (y.slot.deliver .request data []) := by
      refine ⟨Nat.le_trans hbuffer (readSize_le_bufferRoom l), ?_⟩
      show (y.slot.request.body ++ data).length ≤ _
      rw [hrequest, h.body, List.nil_append, hdata]
      exact hn
    refine ⟨fun s hs => ?_, fun z hz => ?_⟩
    · rcases List.mem_append.1 hs with hs | hs
      · exact hall s hs
      · exact List.mem_singleton.1 hs ▸ hdeliver
    · obtain ⟨-, rfl⟩ := Prod.mk.inj hz
      refine ⟨?_, hbuffer⟩
      rw [← hrequest]
      rfl

/-- A body is read within the room, and leaves no more than one read gives. -/
theorem watchBody_sees (h : Fresh l x.slot) :
    (∀ s ∈ x.watchBody.2, InRoom l s) ∧
      ∀ y, x.watchBody.1 = (.ok (), y) → LeavesLittle l x.slot.request y.slot := by
  unfold Link.watchBody
  split
  · exact watchChunked_sees h
  rcases x.slot.request.contentLength with f | _ | n
  · exact ⟨fun s hs => List.mem_singleton.1 hs ▸ h.inRoom, fun y hy => absurd (congrArg Prod.fst hy) (by simp)⟩
  · refine ⟨fun s hs => List.mem_singleton.1 hs ▸ h.inRoom, fun y hy => ?_⟩
    obtain ⟨-, rfl⟩ := Prod.mk.inj hy
    exact ⟨rfl, h.buffer⟩
  · exact watchSized_sees h n

/-! ## Reading a request -/

/-- Opening a request leaves it without a body. -/
theorem body_openRequest (s : Slot) (head : Bytes) :
    (s.openRequest head).2.request.body = s.request.body := by
  simp only [Slot.openRequest]
  repeat' split
  all_goals rfl

/-- A head that was opened has a target within its limit. -/
theorem target_of_openRequest {s t : Slot} {head : Bytes} (h : s.openRequest head = (.ok (), t)) :
    Text.byteLength t.request.target ≤ s.limits.maxUrl.toNat := by
  obtain ⟨line, fields, r, -, hline, -, -, rfl⟩ := openRequest_eq_ok_iff.1 h
  exact (RequestLine.parse_eq_ok_iff.1 hline).2.length

/-- A head that was read is opened with nothing else in the slot changed. -/
theorem Fresh.openRequest {s : Slot} (h : Fresh l s) (head : Bytes) : Fresh l (s.openRequest head).2 := by
  have hbody := body_openRequest s head
  rw [openRequest_slot] at hbody ⊢
  exact ⟨⟨h.under.limits, h.under.maxBody⟩, hbody.trans h.body, h.buffer⟩

/-- A request is read within the room. -/
theorem watchRequest_sees (hurl : l.maxUrl.toNat < 2 ^ 62) (hheader : l.maxHeader.toNat < 2 ^ 62)
    (hunder : x.slot.Under l) (hbuffer : x.slot.buffer.length ≤ l.readSize) :
    (∀ s ∈ x.watchRequest.2, InRoom l s) ∧
      ∀ y, x.watchRequest.1 = (.ok (), y) → ReadInRoom l y.slot ∧
        (y.slot.request.expectContinue = true → Fresh l y.slot) := by
  have hcleared : Fresh l (x.mapSlot Slot.cleared).slot := ⟨⟨hunder.limits, hunder.maxBody⟩, rfl, hbuffer⟩
  obtain ⟨hall, hout⟩ := watchPump_headTest_sees hurl hheader (hcleared.awaiting hurl)
  unfold Link.watchRequest
  rcases hw : (x.mapSlot Slot.cleared).watchPump (headTest .request) with ⟨⟨f | head, y⟩, seen⟩ <;>
    rw [hw] at hall hout
  · exact ⟨hall, fun y hy => absurd (congrArg Prod.fst hy) (by simp)⟩
  have hfresh := hout head y rfl
  have hopened := hfresh.openRequest head
  have hseen : ∀ s, s ∈ seen ++ [(y.slot.openRequest head).2] → InRoom l s := by
    intro s hs
    rcases List.mem_append.1 hs with hs | hs
    · exact hall s hs
    · exact List.mem_singleton.1 hs ▸ hopened.inRoom
  simp only
  rcases ho : y.slot.openRequest head with ⟨f | _, slot⟩ <;> rw [ho] at hopened hseen
  · exact ⟨hseen, fun y hy => absurd (congrArg Prod.fst hy) (by simp)⟩
  have htarget := target_of_openRequest ho
  rw [hfresh.under.limits] at htarget
  simp only
  split
  · refine ⟨hseen, fun z hz => ?_⟩
    obtain ⟨-, rfl⟩ := Prod.mk.inj hz
    exact ⟨⟨htarget, hopened.buffer⟩, fun _ => hopened⟩
  next hprompt =>
  obtain ⟨hbody, hleaves⟩ := watchBody_sees (x := { y with slot }) hopened
  refine ⟨fun s hs => ?_, fun z hz => ?_⟩
  · rcases List.mem_append.1 hs with hs | hs
    · exact hall s hs
    rcases List.mem_cons.1 hs with rfl | hs
    · exact hopened.inRoom
    · exact hbody s hs
  · obtain ⟨hrequest, hbuffer⟩ := hleaves z hz
    have hexpect : z.slot.request.expectContinue = slot.request.expectContinue := by rw [hrequest]
    refine ⟨⟨?_, hbuffer⟩, fun h => absurd (hexpect.symm.trans h) hprompt⟩
    rw [hrequest]
    exact htarget

end Reading

end Switchboard.Exchange
