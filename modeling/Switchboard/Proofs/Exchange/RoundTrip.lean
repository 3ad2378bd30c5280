import Switchboard.Proofs.Exchange.Duplex
import Switchboard.Proofs.Exchange.Segmentation
import Switchboard.Proofs.Http.Chunk.Encoding
import Switchboard.Proofs.Http.Head.RoundTrip

/-!
Requests sent by a client and read by a server. An outgoing message is a request with its body, or a request
with some data in chunks; the other side is to see the fields that went over the wire and the data as the body
(`Outgoing.received`). The bytes that were written read as just that (`headOf?_wire`, `bodyOf?_wire`), and a link
that is fed them reads it in whatever way they are delivered, if the bounds on what is buffered are machine words.
That condition is exact (`sent_read_back_iff`): if a bound is no machine word, reading ends with an overflow when the
bytes are parted at the right place.
-/

namespace Switchboard.Exchange

open Http

/-! ## Outgoing messages -/

/-- What a client can send: a request with its body, or a request with some data in chunks of one size. -/
inductive Outgoing where
  | plain (r : Request)
  | chunked (r : Request) (data : Bytes) (size : Nat)

namespace Outgoing

/-- Sends a message. -/
def send {σ : Type} [Transport σ] (c : Client σ) : Outgoing → Except Fault Unit × Client σ
  | plain r => c.sendRequest r
  | chunked r data size => c.sendChunked r data size

/-- The request that the client is given. -/
def given : Outgoing → Request
  | plain r => r
  | chunked r _ _ => r

/-- The request that goes over the wire. -/
def sent : Outgoing → Request
  | plain r => r
  | chunked r data size => Client.chunkedRequest r data size

/-- The data of the body. -/
def data : Outgoing → Bytes
  | plain r => r.body
  | chunked _ data _ => data

/-- The request that the other side is to see. -/
def received (m : Outgoing) : Request := { m.sent with body := m.data, expectContinue := false }

/-- A request sent with its body says how long it is: by its declared length, or by being empty. -/
def IsDescribed : Outgoing → Prop
  | plain r => r.fields.contains "Transfer-Encoding" = false ∧
      (r.contentLength = .ok (some r.body.length) ∨ r.contentLength = .ok none ∧ r.body = [])
  | chunked .. => True

/-- A message that a server with these limits promises to take. -/
structure Admissible (l : Limits) (m : Outgoing) : Prop where
  target : RequestLine.TargetFits l.maxUrl.toNat m.given.target
  fields : ∀ f ∈ m.given.fields.toList, f.Sendable
  prompt : m.given.fields.hasToken "Expect" "100-continue" = false
  count : m.sent.fields.size ≤ Head.maxFields
  header : m.sent.fields.wire.length ≤ l.maxHeader.toNat
  described : m.IsDescribed
  body : m.data.length ≤ l.maxBody.toNat

variable {l : Limits} {m : Outgoing}

theorem foldCase_ne {a b : String} (h : a.length ≠ b.length) : Text.foldCase a ≠ Text.foldCase b := by
  intro he
  have := congrArg List.length he
  rw [Text.foldCase, Text.foldCase, List.length_map, List.length_map, String.length_toList,
    String.length_toList] at this
  exact h this

theorem target_sent (m : Outgoing) : m.sent.target = m.given.target := by cases m <;> rfl

theorem targetFits_sent (h : m.Admissible l) : RequestLine.TargetFits l.maxUrl.toNat m.sent.target := by
  rw [target_sent]
  exact h.target

/-- The fields that go over the wire can be sent. -/
theorem sendable_sent (h : m.Admissible l) : ∀ f ∈ m.sent.fields.toList, f.Sendable := by
  cases m with
  | plain r => exact h.fields
  | chunked r data size =>
    intro f hf
    have hf : f ∈ Fields.setIn "Transfer-Encoding" "chunked" r.fields.toList :=
      (List.mem_filter.1 hf).1
    have hvalue : ∀ g : Field, g.value = "chunked" → g.name.toList ≠ [] →
        (∀ c ∈ g.name.toList, Text.isTokenChar c = true) → g.Sendable := by
      intro g hv hne hname
      exact Field.sendable_of_graphic hne hname (by rw [hv]; decide)
    rcases Fields.mem_setIn hf with hf | ⟨hv, hn | ⟨g, hg, hn⟩⟩
    · exact h.fields f hf
    · have hname : "Transfer-Encoding".toList.all Text.isTokenChar = true := by decide
      refine hvalue f hv ?_ ?_ <;> rw [hn]
      · decide
      · exact List.all_eq_true.1 hname
    · have hg := h.fields g hg
      exact hvalue f hv (by rw [hn]; exact hg.name_nonempty) (by rw [hn]; exact hg.name)

theorem prompt_sent (h : m.Admissible l) : m.sent.fields.hasToken "Expect" "100-continue" = false := by
  cases m with
  | plain r => exact h.prompt
  | chunked r data size =>
    have hp := h.prompt
    rw [Fields.hasToken] at hp ⊢
    have hg : (Client.chunkedRequest r data size).fields.getAll "Expect" = r.fields.getAll "Expect" := by
      rw [Client.chunkedRequest, Fields.getAll_remove (foldCase_ne (by decide)),
        Fields.getAll_set (foldCase_ne (by decide))]
    rw [show (Outgoing.chunked r data size).sent = Client.chunkedRequest r data size from rfl, hg]
    exact hp

theorem isChunked_chunkedRequest (r : Request) (data : Bytes) (size : Nat) :
    (Client.chunkedRequest r data size).fields.isChunked = true := by
  obtain ⟨f, hf, hn, hv⟩ := Fields.exists_mem_setIn "Transfer-Encoding" "chunked" r.fields.toList
  have hcl : f.isNamed "Content-Length" = false := Fields.isNamed_of_ne (foldCase_ne (by decide)) hn
  refine Fields.hasToken_of_mem (f := f) ?_ hn (by rw [hv]; decide)
  rw [Client.chunkedRequest, Fields.toList_remove, List.mem_filter]
  exact ⟨hf, by rw [hcl]; rfl⟩

theorem not_isChunked_of_not_contains {h : Fields} (hc : h.contains "Transfer-Encoding" = false) :
    h.isChunked = false := by
  rw [Fields.isChunked, Fields.hasToken, Fields.getAll_of_not_contains hc]
  rfl

end Outgoing

/-! ## Reading what was written -/

section Reading

variable {l : Limits} {m : Outgoing} {s : Slot}

/-- The head of a request that can be sent is accepted, and says what was sent. -/
theorem openRequest_head {r : Request}
    (ht : RequestLine.TargetFits s.limits.maxUrl.toNat r.target)
    (hs : ∀ f ∈ r.fields.toList, f.Sendable) (hcount : r.fields.size ≤ Head.maxFields)
    (hlen : r.fields.wire.length ≤ s.limits.maxHeader.toNat)
    (hcoding : (r.fields.contains "Transfer-Encoding" && !r.fields.isChunked) = false)
    (hlength : r.fields.isChunked = true ∨ ∃ n, r.fields.contentLength = .ok n)
    (hprompt : r.fields.hasToken "Expect" "100-continue" = false) :
    s.cleared.openRequest r.head =
      (.ok (), { s.cleared with request := { r with body := [], expectContinue := false } }) := by
  have hparse := parse_head ht hs hcount hlen
  have hline : RequestLine.parse r.line.render s.limits.maxUrl.toNat = .ok r.line :=
    RequestLine.parse_eq_ok_iff.2 ⟨rfl, ht⟩
  refine openRequest_eq_ok_iff.2 ⟨_, _, _, hparse, hline, hcoding, hlength, ?_⟩
  rw [Slot.withHead, hprompt]
  rfl

theorem openRequest_sent (hm : m.Admissible l) (hs : s.SameLimits (Slot.new l)) :
    s.cleared.openRequest m.sent.head =
      (.ok (), { s.cleared with request := { m.sent with body := [], expectContinue := false } }) := by
  have ht : RequestLine.TargetFits s.limits.maxUrl.toNat m.sent.target := by
    rw [hs.url]
    exact Outgoing.targetFits_sent hm
  have hlen : m.sent.fields.wire.length ≤ s.limits.maxHeader.toNat := by
    rw [hs.header]
    exact hm.header
  refine openRequest_head ht (Outgoing.sendable_sent hm) hm.count hlen ?_ ?_ (Outgoing.prompt_sent hm)
  · cases m with
    | plain r =>
      have hc : r.fields.contains "Transfer-Encoding" = false := hm.described.1
      rw [Outgoing.sent, hc, Bool.false_and]
    | chunked r data size =>
      rw [Outgoing.sent, Outgoing.isChunked_chunkedRequest, Bool.not_true, Bool.and_false]
  · cases m with
    | plain r => exact Or.inr (hm.described.2.elim (fun h => ⟨_, h⟩) fun h => ⟨_, h.1⟩)
    | chunked r data size => exact Or.inl (Outgoing.isChunked_chunkedRequest r data size)

/-- The head of an outgoing message is read from the bytes that were written. -/
theorem headOf?_wire (hm : m.Admissible l) (hs : s.SameLimits (Slot.new l)) (more : Bytes) :
    s.headOf? (m.sent.wire ++ more) =
      some ({ m.sent with body := [], expectContinue := false }, m.sent.body ++ more) := by
  have hsplit := split?_dropBlankLines_head (Outgoing.targetFits_sent hm) (Outgoing.sendable_sent hm)
    (m.sent.body ++ more)
  rw [Request.wire, List.append_assoc]
  exact headOf?_eq_some_iff.2 ⟨_, _, hsplit, openRequest_sent hm hs, rfl⟩

/-- The slot once the head of a request has been read. -/
def Slot.opened (s : Slot) (r : Request) : Slot :=
  { s with request := { r with body := [], expectContinue := false } }

theorem deliver_opened (s : Slot) (r : Request) (data : Bytes) :
    ((s.opened r).deliver .request data []).request =
      { r with body := data, expectContinue := false } := by
  simp [Slot.opened, Slot.deliver, Fields.append]

/-- A body that its request describes is read as it was sent. -/
theorem bodyOf?_described {r : Request} (hc : r.isChunked = false)
    (hlength : r.contentLength = .ok (some r.body.length) ∨ r.contentLength = .ok none ∧ r.body = [])
    (hmax : r.body.length ≤ s.limits.maxBody.toNat) (more : Bytes) :
    (s.opened r).bodyOf? (r.body ++ more) = some ({ r with expectContinue := false }, more) := by
  have hopened : (s.opened r).request.isChunked = false := hc
  have hcl : (s.opened r).request.contentLength = r.contentLength := rfl
  rw [Slot.bodyOf?, hopened, if_neg Bool.false_ne_true, hcl]
  rcases hlength with hn | ⟨hn, hnil⟩
  · have hfits : r.body.length ≤ (s.opened r).limits.maxBody.toNat ∧
        r.body.length ≤ (r.body ++ more).length := by
      rw [List.length_append]
      exact ⟨hmax, Nat.le_add_right _ _⟩
    rw [hn]
    show (if _ then _ else _) = _
    rw [if_pos hfits, List.take_left, List.drop_left, deliver_opened]
  · rw [hn, hnil]
    show some ((s.opened r).request, more) = _
    rw [Slot.opened, ← hnil]

/-- Data that was sent in chunks is read as the body. -/
theorem bodyOf?_encodeBody {r : Request} {data : Bytes} (hc : r.isChunked = true)
    (hw : s.decoder.maxBody < Text.wordSize) (hl : data.length ≤ s.decoder.maxBody) (size : Nat)
    (more : Bytes) :
    (s.opened r).bodyOf? (Chunk.encodeBody data size ++ more) =
      some ({ r with body := data, expectContinue := false }, more) := by
  have hopened : (s.opened r).request.isChunked = true := hc
  obtain ⟨e, he, hdecode⟩ := Chunk.decode_encodeBody hw hl size more
  have hdecode : (s.opened r).decoder.start.decode (Chunk.encodeBody data size ++ more) =
      Chunk.ran e (Chunk.encodeBody data size) data [] := hdecode
  have hfits : (Chunk.ran e (Chunk.encodeBody data size) data []).fault = none ∧
      (Chunk.ran e (Chunk.encodeBody data size) data []).decoder.isFinished = true := ⟨rfl, he⟩
  rw [Slot.bodyOf?, if_pos hopened, hdecode]
  show (if _ then _ else _) = _
  rw [if_pos hfits, Chunk.data_ran, Chunk.trailers_ran, deliver_opened]
  show some (_, (Chunk.encodeBody data size ++ more).drop (Chunk.encodeBody data size).length) = _
  rw [List.drop_left]

/-- The body of an outgoing message is read from the bytes after its head. -/
theorem bodyOf?_wire (hm : m.Admissible l) (hs : s.SameLimits (Slot.new l)) (more : Bytes) :
    (s.opened m.sent).bodyOf? (m.sent.body ++ more) = some (m.received, more) := by
  have hbody := hm.body
  have hmax : s.limits.maxBody = l.maxBody := hs.body
  cases m with
  | plain r =>
    obtain ⟨hte, hlength⟩ := hm.described
    rw [← hmax] at hbody
    exact bodyOf?_described (Outgoing.not_isChunked_of_not_contains hte) hlength hbody more
  | chunked r data size =>
    have hd : s.decoder.maxBody = l.maxBody.toNat := congrArg Chunk.Decoder.maxBody hs.decoder
    have hw : s.decoder.maxBody < Text.wordSize := by
      rw [hd]
      exact l.maxBody.toNat_lt
    rw [← hd] at hbody
    exact bodyOf?_encodeBody (Outgoing.isChunked_chunkedRequest r data size) hw hbody size more

/-- A link that is fed the bytes of a message reads the message and leaves what comes after it. -/
theorem readRequest_wire {x : Link Script} {more : Bytes} (hm : m.Admissible l) (hsums : SumsFit l)
    (hs : x.slot.SameLimits (Slot.new l)) (hx : x.IsSteady) (hu : x.unread = m.sent.wire ++ more) :
    x.readRequest.1 = .ok () ∧ x.readRequest.2.slot.request = m.received ∧
      x.readRequest.2.unread = more := by
  have hF := Script.feeds_brings x.session
  have hu : x.slot.buffer ++ Script.dataOf x.session.transport.deliveries = m.sent.wire ++ more := hu
  have hread := readRequest_reads hF ⟨_, rfl, hx, rfl⟩ (acceptedFits_of_sums (hsums.congr hs.url.symm hs.header.symm) _)
  rw [hu, headOf?_wire hm hs more] at hread
  obtain ⟨y, hy, hread⟩ := hread
  have hbody : Reads (Script.Brings x.session) (x.mapSlot Slot.cleared)
      ((x.slot.opened m.sent).bodyOf? (m.sent.body ++ more)) y.readBody := readBody_of_leaves hF hy
  rw [bodyOf?_wire hm hs more] at hbody
  obtain ⟨hok, ⟨stream, ⟨ds, hds, -, rfl⟩, hrest⟩, -, hslot⟩ := hbody
  rw [if_neg Bool.false_ne_true] at hread
  rw [hread]
  refine ⟨hok, by rw [hslot], ?_⟩
  rw [Link.unread, hds]
  exact hrest

end Reading

/-! ## Sums that do not fit -/

/-- A link that holds some bytes and gets the others in one delivery. -/
def partedLink (l : Limits) (held toCome : Bytes) : Link Script where
  slot := { Slot.new l with buffer := held }
  session := .new { deliveries := [.bytes toCome] }

theorem isSteady_partedLink (l : Limits) (held : Bytes) {toCome : Bytes} (h : toCome ≠ []) :
    (partedLink l held toCome).IsSteady := ⟨show 0 < Session.defaultTimeout by decide, h, trivial⟩

theorem unread_partedLink (l : Limits) (held toCome : Bytes) : (partedLink l held toCome).unread = held ++ toCome := by
  show held ++ (toCome ++ []) = held ++ toCome
  rw [List.append_nil]

/-- If a sum is not a machine word, the bytes of a message can be parted so that reading ends with an overflow. -/
theorem exists_overflow {l : Limits} {m : Outgoing} (hm : m.Admissible l) (hsums : ¬ SumsFit l) (more : Bytes) :
    ∃ x : Link Script, x.slot.SameLimits (Slot.new l) ∧ x.IsSteady ∧ x.unread = m.sent.wire ++ more ∧
      x.readRequest.1 = .error .overflow := by
  have hhead := headOf?_wire hm (s := Slot.new l) ⟨rfl, rfl, rfl, rfl⟩ more
  obtain ⟨front, rest, hstream, hfails⟩ := exists_overflow_front fun hfit => hsums ((acceptedFits_iff hhead).1 hfit)
  refine ⟨partedLink l front (10 :: rest), ⟨rfl, rfl, rfl, rfl⟩,
    isSteady_partedLink l front (List.cons_ne_nil 10 rest), ?_, ?_⟩
  · rw [unread_partedLink, hstream]
  · obtain ⟨b, htest⟩ := hfails ((partedLink l front (10 :: rest)).mapSlot Slot.cleared).slot rfl rfl
    rw [readRequest_eq, Link.pump_failed htest]

/-! ## Messages sent and read back -/

section Sent

variable {σ : Type} [Transport σ] {l : Limits} {m : Outgoing}

/-- A message that has been sent is on the wire. -/
theorem written_sent {c c' : Client (Recorded σ)} (h : m.send c = (.ok (), c')) :
    c'.link.session.transport.written = c.link.session.transport.written ++ m.sent.wire := by
  cases m with
  | plain r => exact written_sendRequest h
  | chunked r data size => exact written_sendRequest h

/-- A session that takes what is written takes the message. -/
theorem send_takes {patience : Nat} {P : Session σ → Bytes → Prop} {stream : Bytes}
    (hD : Duplex patience P) {c : Client σ} (h : P c.link.session stream) (m : Outgoing) :
    ∃ c', m.send c = (.ok (), c') := by
  have hsend : ∀ r : Request, ∃ c', c.sendRequest r = (.ok (), c') := by
    intro r
    obtain ⟨session, hr, -⟩ :=
      sendParts_accepts (hD.accepts stream) (x := c.link.mapSlot fun s => { s with request := r }) h r.head r.body
    refine ⟨⟨{ c.link.mapSlot (fun s => { s with request := r }) with session }, r.method⟩, ?_⟩
    have hr : (c.link.mapSlot fun s => { s with request := r }).sendRequest = _ := hr
    rw [Client.sendRequest, hr]
  cases m with
  | plain r => exact hsend r
  | chunked r data size => exact hsend (Client.chunkedRequest r data size)

/-- A message that a client has sent is read back from the bytes that were written, however these are delivered
and whatever follows them, if and only if the bounds on what is buffered of a head are machine words. If one of them is
not, some delivery ends with an overflow. -/
theorem sent_read_back_iff {c c' : Client (Recorded σ)} (hm : m.Admissible l)
    (hsend : m.send c = (.ok (), c')) :
    ∃ wire, c'.link.session.transport.written = c.link.session.transport.written ++ wire ∧
      (SumsFit l ↔
        ∀ (x : Link Script) (more : Bytes), x.slot.SameLimits (Slot.new l) → x.IsSteady →
          x.unread = wire ++ more →
            x.readRequest.1 = .ok () ∧ x.readRequest.2.slot.request = m.received ∧
              x.readRequest.2.unread = more) ∧
      (¬ SumsFit l → ∀ more, ∃ x : Link Script, x.slot.SameLimits (Slot.new l) ∧ x.IsSteady ∧
        x.unread = wire ++ more ∧ x.readRequest.1 = .error .overflow) := by
  refine ⟨m.sent.wire, written_sent hsend, ⟨?_, ?_⟩, exists_overflow hm⟩
  · intro hsums x more hs hx hu
    exact readRequest_wire hm hsums hs hx hu
  · intro hread
    by_contra hsums
    obtain ⟨x, hs, hx, hu, hover⟩ := exists_overflow hm hsums []
    obtain ⟨hok, -⟩ := hread x [] hs hx hu
    rw [hover] at hok
    exact absurd hok (by simp)

end Sent

/-- Limits so large that the bound on a line is not a machine word. -/
def boundlessLimits : Limits := { maxUrl := 0xffffffffffffffff }

/-- A request for a target of thirty-two characters. -/
def longTarget : Outgoing := .plain { target := "/pages/of/a/rather/deep/document" }

theorem longTarget_overflows :
    longTarget.Admissible boundlessLimits ∧ ¬ SumsFit boundlessLimits ∧
      ∃ (c' : Client (Recorded Script)) (x : Link Script),
        longTarget.send (.new (.new { inner := {} }) boundlessLimits) = (.ok (), c') ∧
          x.slot.SameLimits (Slot.new boundlessLimits) ∧ x.IsSteady ∧
            x.unread = c'.link.session.transport.written ∧ x.readRequest.1 = .error .overflow := by
  have hm : longTarget.Admissible boundlessLimits := by
    refine ⟨⟨by decide, by decide, by decide⟩, ?_, by decide, by decide, by decide, ?_, by decide⟩
    · intro f hf
      exact absurd hf List.not_mem_nil
    · exact ⟨rfl, Or.inr ⟨rfl, rfl⟩⟩
  have hsums : ¬ SumsFit boundlessLimits := by decide
  obtain ⟨c', hsend⟩ := send_takes (duplex_recorded (Script.duplex_brings Session.defaultTimeout))
    (c := .new (.new { inner := {} }) boundlessLimits)
    ⟨rfl, trivial, rfl, by decide, rfl, by decide⟩ longTarget
  obtain ⟨wire, hwritten, -, hover⟩ := sent_read_back_iff hm hsend
  have hwritten : c'.link.session.transport.written = wire := hwritten
  obtain ⟨x, hs, hx, hu, hfailed⟩ := hover hsums []
  rw [List.append_nil, ← hwritten] at hu
  exact ⟨hm, hsums, c', x, hsend, hs, hx, hu, hfailed⟩

end Switchboard.Exchange
