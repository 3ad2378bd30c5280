import Switchboard.Proofs.Exchange.Feed
import Switchboard.Proofs.Exchange.Tests

/-!
What reading a request comes to, as a function of the whole stream. `Slot.headOf?` and `Slot.bodyOf?` say what
a head and a body are read from a stream that is all there, and what is left of it. A link that is fed the
stream bit by bit reads the same and leaves the same behind (`readRequest_reads`, `readBody_reads`),
as long as the head fits the bounds on what is buffered: these are tested before the head is complete.
-/

namespace Switchboard.Exchange

open Http

/-! ## Readings of a whole stream -/

namespace Slot

/-- The slot without a request. -/
def cleared (s : Slot) : Slot := { s with request := .cleared, decoder := s.decoder.reset }

/-- The head at the front of a stream, and what follows it. -/
def headOf? (s : Slot) (stream : Bytes) : Option (Request × Bytes) :=
  (Head.split? (Head.dropBlankLines stream)).bind fun p =>
    match s.cleared.openRequest p.1 with
    | (.ok (), t) => some (t.request, p.2)
    | (.error _, _) => none

/-- The request with the body at the front of a stream, and what follows the body. -/
def bodyOf? (s : Slot) (stream : Bytes) : Option (Request × Bytes) :=
  if s.request.isChunked then
    let p := s.decoder.start.decode stream
    if p.fault = none ∧ p.decoder.isFinished then
      some ((s.deliver .request p.data p.trailers).request, stream.drop p.consumed)
    else none
  else
    match s.request.contentLength with
    | .error _ => none
    | .ok none => some (s.request, stream)
    | .ok (some n) =>
      if n ≤ s.limits.maxBody.toNat ∧ n ≤ stream.length then
        some ((s.deliver .request (stream.take n) []).request, stream.drop n)
      else none

/-- The request at the front of a stream, and what follows it. -/
def requestOf? (s : Slot) (stream : Bytes) : Option (Request × Bytes) :=
  (s.headOf? stream).bind fun p => bodyOf? { s with request := p.1 } p.2

end Slot

/-- The head of a stream is read if it is found at the front and opened. -/
theorem headOf?_eq_some_iff {s : Slot} {stream after : Bytes} {r : Request} :
    s.headOf? stream = some (r, after) ↔ ∃ head t,
      Head.split? (Head.dropBlankLines stream) = some (head, after) ∧
      s.cleared.openRequest head = (.ok (), t) ∧ t.request = r := by
  unfold Slot.headOf?
  constructor
  · intro h
    obtain ⟨⟨head, after'⟩, hsplit, h⟩ := Option.bind_eq_some_iff.1 h
    simp only at h
    rcases ho : s.cleared.openRequest head with ⟨f | _, t⟩ <;> rw [ho] at h
    · exact absurd h (by simp)
    obtain ⟨rfl, rfl⟩ := Prod.mk.inj (Option.some.inj h)
    exact ⟨head, t, hsplit, ho, rfl⟩
  · rintro ⟨head, t, hsplit, ho, rfl⟩
    rw [hsplit, Option.bind_some]
    simp only [ho]

/-! ## The loops -/

section Loops

variable {σ : Type} [Transport σ] {E : Fault → Prop} {P : Session σ → Bytes → Prop} {Over : Session σ → Prop}
  {x : Link σ} {stream : Bytes}

/-- What reading a head comes to: the head of the stream, unless it does not fit. -/
def HeadRead (dir : Direction) (s : Slot) (full : Bytes) : Except Fault Bytes → Slot → Bytes → Prop
  | .ok head, t, rest =>
    t = { s with buffer := t.buffer } ∧ Head.split? full = some (head, t.buffer ++ rest)
  | .error _, _, _ => ∀ head after, Head.split? full = some (head, after) → ¬ HeadFits dir s.limits head

theorem pump_headTest_until (dir : Direction) (hF : FeedsUntil E P Over) (hP : P x.session stream) :
    ∃ r slot session rest, x.pump (headTest dir) = (r, ⟨slot, session⟩) ∧ Left E P Over r session rest ∧
      HeadRead dir x.slot (Head.dropBlankLines (x.slot.buffer ++ stream)) r slot rest := by
  -- the buffer with the bytes still to come is the stream, blank lines at the front aside
  refine Link.pump_until hF
    (fun s stream' => s = { x.slot with buffer := s.buffer } ∧
      Head.dropBlankLines (s.buffer ++ stream') = Head.dropBlankLines (x.slot.buffer ++ stream))
    _ ?_ ?_ ?_ ?_ hP ⟨rfl, rfl⟩
  · rintro s s' stream' head ⟨hs, hb⟩ ht
    obtain ⟨rest, hsplit, rfl⟩ := headTest_of_done ht
    refine ⟨by rw [hs], ?_⟩
    rw [← hb]
    exact split?_dropBlankLines_append hsplit stream'
  · rintro s s' stream' f ⟨hs, hb⟩ ht head after h
    rw [← hb] at h
    have := headTest_of_failed ht h
    rw [hs] at this
    exact this
  · rintro s s' piece rest ⟨hs, hb⟩ ht
    obtain ⟨-, rfl⟩ := headTest_of_more ht
    refine ⟨by rw [hs]; rfl, ?_⟩
    rw [← hb, Slot.addPending, List.append_assoc, Head.dropBlankLines_append]
  · rintro s s' f ⟨hs, hb⟩ ht - head after h
    obtain ⟨hnone, -⟩ := headTest_of_more ht
    rw [List.append_nil] at hb
    rw [← hb, hnone] at h
    exact absurd h (by simp)

theorem pump_headTest (dir : Direction) (hF : Feeds P) (hP : P x.session stream) :
    ∃ r slot session rest, x.pump (headTest dir) = (r, ⟨slot, session⟩) ∧ P session rest ∧
      HeadRead dir x.slot (Head.dropBlankLines (x.slot.buffer ++ stream)) r slot rest := by
  obtain ⟨r, slot, session, rest, hpump, hleft, hread⟩ := pump_headTest_until dir hF.until hP
  exact ⟨r, slot, session, rest, hpump, hleft.of_feeds, hread⟩

/-- What reading a chunked body comes to: what the decoder makes of the stream. -/
def ChunkedRead (dir : Direction) (s : Slot) (full : Bytes) :
    Except Fault Unit → Slot → Bytes → Prop
  | .ok (), t, rest =>
    (s.decoder.decode full).fault = none ∧ (s.decoder.decode full).decoder.isFinished = true ∧
      t = { s.decoded dir (s.decoder.decode full) with buffer := t.buffer } ∧
      t.buffer ++ rest = full.drop (s.decoder.decode full).consumed
  | .error _, _, _ =>
    ¬ ((s.decoder.decode full).fault = none ∧ (s.decoder.decode full).decoder.isFinished = true)

/-- The slot `t` is `s` with the bytes `a` decoded, after which the body goes on. -/
structure DecodedSoFar (dir : Direction) (s : Slot) (a : Bytes) (t : Slot) : Prop where
  fault : (s.decoder.decode a).fault = none
  unfinished : (s.decoder.decode a).decoder.isFinished = false
  slot : t = { s.decoded dir (s.decoder.decode a) with buffer := t.buffer }

/-- Decoding the buffer is decoding on from the bytes before it. -/
theorem DecodedSoFar.decode {dir : Direction} {s t : Slot} {a : Bytes} (h : DecodedSoFar dir s a t)
    (b : Bytes) :
    s.decoder.decode (a ++ b) = (s.decoder.decode a).before (t.decoder.decode b) := by
  have hd : t.decoder = (s.decoder.decode a).decoder := by
    rw [h.slot]
    rfl
  rw [Chunk.decode_cut, h.fault, hd]
  rfl

theorem DecodedSoFar.decoded {dir : Direction} {s t : Slot} {a : Bytes} (h : DecodedSoFar dir s a t)
    (b c : Bytes) :
    ({ t.decoded dir (t.decoder.decode b) with buffer := c } : Slot) =
      { s.decoded dir (s.decoder.decode (a ++ b)) with buffer := c } := by
  have := decoded_before s dir t.buffer (s.decoder.decode a) (t.decoder.decode b)
  rw [← h.slot] at this
  rw [h.decode, this]

/-- The buffer is decoded as well, and the body goes on after it. -/
theorem DecodedSoFar.more {dir : Direction} {s t : Slot} {a : Bytes} (h : DecodedSoFar dir s a t)
    (hf : (t.decoder.decode t.buffer).fault = none)
    (hq : (t.decoder.decode t.buffer).decoder.isFinished = false) (piece : Bytes) :
    DecodedSoFar dir s (a ++ t.buffer)
      { t.decoded dir (t.decoder.decode t.buffer) with buffer := piece } := by
  refine ⟨?_, ?_, h.decoded t.buffer piece⟩
  · rw [h.decode]
    exact hf
  · rw [h.decode]
    exact hq

/-- The body ends inside the buffer. -/
theorem DecodedSoFar.done {dir : Direction} {s t : Slot} {a : Bytes} (h : DecodedSoFar dir s a t)
    (hf : (t.decoder.decode t.buffer).fault = none)
    (hq : (t.decoder.decode t.buffer).decoder.isFinished = true) (stream : Bytes) :
    ChunkedRead dir s (a ++ (t.buffer ++ stream)) (.ok ())
      { t.decoded dir (t.decoder.decode t.buffer) with
        buffer := t.buffer.drop (t.decoder.decode t.buffer).consumed } stream := by
  have hfault : (s.decoder.decode (a ++ t.buffer)).fault = none := by
    rw [h.decode]
    exact hf
  have hend : (s.decoder.decode (a ++ t.buffer)).decoder.isFinished = true := by
    rw [h.decode]
    exact hq
  have hcount : (s.decoder.decode (a ++ t.buffer)).consumed =
      a.length + (t.decoder.decode t.buffer).consumed := by
    rw [h.decode, ← Chunk.consumed_of_not_finished h.fault h.unfinished]
    rfl
  rw [ChunkedRead, ← List.append_assoc, Chunk.decode_append_of_stopped (Or.inr hend)]
  refine ⟨hfault, hend, h.decoded t.buffer _, ?_⟩
  rw [hcount, List.append_assoc, List.drop_length_add_append,
    List.drop_append_of_le_length (Chunk.consumed_le hf)]

/-- The body is refused inside the buffer. -/
theorem DecodedSoFar.failed {dir : Direction} {s t : Slot} {a : Bytes} {f : Fault}
    (h : DecodedSoFar dir s a t) (hf : (t.decoder.decode t.buffer).fault = some f) (stream : Bytes) :
    (s.decoder.decode (a ++ (t.buffer ++ stream))).fault = some f := by
  have hfault : (s.decoder.decode (a ++ t.buffer)).fault = some f := by
    rw [h.decode]
    exact hf
  have hstop : (s.decoder.decode (a ++ t.buffer)).fault.isSome := Option.isSome_of_eq_some hfault
  rw [← List.append_assoc, Chunk.decode_append_of_stopped (Or.inl hstop), hfault]

/-- Reading fails with the fault `o` of what is read, or at the end of the stream if there is none. -/
def FailsWith (E : Fault → Prop) (o : Option Fault) (f : Fault) : Prop := o = some f ∨ o = none ∧ E f

/-- A loop that reads a chunked body gives what the decoder makes of the stream, or fails as the decoder does. -/
theorem pump_chunkTest_ends (hF : FeedsUntil E P Over) (dir : Direction)
    (hfin : x.slot.decoder.isFinished = false) (hP : P x.session stream) :
    ∃ r slot session rest, x.pump (chunkTest dir) = (r, ⟨slot, session⟩) ∧ Left E P Over r session rest ∧
      ChunkedRead dir x.slot (x.slot.buffer ++ stream) r slot rest ∧
      ∀ f, r = .error f → FailsWith E (x.slot.decoder.decode (x.slot.buffer ++ stream)).fault f := by
  -- what has been decoded, with the buffer and the bytes still to come, is the stream
  refine Link.pump_until hF
    (fun t stream' => ∃ a, DecodedSoFar dir x.slot a t ∧
      a ++ (t.buffer ++ stream') = x.slot.buffer ++ stream)
    (fun r t rest => ChunkedRead dir x.slot (x.slot.buffer ++ stream) r t rest ∧
      ∀ f, r = .error f → FailsWith E (x.slot.decoder.decode (x.slot.buffer ++ stream)).fault f)
    ?_ ?_ ?_ ?_ hP ⟨[], ⟨rfl, hfin, ?_⟩, rfl⟩
  · rintro t t' stream' u ⟨a, ha, hb⟩ ht
    obtain ⟨hf, hq, rfl⟩ := chunkTest_eq_done_iff.1 ht
    rw [← hb]
    exact ⟨ha.done hf hq stream', fun f he => absurd he (by simp)⟩
  · rintro t t' stream' f ⟨a, ha, hb⟩ ht
    obtain ⟨hf, rfl⟩ := chunkTest_of_failed ht
    have hfault := ha.failed hf stream'
    rw [hb] at hfault
    refine ⟨?_, ?_⟩
    · rintro ⟨hnone, -⟩
      rw [hfault] at hnone
      exact absurd hnone (by simp)
    · rintro g he
      obtain rfl := Except.error.inj he
      exact Or.inl hfault
  · rintro t t' piece rest ⟨a, ha, hb⟩ ht
    obtain ⟨hf, hq, rfl⟩ := chunkTest_eq_more_iff.1 ht
    refine ⟨a ++ t.buffer, ha.more hf hq _, ?_⟩
    rw [← hb, Slot.addPending, List.nil_append, List.append_assoc]
  · rintro t t' f ⟨a, ha, hb⟩ ht he
    obtain ⟨hf, hq, rfl⟩ := chunkTest_eq_more_iff.1 ht
    have hmore := ha.more hf hq []
    rw [List.append_nil] at hb
    rw [hb] at hmore
    refine ⟨?_, ?_⟩
    · rintro ⟨-, hend⟩
      rw [hmore.unfinished] at hend
      exact absurd hend (by simp)
    · rintro g hg
      obtain rfl := Except.error.inj hg
      exact Or.inr ⟨hmore.fault, he⟩
  · cases dir <;>
      simp [Slot.decoded, Slot.deliver, Chunk.Decoder.decode, Chunk.Progress.data,
        Chunk.Progress.trailers, Fields.append]

theorem pump_chunkTest_until (hF : FeedsUntil E P Over) (dir : Direction)
    (hfin : x.slot.decoder.isFinished = false) (hP : P x.session stream) :
    ∃ r slot session rest, x.pump (chunkTest dir) = (r, ⟨slot, session⟩) ∧ Left E P Over r session rest ∧
      ChunkedRead dir x.slot (x.slot.buffer ++ stream) r slot rest := by
  obtain ⟨r, slot, session, rest, hpump, hleft, hread, -⟩ := pump_chunkTest_ends hF dir hfin hP
  exact ⟨r, slot, session, rest, hpump, hleft, hread⟩

theorem pump_chunkTest (hF : Feeds P) (dir : Direction) (hfin : x.slot.decoder.isFinished = false)
    (hP : P x.session stream) :
    ∃ r slot session rest, x.pump (chunkTest dir) = (r, ⟨slot, session⟩) ∧ P session rest ∧
      ChunkedRead dir x.slot (x.slot.buffer ++ stream) r slot rest := by
  obtain ⟨r, slot, session, rest, hpump, hleft, hread⟩ := pump_chunkTest_until hF.until dir hfin hP
  exact ⟨r, slot, session, rest, hpump, hleft.of_feeds, hread⟩

/-- What reading so many bytes comes to. -/
def SizedRead (n : Nat) (s : Slot) (full : Bytes) : Except Fault Bytes → Slot → Bytes → Prop
  | .ok data, t, rest =>
    n ≤ full.length ∧ data = full.take n ∧ t = { s with buffer := t.buffer } ∧
      t.buffer ++ rest = full.drop n
  | .error _, _, _ => full.length < n

/-- A loop that reads so many bytes fails at the end of the stream only. -/
theorem pump_sizedTest_ends (hF : FeedsUntil E P Over) (n : Nat) (hP : P x.session stream) :
    ∃ r slot session rest, x.pump (sizedTest n) = (r, ⟨slot, session⟩) ∧ Left E P Over r session rest ∧
      SizedRead n x.slot (x.slot.buffer ++ stream) r slot rest ∧ ∀ f, r = .error f → E f := by
  refine Link.pump_until hF
    (fun t stream' => t = { x.slot with buffer := t.buffer } ∧
      t.buffer ++ stream' = x.slot.buffer ++ stream)
    (fun r t rest => SizedRead n x.slot (x.slot.buffer ++ stream) r t rest ∧ ∀ f, r = .error f → E f)
    ?_ ?_ ?_ ?_ hP ⟨rfl, rfl⟩
  · rintro t t' stream' data ⟨ht, hb⟩ h
    obtain ⟨hle, rfl, rfl⟩ := sizedTest_eq_done_iff.1 h
    rw [← hb]
    refine ⟨⟨?_, ?_, ?_, ?_⟩, fun f he => absurd he (by simp)⟩
    · rw [List.length_append]
      omega
    · exact (List.take_append_of_le_length hle).symm
    · rw [ht]
    · exact (List.drop_append_of_le_length hle).symm
  · exact fun _ h => absurd h sizedTest_ne_failed
  · rintro t t' piece rest ⟨ht, hb⟩ h
    obtain ⟨-, rfl⟩ := sizedTest_eq_more_iff.1 h
    refine ⟨?_, ?_⟩
    · rw [ht]
      rfl
    · rw [← hb, Slot.addPending, List.append_assoc]
  · rintro t t' f ⟨-, hb⟩ h he
    obtain ⟨hlen, rfl⟩ := sizedTest_eq_more_iff.1 h
    rw [List.append_nil] at hb
    rw [SizedRead, ← hb]
    refine ⟨hlen, fun g hg => ?_⟩
    obtain rfl := Except.error.inj hg
    exact he

/-- What reading a body of so many bytes comes to: these bytes, if there are so many and they are within the limit. -/
def SizedBodyRead (n : Nat) (dir : Direction) (s : Slot) (full : Bytes) : Except Fault Unit → Slot → Bytes → Prop
  | .ok (), t, rest =>
    (n ≤ s.limits.maxBody.toNat ∧ n ≤ full.length) ∧
      t = { s.deliver dir (full.take n) [] with buffer := t.buffer } ∧ t.buffer ++ rest = full.drop n
  | .error _, _, _ => ¬ (n ≤ s.limits.maxBody.toNat ∧ n ≤ full.length)

/-- What is wrong with a body of so many bytes. -/
def sizeFault? (l : Limits) (n : Nat) : Option Fault :=
  if n > l.maxBody.toNat then some (.bodyTooLarge l.maxBody.toNat) else none

theorem readSized_ends (hF : FeedsUntil E P Over) (n : Nat) (dir : Direction) (hP : P x.session stream) :
    ∃ r slot session rest, x.readSized n dir = (r, ⟨slot, session⟩) ∧ Left E P Over r session rest ∧
      SizedBodyRead n dir x.slot (x.slot.buffer ++ stream) r slot rest ∧
      ∀ f, r = .error f → FailsWith E (sizeFault? x.slot.limits n) f := by
  by_cases hmax : n > x.slot.limits.maxBody.toNat
  · rw [Link.readSized, if_pos hmax, sizeFault?, if_pos hmax]
    refine ⟨_, _, _, stream, rfl, .coming hP, fun h => Nat.not_le_of_gt hmax h.1, fun f he => ?_⟩
    obtain rfl := Except.error.inj he
    exact Or.inl rfl
  · obtain ⟨r, t, session, rest, hpump, hleft, hr, hend⟩ := pump_sizedTest_ends hF n hP
    rw [Link.readSized, if_neg hmax, hpump, sizeFault?, if_neg hmax]
    cases r with
    | ok data =>
      obtain ⟨hle, rfl, ht, hrest⟩ := hr
      refine ⟨.ok (), _, session, rest, rfl, .coming hleft.of_ok, ⟨⟨Nat.le_of_not_gt hmax, hle⟩, ?_, ?_⟩,
        fun f he => absurd he (by simp)⟩
      · rw [ht]
        cases dir <;> rfl
      · rw [← hrest]
        cases dir <;> rfl
    | error f =>
      refine ⟨.error f, _, session, rest, rfl, hleft.of_error, fun h => Nat.not_le_of_gt hr h.2, fun g hg => ?_⟩
      obtain rfl := Except.error.inj hg
      exact Or.inr ⟨rfl, hend f rfl⟩

theorem readSized_until (hF : FeedsUntil E P Over) (n : Nat) (dir : Direction) (hP : P x.session stream) :
    ∃ r slot session rest, x.readSized n dir = (r, ⟨slot, session⟩) ∧ Left E P Over r session rest ∧
      SizedBodyRead n dir x.slot (x.slot.buffer ++ stream) r slot rest := by
  obtain ⟨r, slot, session, rest, hread, hleft, hr, -⟩ := readSized_ends hF n dir hP
  exact ⟨r, slot, session, rest, hread, hleft, hr⟩

/-! ## Bodies and requests -/

/-- What a link leaves behind that has read `r` from a stream, `rest` of it being left. -/
structure Leaves (P : Session σ → Bytes → Prop) (x : Link σ) (r : Request) (rest : Bytes)
    (y : Link σ) : Prop where
  feeds : ∃ stream, P y.session stream ∧ y.slot.buffer ++ stream = rest
  limits : y.slot.decoder.reset = x.slot.decoder.reset
  slot : y.slot = { x.slot with request := r, buffer := y.slot.buffer, decoder := y.slot.decoder }

/-- An outcome is that of a reading of the whole stream. -/
def Reads (P : Session σ → Bytes → Prop) (x : Link σ) :
    Option (Request × Bytes) → Except Fault Unit × Link σ → Prop
  | some (r, rest), out => out.1 = .ok () ∧ Leaves P x r rest out.2
  | none, out => ∃ f, out.1 = .error f

theorem readChunked_reads (hF : Feeds P) (hc : x.slot.request.isChunked = true)
    (hP : P x.session stream) :
    Reads P x (x.slot.bodyOf? (x.slot.buffer ++ stream)) (x.readChunked .request) := by
  let s : Slot := { x.slot with decoder := x.slot.decoder.start }
  obtain ⟨r, t, session, rest, hpump, hP', hr⟩ :=
    pump_chunkTest (x := ⟨s, x.session⟩) hF .request rfl hP
  have hpump : x.readChunked .request = (r, ⟨t, session⟩) := hpump
  rw [Slot.bodyOf?, if_pos hc, hpump]
  cases r with
  | ok _ =>
    obtain ⟨hf, hfin, ht, hrest⟩ := hr
    simp only
    rw [if_pos ⟨hf, hfin⟩]
    refine ⟨rfl, ⟨rest, hP', hrest⟩, ?_, ?_⟩
    · rw [ht]
      exact Chunk.reset_decode _ _
    · rw [ht]
      rfl
  | error f =>
    simp only
    rw [if_neg hr]
    exact ⟨f, rfl⟩

theorem readSized_reads (hF : Feeds P) {n : Nat} (hc : x.slot.request.isChunked = false)
    (hn : x.slot.request.contentLength = .ok (some n)) (hP : P x.session stream) :
    Reads P x (x.slot.bodyOf? (x.slot.buffer ++ stream)) (x.readSized n .request) := by
  obtain ⟨r, t, session, rest, hread, hleft, hr⟩ := readSized_until hF.until n .request hP
  rw [Slot.bodyOf?, hc, if_neg Bool.false_ne_true, hn, hread]
  cases r with
  | ok _ =>
    obtain ⟨hfits, ht, hrest⟩ := hr
    simp only
    rw [if_pos hfits]
    refine ⟨rfl, ⟨rest, hleft.of_feeds, hrest⟩, ?_, ?_⟩
    · rw [ht]
      rfl
    · rw [ht]
      rfl
  | error f =>
    simp only
    rw [if_neg hr]
    exact ⟨f, rfl⟩

/-- Reading a body from a feed is reading it from the whole stream. -/
theorem readBody_reads (hF : Feeds P) (hP : P x.session stream) :
    Reads P x (x.slot.bodyOf? (x.slot.buffer ++ stream)) x.readBody := by
  by_cases hc : x.slot.request.isChunked = true
  · rw [Link.readBody, if_pos hc]
    exact readChunked_reads hF hc hP
  · have hc : x.slot.request.isChunked = false := by simpa using hc
    rcases hn : x.slot.request.contentLength with f | _ | n
    · rw [Slot.bodyOf?, Link.readBody, hc, if_neg Bool.false_ne_true, if_neg Bool.false_ne_true, hn]
      exact ⟨f, rfl⟩
    · rw [Slot.bodyOf?, Link.readBody, hc, if_neg Bool.false_ne_true, if_neg Bool.false_ne_true, hn]
      exact ⟨rfl, ⟨stream, hP, rfl⟩, rfl, rfl⟩
    · rw [Link.readBody, hc, if_neg Bool.false_ne_true, hn]
      exact readSized_reads hF hc hn hP

/-- A head that is accepted fits. -/
def AcceptedFits (s : Slot) (stream : Bytes) : Prop :=
  ∀ head after, Head.split? (Head.dropBlankLines stream) = some (head, after) →
    (s.cleared.openRequest head).1 = .ok () → HeadFits .request s.limits head

/-- Reading a request is finding its head, opening the request, and reading the body. -/
theorem readRequest_eq (x : Link σ) :
    x.readRequest = match (x.mapSlot Slot.cleared).pump (headTest .request) with
      | (.error f, x) => (.error f, x)
      | (.ok head, x) =>
        match x.slot.openRequest head with
        | (.error f, slot) => (.error f, { x with slot })
        | (.ok (), slot) =>
          if slot.request.expectContinue then (.ok (), { x with slot })
          else Link.readBody { x with slot } := rfl

/-- If the head of a chunked body is in the buffer, the body is read at once. -/
theorem readRequest_of_chunked {x : Link σ} {head : Request} {after : Bytes}
    (hhead : x.slot.headOf? x.slot.buffer = some (head, after)) (hchunked : head.isChunked = true)
    (hexpect : head.expectContinue = false) :
    x.readRequest = Link.readChunked .request
      { x with slot := { x.slot.cleared with request := head, buffer := after } } := by
  obtain ⟨bytes, t, hsplit, hopen, rfl⟩ := headOf?_eq_some_iff.1 hhead
  have hslot := openRequest_slot x.slot.cleared bytes
  rw [hopen] at hslot
  obtain ⟨request, rfl⟩ : ∃ r, t = { x.slot.cleared with request := r } := ⟨_, hslot⟩
  have hopened := openRequest_buffer x.slot.cleared bytes after
  rw [hopen] at hopened
  have hpump : (x.mapSlot Slot.cleared).pump (headTest .request) =
      (.ok bytes, { x with slot := { x.slot.cleared with buffer := after } }) :=
    Link.pump_done (headTest_of_split hsplit)
  rw [readRequest_eq, hpump]
  simp only [hopened]
  rw [if_neg (by rw [hexpect]; exact Bool.false_ne_true), Link.readBody, if_pos hchunked]

/-- Reading a request from a feed finds the head that the whole stream begins with, and leaves the slot with the
request that is opened and nothing else; the body is read from where the head has ended, unless the client waits for a
go-ahead. -/
theorem readRequest_opens (hF : Feeds P) (hP : P x.session stream)
    (hfit : AcceptedFits x.slot (x.slot.buffer ++ stream)) :
    match x.slot.headOf? (x.slot.buffer ++ stream) with
    | some (r, after) => ∃ b session rest, P session rest ∧ b ++ rest = after ∧
        x.readRequest =
          if r.expectContinue then (.ok (), ⟨{ x.slot.cleared with request := r, buffer := b }, session⟩)
          else Link.readBody ⟨{ x.slot.cleared with request := r, buffer := b }, session⟩
    | none => ∃ f, x.readRequest.1 = .error f := by
  obtain ⟨r, t, session, rest, hpump, hP', hr⟩ :=
    pump_headTest (x := x.mapSlot Slot.cleared) .request hF hP
  rw [readRequest_eq, hpump, Slot.headOf?]
  cases r with
  | error f =>
    rcases hs : Head.split? (Head.dropBlankLines (x.slot.buffer ++ stream)) with _ | ⟨head, after⟩
    · exact ⟨f, rfl⟩
    · rcases ho : x.slot.cleared.openRequest head with ⟨g | u, t⟩
      · simp only [Option.bind_some, ho]
        exact ⟨f, rfl⟩
      · exact absurd (hfit head after hs (by rw [ho])) (hr head after hs)
  | ok head =>
    obtain ⟨ht, hs⟩ := hr
    have hs : Head.split? (Head.dropBlankLines (x.slot.buffer ++ stream)) =
      some (head, t.buffer ++ rest) := hs
    have hopen := openRequest_buffer (x.mapSlot Slot.cleared).slot head t.buffer
    rw [← ht] at hopen
    have hopen : t.openRequest head = ((x.slot.cleared.openRequest head).1,
      { (x.slot.cleared.openRequest head).2 with buffer := t.buffer }) := hopen
    have hslot := openRequest_slot x.slot.cleared head
    rw [hs]
    simp only [hopen, Option.bind_some]
    rcases ho : x.slot.cleared.openRequest head with ⟨g | u, t'⟩
    · exact ⟨g, rfl⟩
    · rw [ho] at hslot
      obtain ⟨r, rfl⟩ : ∃ r, t' = { x.slot.cleared with request := r } := ⟨_, hslot⟩
      exact ⟨t.buffer, session, rest, hP', rfl, rfl⟩

/-- Reading a request from a feed goes as far as reading the head from the whole stream; the body is read from
where the head has ended, unless the client waits for a go-ahead. -/
theorem readRequest_reads (hF : Feeds P) (hP : P x.session stream)
    (hfit : AcceptedFits x.slot (x.slot.buffer ++ stream)) :
    match x.slot.headOf? (x.slot.buffer ++ stream) with
    | some (r, rest) => ∃ y, Leaves P (x.mapSlot Slot.cleared) r rest y ∧
        x.readRequest = if r.expectContinue then (.ok (), y) else y.readBody
    | none => ∃ f, x.readRequest.1 = .error f := by
  have hopens := readRequest_opens hF hP hfit
  rcases hh : x.slot.headOf? (x.slot.buffer ++ stream) with _ | ⟨r, after⟩ <;> rw [hh] at hopens
  · exact hopens
  · obtain ⟨b, session, rest, hP', hafter, hread⟩ := hopens
    exact ⟨⟨{ x.slot.cleared with request := r, buffer := b }, session⟩, ⟨⟨rest, hP', hafter⟩, rfl, rfl⟩, hread⟩

/-- A link over a stream that has ended reads no request. -/
theorem readRequest_ended (hF : Feeds P) (hroom : 0 < lineRoom x.slot.limits .request) (hx : x.slot.buffer = [])
    (hP : P x.session []) : ∃ f y, IsEnd f ∧ x.readRequest = (.error f, y) ∧ P y.session [] := by
  have htest := headTest_of_empty (s := (x.mapSlot Slot.cleared).slot) hroom hx
  obtain ⟨f, session, hf, hP', hfill⟩ := Link.fill_done (x := x.mapSlot Slot.cleared) hF hP
  refine ⟨f, ⟨(x.mapSlot Slot.cleared).slot, session⟩, hf, ?_, hP'⟩
  rw [readRequest_eq, Link.pump_more_error htest hfill]

/-- Reads a request with its body, whether or not the client waits for a go-ahead. -/
def Link.readWhole (x : Link σ) : Except Fault Unit × Link σ :=
  match x.readRequest with
  | (.error f, x) => (.error f, x)
  | (.ok (), x) => if x.slot.request.expectContinue then x.readBody else (.ok (), x)

theorem bodyOf?_congr {s t : Slot} (hr : s.request = t.request)
    (hl : s.limits.maxBody = t.limits.maxBody) (hd : s.decoder.reset = t.decoder.reset) (w : Bytes) :
    s.bodyOf? w = t.bodyOf? w := by
  have hstart : s.decoder.start = t.decoder.start := by rw [Chunk.Decoder.start, hd]; rfl
  have hdel : ∀ data trailers, (s.deliver .request data trailers).request =
      (t.deliver .request data trailers).request := by
    intro data trailers
    simp only [Slot.deliver, hr]
  simp only [Slot.bodyOf?, hr, hl, hstart, hdel]

/-- Reading a body keeps the wish for a go-ahead. -/
theorem expectContinue_of_bodyOf? {s : Slot} {w rest : Bytes} {r : Request}
    (h : s.bodyOf? w = some (r, rest)) : r.expectContinue = s.request.expectContinue := by
  simp only [Slot.bodyOf?] at h
  repeat' split at h
  all_goals first
    | obtain ⟨rfl, -⟩ := Prod.mk.inj (Option.some.inj h)
      rfl
    | exact absurd h (by simp)

/-- Reading a body keeps the first line of the request. -/
theorem line_of_bodyOf? {s : Slot} {w rest : Bytes} {r : Request} (h : s.bodyOf? w = some (r, rest)) :
    r.line = s.request.line := by
  simp only [Slot.bodyOf?] at h
  repeat' split at h
  all_goals first
    | obtain ⟨rfl, -⟩ := Prod.mk.inj (Option.some.inj h)
      rfl
    | exact absurd h (by simp)

omit [Transport σ] in
/-- What is read after a part of the request is read from the start. -/
theorem Reads.of_leaves {r : Request} {rest : Bytes} {y : Link σ} {out : Except Fault Unit × Link σ}
    {res : Option (Request × Bytes)} (hy : Leaves P x r rest y) (h : Reads P y res out) :
    Reads P x res out := by
  rcases res with _ | ⟨r', rest'⟩
  · exact h
  · obtain ⟨hok, hfeeds, hlimits, hslot⟩ := h
    refine ⟨hok, hfeeds, hlimits.trans hy.limits, ?_⟩
    rw [hslot, hy.slot]

/-- The body that follows a head which was read from the start is read as from the start. -/
theorem readBody_of_leaves (hF : Feeds P) {r : Request} {rest : Bytes} {y : Link σ}
    (hy : Leaves P (x.mapSlot Slot.cleared) r rest y) :
    Reads P (x.mapSlot Slot.cleared) (Slot.bodyOf? { x.slot with request := r } rest) y.readBody := by
  obtain ⟨stream', hP', hrest⟩ := hy.feeds
  have hr : y.slot.request = r := by rw [hy.slot]
  have hmax : y.slot.limits.maxBody = x.slot.limits.maxBody := by rw [hy.slot]; rfl
  have hreset : y.slot.decoder.reset = x.slot.decoder.reset := hy.limits
  have hread := readBody_reads hF hP'
  rw [hrest, bodyOf?_congr (t := { x.slot with request := r }) hr hmax hreset rest] at hread
  exact hread.of_leaves hy

/-- Reading a whole request from a feed is reading it from the whole stream. -/
theorem readWhole_reads (hF : Feeds P) (hP : P x.session stream)
    (hfit : AcceptedFits x.slot (x.slot.buffer ++ stream)) :
    Reads P (x.mapSlot Slot.cleared) (x.slot.requestOf? (x.slot.buffer ++ stream)) x.readWhole := by
  have hhead := readRequest_reads hF hP hfit
  rw [Slot.requestOf?]
  rcases hh : x.slot.headOf? (x.slot.buffer ++ stream) with _ | ⟨r, rest⟩ <;>
    simp only [hh, Option.bind_none, Option.bind_some] at hhead ⊢
  · obtain ⟨f, hf⟩ := hhead
    refine ⟨f, ?_⟩
    rw [Link.readWhole]
    split <;> simp_all
  · obtain ⟨y, hy, hx⟩ := hhead
    have hr : y.slot.request = r := by rw [hy.slot]
    have hread := readBody_of_leaves hF hy
    have hwhole : x.readWhole = y.readBody := by
      rw [Link.readWhole, hx]
      by_cases he : r.expectContinue = true
      · rw [if_pos he]
        exact if_pos (by rw [hr]; exact he)
      · rw [if_neg he]
        -- the request that has been read does not ask for a go-ahead either
        rcases hb : Slot.bodyOf? { x.slot with request := r } rest with _ | ⟨r', rest'⟩ <;>
          rw [hb] at hread
        · obtain ⟨f, hf⟩ := hread
          split <;> simp_all
        · obtain ⟨hok, hout⟩ := hread
          have he' : ¬ y.readBody.2.slot.request.expectContinue = true := by
            rw [hout.slot, expectContinue_of_bodyOf? hb]
            exact he
          rw [show y.readBody = (.ok (), y.readBody.2) from Prod.ext hok rfl]
          exact if_neg he'
    rw [hwhole]
    exact hread

end Loops

end Switchboard.Exchange
