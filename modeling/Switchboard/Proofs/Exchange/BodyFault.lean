import Switchboard.Proofs.Exchange.Bounds
import Switchboard.Proofs.Http.Framing

/-!
How reading a body ends. The body that a head announces is there in the stream, or it is not; if it is not, either the
stream shows what is wrong with it (`Slot.bodyFault?`) or the stream is too short. A link that is fed the stream bit by
bit comes to the same (`readBody_ends`): it reads the body if it is there, fails with what is wrong with it, and fails at
the end of the stream otherwise. Neither the slot with the body nor the fault depends on the cutting.
-/

namespace Switchboard.Exchange

open Http

namespace Slot

/-- What is wrong with the body at the front of a stream. -/
def bodyFault? (s : Slot) (stream : Bytes) : Option Fault :=
  if s.request.isChunked then (s.decoder.start.decode stream).fault
  else
    match s.request.contentLength with
    | .error f => some f
    | .ok none => none
    | .ok (some n) => sizeFault? s.limits n

/-- What is wrong with a body is what the other side has sent. -/
theorem category_bodyFault? {s : Slot} {stream : Bytes} {f : Fault} (h : s.bodyFault? stream = some f) :
    f.category = .clientData := by
  unfold bodyFault? at h
  split at h
  · exact Chunk.category_of_decode h
  · split at h
    next g hlength =>
      obtain rfl := Option.some.inj h
      obtain ⟨value, rfl⟩ := (Fields.contentLength_error hlength).2
      rfl
    · exact absurd h (by simp)
    · unfold sizeFault? at h
      split at h
      · obtain rfl := Option.some.inj h
        rfl
      · exact absurd h (by simp)

/-- The decoder after the body at the front of a stream. -/
def bodyDecoder (s : Slot) (stream : Bytes) : Chunk.Decoder :=
  if s.request.isChunked then (s.decoder.start.decode stream).decoder else s.decoder

end Slot

/-- What reading a body comes to for a slot, if `full` is what is in its buffer with what is to come. -/
inductive BodyEnds {σ : Type} (P : Session σ → Bytes → Prop) (s : Slot) (full : Bytes) :
    Except Fault Unit × Link σ → Prop where
  | read {r : Request} {rest : Bytes} {y : Link σ} (body : s.bodyOf? full = some (r, rest))
    (feeds : ∃ stream, P y.session stream ∧ y.slot.buffer ++ stream = rest)
    (slot : y.slot = { s with request := r, buffer := y.slot.buffer, decoder := s.bodyDecoder full }) :
    BodyEnds P s full (.ok (), y)
  | failed {f : Fault} {y : Link σ} (body : s.bodyOf? full = none)
    (fault : FailsWith IsEnd (s.bodyFault? full) f) (feeds : ∃ stream, P y.session stream)
    (receives : s.Receives y.slot) (line : y.slot.request.line = s.request.line) :
    BodyEnds P s full (.error f, y)

section Ends

variable {σ : Type} [Transport σ] {P : Session σ → Bytes → Prop} {x : Link σ} {stream : Bytes}

theorem readChunked_ends (hF : Feeds P) (hc : x.slot.request.isChunked = true) (hP : P x.session stream) :
    BodyEnds P x.slot (x.slot.buffer ++ stream) x.readBody := by
  have hreceives := x.receives_readBody
  have hline := x.line_readBody
  let s : Slot := { x.slot with decoder := x.slot.decoder.start }
  obtain ⟨r, t, session, rest, hpump, hleft, hr, hend⟩ :=
    pump_chunkTest_ends (x := ⟨s, x.session⟩) hF.until .request rfl hP
  have hread : x.readBody = (r, ⟨t, session⟩) := by
    rw [Link.readBody, if_pos hc]
    exact hpump
  have hfault : x.slot.bodyFault? (x.slot.buffer ++ stream) =
      (s.decoder.decode (x.slot.buffer ++ stream)).fault := if_pos hc
  have hdecoder : x.slot.bodyDecoder (x.slot.buffer ++ stream) =
      (s.decoder.decode (x.slot.buffer ++ stream)).decoder := if_pos hc
  rw [hread] at hreceives hline ⊢
  cases r with
  | ok _ =>
    obtain ⟨hf, hfin, ht, hrest⟩ := hr
    refine .read (r := (s.decoded .request (s.decoder.decode (x.slot.buffer ++ stream))).request) ?_
      ⟨rest, hleft.of_feeds, hrest⟩ ?_
    · rw [Slot.bodyOf?, if_pos hc]
      exact if_pos ⟨hf, hfin⟩
    · rw [hdecoder, ht]
      rfl
  | error f =>
    refine .failed ?_ ?_ ⟨rest, hleft.of_feeds⟩ hreceives hline
    · rw [Slot.bodyOf?, if_pos hc]
      exact if_neg hr
    · rw [hfault]
      exact hend f rfl

theorem readSizedBody_ends (hF : Feeds P) {n : Nat} (hc : x.slot.request.isChunked = false)
    (hn : x.slot.request.contentLength = .ok (some n)) (hP : P x.session stream) :
    BodyEnds P x.slot (x.slot.buffer ++ stream) x.readBody := by
  have hreceives := x.receives_readBody
  have hline := x.line_readBody
  obtain ⟨r, t, session, rest, hread, hleft, hr, hend⟩ := readSized_ends hF.until n .request hP
  have hread : x.readBody = (r, ⟨t, session⟩) := by
    rw [Link.readBody, hc, if_neg Bool.false_ne_true, hn]
    exact hread
  have hfault : x.slot.bodyFault? (x.slot.buffer ++ stream) = sizeFault? x.slot.limits n := by
    rw [Slot.bodyFault?, hc, if_neg Bool.false_ne_true, hn]
  have hdecoder : x.slot.bodyDecoder (x.slot.buffer ++ stream) = x.slot.decoder := by
    rw [Slot.bodyDecoder, hc, if_neg Bool.false_ne_true]
  rw [hread] at hreceives hline ⊢
  cases r with
  | ok _ =>
    obtain ⟨hfits, ht, hrest⟩ := hr
    refine .read (r := (x.slot.deliver .request ((x.slot.buffer ++ stream).take n) []).request) ?_
      ⟨rest, hleft.of_feeds, hrest⟩ ?_
    · rw [Slot.bodyOf?, hc, if_neg Bool.false_ne_true, hn]
      exact if_pos hfits
    · rw [hdecoder, ht]
      rfl
  | error f =>
    refine .failed ?_ ?_ ⟨rest, hleft.of_feeds⟩ hreceives hline
    · rw [Slot.bodyOf?, hc, if_neg Bool.false_ne_true, hn]
      exact if_neg hr
    · rw [hfault]
      exact hend f rfl

/-- Reading a body from a feed comes to what the whole stream says. -/
theorem readBody_ends (hF : Feeds P) (hP : P x.session stream) :
    BodyEnds P x.slot (x.slot.buffer ++ stream) x.readBody := by
  by_cases hc : x.slot.request.isChunked = true
  · exact readChunked_ends hF hc hP
  have hc : x.slot.request.isChunked = false := by simpa using hc
  rcases hn : x.slot.request.contentLength with f | _ | n
  · have hread : x.readBody = (.error f, x) := by rw [Link.readBody, hc, if_neg Bool.false_ne_true, hn]
    rw [hread]
    refine .failed ?_ (Or.inl ?_) ⟨stream, hP⟩ (.refl _) rfl
    · rw [Slot.bodyOf?, hc, if_neg Bool.false_ne_true, hn]
    · rw [Slot.bodyFault?, hc, if_neg Bool.false_ne_true, hn]
  · have hread : x.readBody = (.ok (), x) := by rw [Link.readBody, hc, if_neg Bool.false_ne_true, hn]
    rw [hread]
    refine .read (r := x.slot.request) ?_ ⟨stream, hP, rfl⟩ ?_
    · rw [Slot.bodyOf?, hc, if_neg Bool.false_ne_true, hn]
    · rw [Slot.bodyDecoder, hc, if_neg Bool.false_ne_true]
  · exact readSizedBody_ends hF hc hn hP

end Ends

end Switchboard.Exchange
