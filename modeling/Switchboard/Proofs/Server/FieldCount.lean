import Switchboard.Proofs.Exchange.ResponseSegmentation
import Switchboard.Proofs.Exchange.ResponseTape
import Switchboard.Proofs.Http.Chunk.TrailerCount
import Switchboard.Proofs.Server.Framing
import Switchboard.Proofs.Server.Persistence

/-!
How many fields a message has that was read. The limit on their number is on those of the head. The trailer fields
of a chunked body are added to these, and of them only the bytes are limited, so that a message is within the limit on
the number if and only if its trailer fields fit in what its head leaves of it (`fieldCount_of_read`). As many trailer
fields as their bytes allow are read after any head that announces a chunked body (`addsFields_shortBody`).
-/

namespace Switchboard.Exchange

open Http

/-- The fields of a message: those of its head, within the limit on their number, and the trailer fields of its body, of
which each has taken three bytes at least of the limit on these. All are within the limit on the number if and only if
the trailer fields fit in what the head leaves of it. -/
structure Tally (l : Limits) (head : Fields) (trailers : List Field) (all : Fields) : Prop where
  parts : all = head.append trailers
  head_le : head.size ≤ Head.maxFields
  trailers_le : 3 * trailers.length ≤ l.maxHeader.toNat
  fits : all.size ≤ Head.maxFields ↔ trailers.length ≤ Head.maxFields - head.size

theorem size_append (h : Fields) (fs : List Field) : (h.append fs).size = h.size + fs.length := List.length_append

theorem tally_of_parts {l : Limits} {head : Fields} {trailers : List Field} (hhead : head.size ≤ Head.maxFields)
    (htrailers : 3 * trailers.length ≤ l.maxHeader.toNat) : Tally l head trailers (head.append trailers) := by
  refine ⟨rfl, hhead, htrailers, ?_⟩
  rw [size_append]
  omega

/-! ## Requests -/

section Requests

variable {s : Slot} {stream after rest : Bytes} {head r : Request}

theorem size_le_of_headOf? (h : s.headOf? stream = some (head, after)) : head.fields.size ≤ Head.maxFields := by
  obtain ⟨⟨bytes, line, l, -, hparse, -⟩, -⟩ := Server.hasHead_of_headOf? h
  exact Head.size_le_of_parse hparse

theorem three_mul_trailersOf_le (s : Slot) (head : Request) (after : Bytes) :
    3 * (s.trailersOf head after).length ≤ s.decoder.maxTrailer := by
  unfold Slot.trailersOf
  split
  · exact Chunk.three_mul_trailers_le s.decoder after
  · exact Nat.zero_le _

theorem tally_of_requestOf? {l : Limits} (h : (Slot.new l).requestOf? stream = some (r, rest)) :
    ∃ head after, (Slot.new l).headOf? stream = some (head, after) ∧
      Tally l head.fields ((Slot.new l).trailersOf head after) r.fields := by
  obtain ⟨⟨head, after⟩, hhead, hbody⟩ := Option.bind_eq_some_iff.1 h
  refine ⟨head, after, hhead, ?_⟩
  rw [(fields_of_bodyOf? hbody).2]
  exact tally_of_parts (size_le_of_headOf? hhead) (three_mul_trailersOf_le _ _ _)

end Requests

/-! ## Responses -/

section Responses

variable {s : Slot} {toHead : Bool} {e : StreamEnd} {stream after rest : Bytes} {head r : Response}

/-- The trailer fields of the body that the head of a response announces and that is at the front of a stream. -/
def Slot.responseTrailersOf (s : Slot) (toHead : Bool) (head : Response) (after : Bytes) : List Field :=
  if Link.isBodiless toHead head.status then []
  else if head.isChunked then (s.decoder.start.decode after).trailers else []

/-- Reading the body adds its trailer fields to the fields of the head. -/
theorem fields_of_responseBodyOf?
    (h : Slot.responseBodyOf? { s.unanswered with response := head } toHead e after = some (r, rest)) :
    r.fields = head.fields.append (s.responseTrailersOf toHead head after) := by
  have hnone : head.fields.append [] = head.fields := by
    rw [Fields.append, List.append_nil]
  unfold Slot.responseTrailersOf
  unfold Slot.responseBodyOf? at h
  by_cases hb : Link.isBodiless toHead head.status = true
  · rw [if_pos hb] at h ⊢
    obtain ⟨rfl, -⟩ := Prod.mk.inj (Option.some.inj h)
    exact hnone.symm
  rw [if_neg hb] at h ⊢
  by_cases hc : head.isChunked = true
  · rw [if_pos hc] at h ⊢
    simp only [Slot.chunkedOf?] at h
    split at h
    · obtain ⟨rfl, -⟩ := Prod.mk.inj (Option.some.inj h)
      rfl
    · exact absurd h (by simp)
  rw [if_neg hc] at h ⊢
  -- a body of another kind is delivered with no fields
  simp only [Slot.sizedOf?, Slot.untilClosedOf?] at h
  repeat' split at h
  all_goals first
    | obtain ⟨rfl, -⟩ := Prod.mk.inj (Option.some.inj h)
      rfl
    | exact absurd h (by simp)

theorem size_le_of_responseHeadOf? (h : s.responseHeadOf? stream = some (head, after)) :
    head.fields.size ≤ Head.maxFields := by
  obtain ⟨bytes, t, -, ho, rfl⟩ := responseHeadOf?_eq_some_iff.1 h
  obtain ⟨line, fields, l, hparse, -, rfl⟩ := openResponse_eq_ok_iff.1 ho
  exact Head.size_le_of_parse hparse

theorem three_mul_responseTrailersOf_le (s : Slot) (toHead : Bool) (head : Response) (after : Bytes) :
    3 * (s.responseTrailersOf toHead head after).length ≤ s.decoder.maxTrailer := by
  unfold Slot.responseTrailersOf
  split
  · exact Nat.zero_le _
  split
  · exact Chunk.three_mul_trailers_le s.decoder after
  · exact Nat.zero_le _

theorem tally_of_responseOf? {l : Limits} (h : (Slot.new l).responseOf? toHead e stream = some (r, rest)) :
    ∃ head after, (Slot.new l).responseHeadOf? stream = some (head, after) ∧
      Tally l head.fields ((Slot.new l).responseTrailersOf toHead head after) r.fields := by
  obtain ⟨⟨head, after⟩, hhead, hbody⟩ := Option.bind_eq_some_iff.1 h
  refine ⟨head, after, hhead, ?_⟩
  rw [fields_of_responseBodyOf? hbody]
  exact tally_of_parts (size_le_of_responseHeadOf? hhead) (three_mul_responseTrailersOf_le _ _ _ _)

end Responses

/-! ## Bodies with many fields -/

section Bodies

variable {s : Slot} {l : Limits} {w : Bytes} {n : Nat}

/-- A chunked body that the decoder takes as a whole is read with its trailer fields. -/
theorem exists_bodyOf?_of_decode (hc : s.request.isChunked = true)
    (hfault : (s.decoder.start.decode w).fault = none)
    (hfin : (s.decoder.start.decode w).decoder.isFinished = true)
    (hall : (s.decoder.start.decode w).consumed = w.length) :
    ∃ r, s.bodyOf? w = some (r, []) ∧ r.fields = s.request.fields.append (s.decoder.start.decode w).trailers := by
  refine ⟨(s.deliver .request (s.decoder.start.decode w).data (s.decoder.start.decode w).trailers).request, ?_, rfl⟩
  rw [Slot.bodyOf?, if_pos hc]
  simp only
  rw [if_pos ⟨hfault, hfin⟩, hall, List.drop_length]

theorem exists_chunkedOf?_of_decode (hfault : (s.decoder.start.decode w).fault = none)
    (hfin : (s.decoder.start.decode w).decoder.isFinished = true)
    (hall : (s.decoder.start.decode w).consumed = w.length) :
    ∃ r, s.chunkedOf? w = some (r, []) ∧ r.fields = s.response.fields.append (s.decoder.start.decode w).trailers := by
  refine ⟨(s.deliver .response (s.decoder.start.decode w).data (s.decoder.start.decode w).trailers).response, ?_, rfl⟩
  simp only [Slot.chunkedOf?]
  rw [if_pos ⟨hfault, hfin⟩, hall, List.drop_length]

/-- A head that announces a chunked body, with the shortest lines in the body, is a request with so many fields more. -/
theorem exists_requestOf?_shortBody (hn : 3 * n ≤ l.maxHeader.toNat) {front : Bytes} {head : Request}
    (hhead : (Slot.new l).headOf? front = some (head, [])) (hc : head.isChunked = true) :
    ∃ r, (Slot.new l).requestOf? (front ++ (Chunk.shortBody n).wire) = some (r, []) ∧
      r.fields.size = head.fields.size + n := by
  obtain ⟨hfault, hfin, hall, hcount⟩ :=
    Chunk.decode_shortBody (d := (Slot.new l).decoder) l.maxBody.toNat_lt hn
  obtain ⟨r, hbody, hfields⟩ :=
    exists_bodyOf?_of_decode (s := { Slot.new l with request := head }) hc hfault hfin hall
  refine ⟨r, ?_, ?_⟩
  · rw [Slot.requestOf?, headOf?_append hhead, Option.bind_some]
    exact hbody
  · rw [hfields, size_append]
    exact congrArg _ hcount

theorem exists_responseOf?_shortBody (hn : 3 * n ≤ l.maxHeader.toNat) {toHead : Bool} (e : StreamEnd) {front : Bytes}
    {head : Response} (hhead : (Slot.new l).responseHeadOf? front = some (head, []))
    (hb : ¬ Link.isBodiless toHead head.status = true) (hc : head.isChunked = true) :
    ∃ r, (Slot.new l).responseOf? toHead e (front ++ (Chunk.shortBody n).wire) = some (r, []) ∧
      r.fields.size = head.fields.size + n := by
  obtain ⟨hfault, hfin, hall, hcount⟩ :=
    Chunk.decode_shortBody (d := (Slot.new l).decoder) l.maxBody.toNat_lt hn
  obtain ⟨r, hbody, hfields⟩ :=
    exists_chunkedOf?_of_decode (s := { (Slot.new l).unanswered with response := head }) hfault hfin hall
  refine ⟨r, ?_, ?_⟩
  · rw [Slot.responseOf?, responseHeadOf?_append hhead, Option.bind_some, Slot.responseBodyOf?, if_neg hb, if_pos hc]
    exact hbody
  · rw [hfields, size_append]
    exact congrArg _ hcount

/-- After any head that announces a chunked body, some bytes are a body that adds so many fields to those of the head,
however the message is delivered. -/
structure AddsFields (l : Limits) (n : Nat) (body : Bytes) : Prop where
  request : ∀ front head, (Slot.new l).headOf? front = some (head, []) → head.isChunked = true →
    ∀ y : Link Script, (Slot.new l).SameLimits y.slot → y.unread = front ++ body → y.IsSteady →
      y.readWhole.1 = .ok () ∧ y.readWhole.2.slot.request.fields.size = head.fields.size + n
  response : ∀ toHead e front head, (Slot.new l).responseHeadOf? front = some (head, []) →
    ¬ Link.isBodiless toHead head.status = true → head.isChunked = true →
      (Slot.new l).LineFits toHead e (front ++ body) →
        ∀ y : Link Script, y.Delivers (.new l) (front ++ body) e →
          (y.readResponse toHead).1 = .ok () ∧
            (y.readResponse toHead).2.slot.response.fields.size = head.fields.size + n

/-- As many fields can be added as have three bytes each in the limit. -/
theorem addsFields_shortBody (hurl : l.maxUrl.toNat < 2 ^ 63) (hheader : l.maxHeader.toNat < 2 ^ 63)
    (hn : 3 * n ≤ l.maxHeader.toNat) : AddsFields l n (Chunk.shortBody n).wire := by
  constructor
  · intro front head hhead hc y hy hunread hsteady
    obtain ⟨r, hrequest, hsize⟩ := exists_requestOf?_shortBody hn hhead hc
    have hread := readWhole_steady (x := y) (hy.url ▸ hurl) (hy.header ▸ hheader) hsteady
    rw [hunread, ← requestOf?_congr hy, hrequest] at hread
    obtain ⟨hok, hr, -⟩ := hread
    exact ⟨hok, hr ▸ hsize⟩
  · intro toHead e front head hhead hb hc hfits y hy
    obtain ⟨r, hresponse, hsize⟩ := exists_responseOf?_shortBody hn e hhead hb hc
    have hheard := heard_of_lineFits hheader hfits hy
    rw [hresponse] at hheard
    obtain ⟨hok, hr, -⟩ := hheard
    exact ⟨hok, hr ▸ hsize⟩

end Bodies

/-! ## Messages -/

/-- Over any transport, a request that was read with its body, and a response that was read, is within the limit on the
number of fields if and only if the trailer fields fit in what the head leaves of it. Of trailer fields only the bytes
are limited: unless the limits are near the largest machine word, as many of them are read after any head of a chunked
message as have three bytes each in that limit. -/
theorem fieldCount_of_read {σ : Type} [Transport σ] {l : Limits} {x : Link (Recorded (Taped σ))}
    (hx : x.slot.SameLimits (.new l)) :
    (x.readWhole.1 = .ok () → ∃ got head after,
      Passed x.session.transport x.readWhole.2.session.transport got [] ∧
        (Slot.new l).headOf? (x.slot.buffer ++ got) = some (head, after) ∧
        Tally l head.fields ((Slot.new l).trailersOf head after) x.readWhole.2.slot.request.fields) ∧
      (∀ toHead, (x.readResponse toHead).1 = .ok () → ∃ got head after,
        Passed x.session.transport (x.readResponse toHead).2.session.transport got [] ∧
          (Slot.new l).responseHeadOf? (x.slot.buffer ++ got) = some (head, after) ∧
          Tally l head.fields ((Slot.new l).responseTrailersOf toHead head after)
            (x.readResponse toHead).2.slot.response.fields) ∧
      (l.maxUrl.toNat < 2 ^ 63 → l.maxHeader.toNat < 2 ^ 63 →
        ∀ n, 3 * n ≤ l.maxHeader.toNat → ∃ body, AddsFields l n body) := by
  refine ⟨fun hok => ?_, fun toHead hok => ?_, fun hurl hheader n hn => ⟨_, addsFields_shortBody hurl hheader hn⟩⟩
  · obtain ⟨got, hpassed, hread⟩ := x.readWhole_taped
    have hrequest := hread hok
    rw [requestOf?_congr hx] at hrequest
    obtain ⟨head, after, hhead, htally⟩ := tally_of_requestOf? hrequest
    exact ⟨got, head, after, hpassed, hhead, htally⟩
  · obtain ⟨got, hpassed, hread⟩ := x.readResponse_taped toHead
    have hresponse := hread hok
    rw [responseOf?_congr hx] at hresponse
    obtain ⟨head, after, hhead, htally⟩ := tally_of_responseOf? hresponse
    exact ⟨got, head, after, hpassed, hhead, htally⟩

/-- A request with one field in its head and as many trailer fields as a head may have. -/
def crowdedRequest : Bytes :=
  Text.utf8 "POST / HTTP/1.1\r\nTransfer-Encoding: chunked\r\n\r\n" ++ (Chunk.shortBody Head.maxFields).wire

/-- A link on which the request comes. -/
def crowdedLink : Link (Recorded (Taped Script)) where
  slot := .new {}
  session := .new { inner := { inner := { deliveries := [.bytes crowdedRequest] } } }

theorem crowdedRequest_read :
    crowdedLink.readWhole.1 = .ok () ∧
      crowdedLink.readWhole.2.slot.request.fields.size = Head.maxFields + 1 ∧
      ∃ head after, (Slot.new {}).headOf? crowdedRequest = some (head, after) ∧
        Head.maxFields - head.fields.size < ((Slot.new {}).trailersOf head after).length := by
  have hok : crowdedLink.readWhole.1 = .ok () := by decide +kernel
  have hsize : crowdedLink.readWhole.2.slot.request.fields.size = Head.maxFields + 1 := by decide +kernel
  have hreceived : crowdedLink.readWhole.2.session.transport.inner.received = crowdedRequest := by decide +kernel
  obtain ⟨hrequest, -, -⟩ := fieldCount_of_read (x := crowdedLink) (sameLimits_new (l := {}) rfl rfl rfl)
  obtain ⟨got, head, after, hpassed, hhead, htally⟩ := hrequest hok
  obtain rfl : got = crowdedRequest := hpassed.received.symm.trans hreceived
  refine ⟨hok, hsize, head, after, hhead, ?_⟩
  rw [← Nat.not_le, ← htally.fits, hsize]
  decide

end Switchboard.Exchange
