import Switchboard.Proofs.Http.StrictFields
import Switchboard.Proofs.Server.Framing

/-!
What rests on reading the fields of a request more loosely than they are written. The coding, the wish to go on and the
wish for a go-ahead are what a strict reader finds if and only if this is so for the one token that decides each
(`tokens_strict_iff`). In a head that was read, which has no control characters, it is not so only where an element
that is not ASCII is let in as that token. The length of a body is what the first length field is taken for, and a
strict reader finds the same unless that has a plus sign or is not ASCII (`declared_length_strict_iff`).

Nothing is said here of a length beside the chunked coding, nor of lengths after the first.
-/

namespace Switchboard.Server

open Http
open Exchange

section Heads

variable {s : Slot} {stream after : Bytes} {head : Request}

/-- The fields of a head that was read can be sent. -/
theorem sendable_of_headOf? (h : s.headOf? stream = some (head, after)) : ∀ f ∈ head.fields.toList, f.Sendable := by
  obtain ⟨⟨bytes, line, l, -, hparse, -⟩, -⟩ := hasHead_of_headOf? h
  exact Head.sendable_of_parse hparse

/-- The elements of lists in a head that was read hold no control characters but tabs. -/
theorem control_of_mem_parts (h : s.headOf? stream = some (head, after)) {name : String} {part : List Char}
    (hpart : part ∈ head.fields.parts name) : ∀ c ∈ part, Text.isControl c = true → c = '\t' := by
  obtain ⟨f, hf, -, hpart⟩ := Fields.mem_parts_iff.1 hpart
  exact fun c hc => (sendable_of_headOf? h f hf).value c (Text.mem_of_mem_splitOn hpart hc)

/-! ## Tokens -/

/-- The token that decides whether a client of this version goes on. -/
def persistenceToken : Version → String
  | .http11 => "close"
  | .http10 => "keep-alive"

/-- The client wants to go on, as a strict reader finds. -/
def KeepsStrictly (r : Request) : Prop :=
  match r.version with
  | .http11 => ¬ r.fields.Lists Text.isSpaceTab "Connection" "close"
  | .http10 => r.fields.Lists Text.isSpaceTab "Connection" "keep-alive"

theorem isChunked_strict_iff (r : Request) :
    (r.isChunked = true ↔ r.fields.Lists Text.isSpaceTab "Transfer-Encoding" "chunked") ↔
      r.fields.TellsStrictly "Transfer-Encoding" "chunked" :=
  Fields.hasToken_strict_iff_of_isBare (by decide)

theorem keepAlive_strict_iff (r : Request) :
    (r.keepAlive = true ↔ KeepsStrictly r) ↔ r.fields.TellsStrictly "Connection" (persistenceToken r.version) := by
  unfold Request.keepAlive KeepsStrictly
  rcases r.version with _ | _
  · exact Fields.hasToken_strict_iff_of_isBare (by decide)
  · rw [Bool.not_eq_true', ← Bool.not_eq_true, not_iff_not]
    exact Fields.hasToken_strict_iff_of_isBare (by decide)

theorem expectContinue_strict_iff (h : s.headOf? stream = some (head, after)) :
    (head.expectContinue = true ↔ head.fields.Lists Text.isSpaceTab "Expect" "100-continue") ↔
      head.fields.TellsStrictly "Expect" "100-continue" := by
  obtain ⟨-, hexpect, -⟩ := headOf?_tells h
  rw [hexpect]
  exact Fields.hasToken_strict_iff_of_isBare (by decide)

/-- Tokens are looked for with all blanks taken off, so that one is found just where a strict reader finds it, unless
it has blanks at its own ends or an element is let in as it. The coding, the wish to go on and the wish for a go-ahead
each rest on one token. In a head that was read, the elements that are let in as a token are those that are not
ASCII. -/
theorem tokens_strict_iff (h : Fields) (name token : String) (r : Request) :
    ((h.hasToken name token = true ↔ h.Lists Text.isSpaceTab name token) ↔
        (h.Lists Text.isSpaceTab name token → Text.IsBare Text.isBlank token.toList) ∧ h.TellsStrictly name token) ∧
      ((r.isChunked = true ↔ r.fields.Lists Text.isSpaceTab "Transfer-Encoding" "chunked") ↔
        r.fields.TellsStrictly "Transfer-Encoding" "chunked") ∧
      ((r.keepAlive = true ↔ KeepsStrictly r) ↔
        r.fields.TellsStrictly "Connection" (persistenceToken r.version)) ∧
      ∀ (s : Slot) (stream after : Bytes), s.headOf? stream = some (r, after) →
        ((r.expectContinue = true ↔ r.fields.Lists Text.isSpaceTab "Expect" "100-continue") ↔
          r.fields.TellsStrictly "Expect" "100-continue") ∧
        ((∀ c ∈ token.toList, c.toNat < 0x80) → ∀ part ∈ r.fields.parts name,
          ReadsAs Text.isBlank token part → (IsLoose token part ↔ ∃ c ∈ part, 0x80 ≤ c.toNat)) := by
  refine ⟨Fields.hasToken_strict_iff h name token, isChunked_strict_iff r, keepAlive_strict_iff r, ?_⟩
  intro s stream after hhead
  refine ⟨expectContinue_strict_iff hhead, fun htoken part hpart hreads => ?_⟩
  exact hreads.isLoose_iff htoken (control_of_mem_parts hhead hpart)

/-- A request with a no-break space before the name of its coding. -/
def blankCoding : Bytes :=
  Text.utf8 "POST / HTTP/1.1\r\nTransfer-Encoding: \u00a0chunked\r\n\r\n0\r\n\r\n"

/-- The head of that request. -/
def blankCodingHead : Request where
  method := .post
  target := "/"
  fields := .ofPairs [("Transfer-Encoding", "\u00a0chunked")]

/-- The request is read as chunked, which a strict reader does not find. -/
theorem blankCoding_read :
    (Slot.new {}).headOf? blankCoding = some (blankCodingHead, Text.utf8 "0\r\n\r\n") ∧
      blankCodingHead.isChunked = true ∧
      ¬ blankCodingHead.fields.Lists Text.isSpaceTab "Transfer-Encoding" "chunked" ∧
      ∃ part ∈ blankCodingHead.fields.parts "Transfer-Encoding", IsLoose "chunked" part := by
  have hhead : (Slot.new {}).headOf? blankCoding = some (blankCodingHead, Text.utf8 "0\r\n\r\n") := by
    decide +kernel
  have hchunked : blankCodingHead.isChunked = true := by decide +kernel
  have hstrict : ¬ blankCodingHead.fields.Lists Text.isSpaceTab "Transfer-Encoding" "chunked" := by decide +kernel
  refine ⟨hhead, hchunked, hstrict, ?_⟩
  obtain ⟨-, hchunked_iff, -, -⟩ :=
    tokens_strict_iff blankCodingHead.fields "Transfer-Encoding" "chunked" blankCodingHead
  have htells : ¬ blankCodingHead.fields.TellsStrictly "Transfer-Encoding" "chunked" :=
    fun htells => hstrict ((hchunked_iff.2 htells).1 hchunked)
  rw [Fields.TellsStrictly, not_or] at htells
  simpa only [not_forall, not_not, exists_prop] using htells.2

/-! ## Lengths -/

/-- What a head declares of its body: nothing without a length field, else what the first one is taken for, which a
strict reader finds too, unless it has a plus sign or is not ASCII. -/
def Declares (head : Request) : Option Nat → Prop
  | none => head.fields.contains "Content-Length" = false
  | some n => ∃ value, head.fields.get? "Content-Length" = some value ∧ TakenLength value n ∧
      (StrictLength value n ↔ ∀ c ∈ value.toList, c ≠ '+' ∧ c.toNat < 0x80)

/-- A head that was read declares the length that its body is read with. -/
theorem declares_of_headOf? (h : s.headOf? stream = some (head, after)) {l : Option Nat}
    (hl : head.contentLength = .ok l) : Declares head l := by
  rcases l with _ | n
  · exact Fields.contentLength_eq_none_iff.1 hl
  · obtain ⟨value, hvalue, htaken⟩ := Fields.contentLength_eq_some_iff.1 hl
    obtain ⟨f, hf, rfl⟩ := Option.map_eq_some_iff.1 hvalue
    have hsendable := sendable_of_headOf? h f (List.mem_of_find?_eq_some hf)
    exact ⟨f.value, hvalue, htaken, htaken.strict_iff_ascii hsendable.value⟩

/-- The declared length is read strictly, unless the first length field has a plus sign, or blanks other than spaces and
tabs at its ends, and is taken for a length all the same. A body that is not chunked is what comes after the head, of
the length that this declares. -/
theorem declared_length_strict_iff {σ : Type} [Transport σ] (h : Fields) (x : Link (Recorded (Taped σ))) :
    (h.contentLength = .ok none ↔ h.contains "Content-Length" = false) ∧
      (h.LengthReadStrictly ↔ ∀ value ∈ h.get? "Content-Length", ¬ IsLooseLength value) ∧
      (∀ (s : Slot) (stream : Bytes) (head : Request) (after : Bytes), s.headOf? stream = some (head, after) →
        head.isChunked = false → ∃ l, head.contentLength = .ok l ∧ Declares head l) ∧
      ∃ got, Passed x.session.transport x.readWhole.2.session.transport got [] ∧
        (x.readWhole.1 = .ok () → ∃ head after, x.slot.headOf? (x.slot.buffer ++ got) = some (head, after) ∧
          (head.isChunked = false → ∃ l, Declares head l ∧
            x.readWhole.2.slot.request.body = after.take (l.getD 0) ∧
            x.readWhole.2.slot.request.body.length = l.getD 0)) := by
  refine ⟨Fields.contentLength_eq_none_iff, Fields.contentLength_strict_iff h, ?_, ?_⟩
  · intro s stream head after hhead hchunked
    obtain ⟨-, -, hlength⟩ := headOf?_tells hhead
    obtain ⟨l, hl⟩ := hlength hchunked
    exact ⟨l, hl, declares_of_headOf? hhead hl⟩
  · obtain ⟨got, hpassed, hread⟩ := x.readWhole_taped
    refine ⟨got, hpassed, fun hok => ?_⟩
    obtain ⟨⟨head, after⟩, hopens, hbody⟩ := Option.bind_eq_some_iff.1 (hread hok)
    obtain ⟨after', hhead, -, hsized⟩ := Complete.hasBody ⟨after, hopens, hbody⟩
    refine ⟨head, after', hhead, fun hchunked => ?_⟩
    rcases hsized hchunked with ⟨hl, hbody⟩ | ⟨n, hl, hbody, hlength⟩
    · have hbody : x.readWhole.2.slot.request.body = [] := hbody
      refine ⟨none, declares_of_headOf? hhead hl, ?_, ?_⟩ <;> rw [hbody] <;> rfl
    · exact ⟨some n, declares_of_headOf? hhead hl, hbody, hlength⟩

/-- A request whose length has a plus sign. -/
def plusLength : Bytes := Text.utf8 "POST / HTTP/1.1\r\nContent-Length: +5\r\n\r\nhello"

/-- The head of that request. -/
def plusLengthHead : Request where
  method := .post
  target := "/"
  fields := .ofPairs [("Content-Length", "+5")]

/-- A link on which that request comes. -/
def plusLink : Link (Recorded (Taped Script)) where
  slot := .new {}
  session := .new { inner := { inner := promptScript plusLength } }

/-- The request is read with a body of that length, where a strict reader finds no length. -/
theorem plusLength_read :
    plusLink.readWhole.1 = .ok () ∧ plusLink.readWhole.2.slot.request.body = Text.utf8 "hello" ∧
      (Slot.new {}).headOf? plusLength = some (plusLengthHead, Text.utf8 "hello") ∧
      TakenLength "+5" 5 ∧ (∀ n, ¬ StrictLength "+5" n) ∧ ¬ plusLengthHead.fields.LengthReadStrictly := by
  have hok : plusLink.readWhole.1 = .ok () := by decide +kernel
  have hreceived : plusLink.readWhole.2.session.transport.inner.received = plusLength := by decide +kernel
  have hopens : (Slot.new {}).headOf? plusLength = some (plusLengthHead, Text.utf8 "hello") := by decide +kernel
  have hfirst : plusLengthHead.fields.get? "Content-Length" = some "+5" := by decide
  have hnone : ∀ n, ¬ StrictLength "+5" n :=
    fun n h => absurd (h.numeral.digits '+' (by decide)) (by decide)
  obtain ⟨-, hstrict, -, got, hpassed, hread⟩ := declared_length_strict_iff plusLengthHead.fields plusLink
  obtain rfl : got = plusLength := hpassed.received.symm.trans hreceived
  obtain ⟨head, after, hhead, hbody⟩ := hread hok
  obtain ⟨rfl, rfl⟩ := Prod.mk.inj (Option.some.inj (hhead.symm.trans hopens))
  obtain ⟨l, hdeclares, hbody, -⟩ := hbody (by decide +kernel)
  rcases l with _ | n
  · have habsent : plusLengthHead.fields.contains "Content-Length" = false := hdeclares
    exact absurd habsent (by decide)
  obtain ⟨value, hvalue, htaken, -⟩ := hdeclares
  obtain rfl := Option.some.inj (hfirst.symm.trans hvalue)
  obtain rfl : n = 5 := Option.some.inj ((lengthOf?_eq_some_iff.2 htaken).symm.trans (by decide))
  exact ⟨hok, hbody, hopens, htaken, hnone,
    fun h => hstrict.1 h "+5" hfirst ⟨⟨5, htaken⟩, Or.inl (by decide)⟩⟩

end Heads
end Switchboard.Server
