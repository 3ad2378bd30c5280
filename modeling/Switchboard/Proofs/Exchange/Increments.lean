import Switchboard.Proofs.Exchange.Reading
import Switchboard.Proofs.Http.Chunk.Completeness
import Switchboard.Proofs.Http.Chunk.Machine

/-!
Decoding a chunked body as it comes in. What is decoded bit by bit is what is decoded at once: the count of bytes, the
fault, the decoder, the body and the trailer fields are the same (`decodeChunks_in_parts`), from whatever state the
decoder is in. All that is half read is in the decoder, and a byte that is refused leaves the same behind wherever
the input was cut before it. That the octets of data are taken one by one makes no difference either: the machine, which
copies all that are there in one go, comes to the same, and how its input is cut shows in none of its registers.
-/

namespace Switchboard.Exchange

open Http

/-! ## Input in parts -/

/-- Decodes an input that comes in parts, one after the other, until a byte is refused. -/
def Slot.decodeParts (s : Slot) (dir : Direction) : List Bytes → Except Fault Nat × Slot
  | [] => (.ok 0, s)
  | part :: rest =>
    match s.decodeChunks dir part with
    | (.error f, t) => (.error f, t)
    | (.ok n, t) => ((t.decodeParts dir rest).1.map (n + ·), (t.decodeParts dir rest).2)

variable {s t : Slot} {dir : Direction} {a : Bytes}

theorem Slot.decodeChunks_eq (s : Slot) (dir : Direction) (input : Bytes) :
    s.decodeChunks dir input = ((s.decoder.decode input).result, s.decoded dir (s.decoder.decode input)) :=
  rfl

theorem fault_of_decodeChunks {n : Nat} (h : s.decodeChunks dir a = (.ok n, t)) :
    (s.decoder.decode a).fault = none ∧ (s.decoder.decode a).consumed = n ∧
      s.decoded dir (s.decoder.decode a) = t := by
  rw [Slot.decodeChunks_eq, Prod.mk.injEq] at h
  obtain ⟨hr, ht⟩ := h
  rcases hf : (s.decoder.decode a).fault with _ | f
  · rw [Chunk.result_of_fault hf, Except.ok.injEq] at hr
    exact ⟨rfl, hr, ht⟩
  · simp [Chunk.Progress.result, hf] at hr

theorem fault_of_refused {f : Fault} (h : s.decodeChunks dir a = (.error f, t)) :
    (s.decoder.decode a).fault.isSome := by
  rw [Slot.decodeChunks_eq, Prod.mk.injEq] at h
  rcases hf : (s.decoder.decode a).fault with _ | g
  · simp [Chunk.Progress.result, hf] at h
  · rfl

theorem result_before (p q : Chunk.Progress) :
    (p.before q).result = q.result.map (p.consumed + ·) := by
  rcases hq : q.fault with _ | f <;> simp [Chunk.Progress.result, Chunk.Progress.before, hq, Except.map]

/-- What comes after some input that was decoded without a fault is decoded from the slot that this left. -/
theorem decodeChunks_append {n : Nat} (h : s.decodeChunks dir a = (.ok n, t)) (b : Bytes) :
    s.decodeChunks dir (a ++ b) = ((t.decodeChunks dir b).1.map (n + ·), (t.decodeChunks dir b).2) := by
  obtain ⟨hf, rfl, rfl⟩ := fault_of_decodeChunks h
  have hcut : s.decoder.decode (a ++ b) =
      (s.decoder.decode a).before ((s.decoder.decode a).decoder.decode b) := by
    rw [Chunk.decode_cut, hf]
    rfl
  have hslot := decoded_before s dir (s.decoded dir (s.decoder.decode a)).buffer (s.decoder.decode a)
    ((s.decoder.decode a).decoder.decode b)
  rw [Slot.decodeChunks_eq, Slot.decodeChunks_eq, hcut]
  refine Prod.ext ?_ ?_
  · exact result_before (s.decoder.decode a) _
  · cases dir <;> exact hslot.symm

/-- Nothing that comes after the end of the body, or after a byte that is refused, is decoded. -/
theorem decodeChunks_append_of_stopped (h : (s.decoder.decode a).fault.isSome ∨
    (s.decoder.decode a).decoder.isFinished) (b : Bytes) :
    s.decodeChunks dir (a ++ b) = s.decodeChunks dir a := by
  rw [Slot.decodeChunks_eq, Chunk.decode_append_of_stopped h, ← Slot.decodeChunks_eq]

/-- How an input is cut into parts does not matter. -/
theorem decodeParts_eq (s : Slot) (dir : Direction) (parts : List Bytes) :
    s.decodeParts dir parts = s.decodeChunks dir parts.flatten := by
  induction parts generalizing s with
  | nil => cases dir <;> simp [Slot.decodeParts, Slot.decodeChunks, Slot.deliver, Chunk.Decoder.decode,
      Chunk.Progress.result, Chunk.Progress.data, Chunk.Progress.trailers, Fields.append]
  | cons part rest ih =>
    rw [List.flatten_cons, Slot.decodeParts]
    rcases hc : s.decodeChunks dir part with ⟨f | n, t⟩
    · rw [decodeChunks_append_of_stopped (Or.inl (fault_of_refused hc)), hc]
    · rw [decodeChunks_append hc]
      simp only [ih]

/-- A chunked body is decoded the same however it is cut. From any state of the decoder, the body and the fields: when
all of an input was consumed, more input is decoded after it as it is from the slot that it left; when the decoding
stopped because the body has ended, or because a byte was refused, more input changes nothing; and so any number of
parts come to what they are together. The machine that stands for the decoder comes to the same on any input, and from any
registers it decodes two inputs as it decodes them together. -/
theorem decodeChunks_in_parts (s : Slot) (dir : Direction) :
    (∀ (a b : Bytes) (t : Slot), s.decodeChunks dir a = (.ok a.length, t) →
      s.decodeChunks dir (a ++ b) = ((t.decodeChunks dir b).1.map (a.length + ·), (t.decodeChunks dir b).2)) ∧
    (∀ (a b : Bytes) (n : Nat) (t : Slot), s.decodeChunks dir a = (.ok n, t) →
      n ≤ a.length ∧ (n ≠ a.length → t.decoder.isFinished = true) ∧
      (t.decoder.isFinished = true → s.decodeChunks dir (a ++ b) = (.ok n, t))) ∧
    (∀ (a b : Bytes) (f : Fault) (t : Slot), s.decodeChunks dir a = (.error f, t) →
      s.decodeChunks dir (a ++ b) = (.error f, t)) ∧
    (∀ parts : List Bytes, s.decodeParts dir parts = s.decodeChunks dir parts.flatten) ∧
    (∀ m : Chunk.Machine, m.Sound → m.view = s.decoder → ∀ input,
      s.decodeChunks dir input = ((m.decode input).result,
        { s.deliver dir (m.decode input).data.toList (m.decode input).fields.toList with
          decoder := (m.decode input).machine.view })) ∧
    ∀ (m : Chunk.Machine) (a b : Bytes), m.decode (a ++ b) =
      if (m.decode a).fault.isSome then m.decode a else (m.decode a).before ((m.decode a).machine.decode b) := by
  refine ⟨fun a b t h => decodeChunks_append h b, fun a b n t h => ?_, fun a b f t h => ?_,
    decodeParts_eq s dir, fun m hm hview input => ?_, Chunk.Machine.decode_cut⟩
  · obtain ⟨hf, rfl, rfl⟩ := fault_of_decodeChunks h
    obtain ⟨hle, -, hall⟩ := Chunk.runs_of_decode (Chunk.result_of_fault hf)
    refine ⟨hle, hall.resolve_left, fun hend => ?_⟩
    rw [decodeChunks_append_of_stopped (Or.inr hend), h]
  · rw [decodeChunks_append_of_stopped (Or.inl (fault_of_refused h)), h]
  · have hagrees := Chunk.Machine.decode_view hm input
    rw [hview] at hagrees
    rw [hagrees.result, hagrees.data, hagrees.fields, hagrees.decoder]
    exact Slot.decodeChunks_eq s dir input

/-- A slot that expects a chunked body. -/
def chunkedSlot : Slot := { Slot.new {} with decoder := (Chunk.Decoder.new 8 16).start }

/-- The machine for its decoder. -/
def chunkedMachine : Chunk.Machine := (Chunk.Machine.new 8 16).start

/-- A chunk cut inside its data, a body followed by other bytes, and a trailer line that is refused in its name. -/
theorem chunkedSlot_in_parts :
    chunkedSlot.decodeChunks .request (Text.utf8 "4;a=\"b\"\r\nWi" ++ Text.utf8 "ki\r\n0\r\n\r\nGET") =
      (.ok 20, { chunkedSlot with
        request := { Request.cleared with body := Text.utf8 "Wiki" }
        decoder := { chunkedSlot.decoder with phase := .finished, total := 4 } }) ∧
    chunkedSlot.decodeChunks .response (Text.utf8 "0\r\n\r\nGET" ++ Text.utf8 "!") =
      (.ok 5, { chunkedSlot with decoder := { chunkedSlot.decoder with phase := .finished } }) ∧
    chunkedSlot.decodeChunks .request (Text.utf8 "0\r\nA\r" ++ Text.utf8 "\n") =
      (.error (.chunkByte 13 (.trailerName (Text.utf8 "A"))), { chunkedSlot with
        decoder := { chunkedSlot.decoder with phase := .trailerName (Text.utf8 "A"), trailerBytes := 2 } }) ∧
    chunkedSlot.decodeParts .request [Text.utf8 "1\r", Text.utf8 "\nW", [], Text.utf8 "\r\n0"] =
      chunkedSlot.decodeChunks .request (Text.utf8 "1\r\nW\r\n0") ∧
    chunkedSlot.decodeChunks .request (Text.utf8 "4\r\nWiki") =
      ((chunkedMachine.decode (Text.utf8 "4\r\nWiki")).result,
        { chunkedSlot.deliver .request (chunkedMachine.decode (Text.utf8 "4\r\nWiki")).data.toList
            (chunkedMachine.decode (Text.utf8 "4\r\nWiki")).fields.toList with
          decoder := (chunkedMachine.decode (Text.utf8 "4\r\nWiki")).machine.view }) := by
  obtain ⟨hmore, -, -, -, -, -⟩ := decodeChunks_in_parts chunkedSlot .request
  obtain ⟨-, hend, -, -, -, -⟩ := decodeChunks_in_parts chunkedSlot .response
  obtain ⟨-, -, hfail, hparts, hbulk, -⟩ := decodeChunks_in_parts chunkedSlot .request
  refine ⟨?_, ?_, hfail _ _ _ _ (by decide +kernel), hparts _,
    hbulk chunkedMachine (Chunk.Machine.sound_start _) rfl _⟩
  · rw [hmore _ _ { chunkedSlot with
      request := { Request.cleared with body := Text.utf8 "Wi" }
      decoder := { chunkedSlot.decoder with phase := .data 2, total := 2 } } (by decide +kernel)]
    decide +kernel
  · exact (hend _ _ 5 _ (by decide +kernel)).2.2 (by decide +kernel)

end Switchboard.Exchange
