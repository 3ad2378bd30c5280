import Switchboard.Exchange.Send
import Switchboard.Proofs.Exchange.Reading

/-!
What a slot keeps. Reading a request changes the request, the buffer and the state of the decoder, and nothing else:
not the response, nor the limits, nor the bounds of the decoder (`Slot.Receives`, `receives_readRequest`,
`receives_readBody`). So the slot is the same as before once it is cleared. Reading a body keeps the first line of the
request as well (`line_readBody`), and sending does not change the slot at all (`slot_sendParts`).
-/

namespace Switchboard.Exchange

open Http

/-- The slot that a test leaves. -/
def Verdict.slot {α : Type} : Verdict Slot α → Slot
  | .done _ s => s
  | .failed _ s => s
  | .more s => s

/-- The slot `t` is `s` after something of a request was received: of the slot only the request, the buffer and the
decoder have changed, and of the decoder only its state. -/
structure Slot.Receives (s t : Slot) : Prop where
  slot : t = { s with request := t.request, buffer := t.buffer, decoder := t.decoder }
  decoder : t.decoder.reset = s.decoder.reset

namespace Slot.Receives

variable {s t u : Slot}

theorem refl (s : Slot) : s.Receives s := ⟨rfl, rfl⟩

theorem trans (h : s.Receives t) (h' : t.Receives u) : s.Receives u := by
  refine ⟨?_, h'.decoder.trans h.decoder⟩
  rw [h'.slot, h.slot]

theorem withBuffer (h : s.Receives t) (b : Bytes) : s.Receives { t with buffer := b } := by
  refine ⟨?_, h.decoder⟩
  rw [h.slot]

theorem response (h : s.Receives t) : t.response = s.response := by rw [h.slot]

theorem limits (h : s.Receives t) : t.limits = s.limits := by rw [h.slot]

/-- Once it is cleared, the slot is the same as before. -/
theorem reset (h : s.Receives t) : t.reset = s.reset := by
  rw [Slot.reset_eq, Slot.reset_eq, h.limits, h.decoder]

end Slot.Receives

theorem Slot.receives_decoded (s : Slot) (input : Bytes) :
    s.Receives (s.decoded .request (s.decoder.decode input)) :=
  ⟨rfl, Chunk.reset_decode s.decoder input⟩

theorem Slot.receives_openRequest (s : Slot) (head : Bytes) : s.Receives (s.openRequest head).2 := by
  rw [openRequest_slot]
  exact ⟨rfl, rfl⟩

/-! ## Tests -/

theorem receives_headTest (dir : Direction) (s : Slot) : s.Receives (headTest dir s).slot := by
  rcases headTest_cases dir s with ⟨head, rest, -, h⟩ | ⟨-, ⟨f, -, -, h⟩ | ⟨f, line, rest, -, -, h⟩ | h⟩ <;>
    rw [h] <;> exact (Slot.Receives.refl s).withBuffer _

theorem receives_chunkTest (s : Slot) : s.Receives (chunkTest .request s).slot := by
  have hdecoded := s.receives_decoded s.buffer
  rcases chunkTest_cases .request s with ⟨f, -, h⟩ | ⟨-, ⟨-, h⟩ | ⟨-, h⟩⟩ <;> rw [h]
  · exact hdecoded
  · exact hdecoded.withBuffer _
  · exact hdecoded.withBuffer _

theorem receives_sizedTest (n : Nat) (s : Slot) : s.Receives (sizedTest n s).slot := by
  unfold sizedTest
  split
  · exact .refl s
  · exact (Slot.Receives.refl s).withBuffer _

theorem line_chunkTest (s : Slot) : (chunkTest .request s).slot.request.line = s.request.line := by
  rcases chunkTest_cases .request s with ⟨f, -, h⟩ | ⟨-, ⟨-, h⟩ | ⟨-, h⟩⟩ <;> rw [h] <;> rfl

theorem line_sizedTest (n : Nat) (s : Slot) : (sizedTest n s).slot.request.line = s.request.line := by
  unfold sizedTest
  split <;> rfl

namespace Link

variable {σ : Type} [Transport σ]

/-! ## The loop -/

section Loop

variable {α : Type} {test : Slot → Verdict Slot α} {x y : Link σ}

/-- Filling adds as many bytes as are read at a time, at most. -/
theorem slot_of_fill (h : x.fill = (.ok (), y)) :
    ∃ piece, piece.length ≤ x.slot.limits.readSize ∧ y.slot = x.slot.addPending piece := by
  have hbound := @Session.read_bound σ _ x.session x.slot.limits.readSize
  unfold fill at h
  rcases hr : x.session.read x.slot.limits.readSize with ⟨f | _ | ⟨b, bytes⟩, session⟩ <;> rw [hr] at h hbound
  · exact absurd (congrArg Prod.fst h) (by simp)
  · exact absurd (congrArg Prod.fst h) (by simp)
  · obtain ⟨-, rfl⟩ := Prod.mk.inj h
    exact ⟨b :: bytes, (hbound rfl).1, rfl⟩

theorem slot_of_fill_error {f : Fault} (h : x.fill = (.error f, y)) : y.slot = x.slot := by
  unfold fill at h
  rcases hr : x.session.read x.slot.limits.readSize with ⟨g | _ | ⟨b, bytes⟩, session⟩ <;> rw [hr] at h
  · obtain ⟨-, rfl⟩ := Prod.mk.inj h
    rfl
  · obtain ⟨-, rfl⟩ := Prod.mk.inj h
    rfl
  · exact absurd (congrArg Prod.fst h) (by simp)

/-- What every test does to the slot, more bytes aside, is what the loop does to it. -/
theorem pump_relates {R : Slot → Slot → Prop} (htrans : ∀ {s t u}, R s t → R t u → R s u)
    (hadd : ∀ (s : Slot) (bytes : Bytes), R s (s.addPending bytes)) (htest : ∀ s, R s (test s).slot)
    (x : Link σ) : R x.slot (x.pump test).2.slot := by
  induction hn : x.supply using Nat.strongRecOn generalizing x with
  | ind n ih =>
    have hkept := htest x.slot
    rcases ht : test x.slot with ⟨a, s⟩ | ⟨f, s⟩ | s <;> rw [ht] at hkept
    · rw [pump_done ht]
      exact hkept
    · rw [pump_failed ht]
      exact hkept
    · have hless := supply_fill (x := { x with slot := s })
      rcases hf : fill { x with slot := s } with ⟨f | _, y⟩ <;> rw [hf] at hless
      · rw [pump_more_error ht hf]
        show R x.slot y.slot
        rw [slot_of_fill_error hf]
        exact hkept
      · obtain ⟨piece, -, hslot⟩ := slot_of_fill hf
        have hfilled : R s y.slot := by
          rw [hslot]
          exact hadd s piece
        rw [pump_more_ok ht hf]
        exact htrans (htrans hkept hfilled) (ih y.supply (hn ▸ hless rfl) y rfl)

/-- What every test receives is received by the loop. -/
theorem receives_pump (htest : ∀ s : Slot, s.Receives (test s).slot) (x : Link σ) :
    x.slot.Receives (x.pump test).2.slot :=
  pump_relates (R := Slot.Receives) Slot.Receives.trans (fun s _ => (Slot.Receives.refl s).withBuffer _) htest x

/-- The first line that every test keeps is kept by the loop. -/
theorem line_pump (htest : ∀ s : Slot, (test s).slot.request.line = s.request.line) (x : Link σ) :
    (x.pump test).2.slot.request.line = x.slot.request.line :=
  pump_relates (R := fun s t => t.request.line = s.request.line) (fun h h' => h'.trans h) (fun _ _ => rfl) htest x

end Loop

/-! ## Reading -/

theorem receives_readChunked (x : Link σ) : x.slot.Receives (x.readChunked .request).2.slot := by
  have hstart : x.slot.Receives (x.mapSlot fun s => { s with decoder := s.decoder.start }).slot := ⟨rfl, rfl⟩
  unfold readChunked
  exact hstart.trans (receives_pump receives_chunkTest _)

theorem receives_readSized (n : Nat) (x : Link σ) : x.slot.Receives (x.readSized n .request).2.slot := by
  have hpump := receives_pump (receives_sizedTest n) x
  unfold readSized
  split
  · exact .refl _
  · rcases hp : x.pump (sizedTest n) with ⟨f | data, y⟩ <;> rw [hp] at hpump
    · exact hpump
    · exact hpump.trans ⟨rfl, rfl⟩

theorem receives_readBody (x : Link σ) : x.slot.Receives x.readBody.2.slot := by
  unfold readBody
  split
  · exact receives_readChunked x
  · rcases x.slot.request.contentLength with f | _ | n
    · exact .refl _
    · exact .refl _
    · exact receives_readSized n x

/-- Reading a body keeps the first line of the request. -/
theorem line_readBody (x : Link σ) : x.readBody.2.slot.request.line = x.slot.request.line := by
  unfold readBody
  split
  · have hpump := line_pump line_chunkTest (x.mapSlot fun s => { s with decoder := s.decoder.start })
    exact hpump
  · rcases x.slot.request.contentLength with f | _ | n
    · rfl
    · rfl
    · simp only
      unfold readSized
      split
      · rfl
      · have hpump := line_pump (line_sizedTest n) x
        rcases hp : x.pump (sizedTest n) with ⟨f | data, y⟩ <;> rw [hp] at hpump
        · exact hpump
        · exact hpump

theorem receives_readRequest (x : Link σ) : x.slot.Receives x.readRequest.2.slot := by
  have hcleared : x.slot.Receives x.slot.cleared := ⟨rfl, rfl⟩
  have hpump : x.slot.Receives ((x.mapSlot Slot.cleared).pump (headTest .request)).2.slot :=
    hcleared.trans (receives_pump (receives_headTest .request) (x.mapSlot Slot.cleared))
  rw [readRequest_eq]
  rcases hp : (x.mapSlot Slot.cleared).pump (headTest .request) with ⟨f | head, y⟩ <;> rw [hp] at hpump
  · exact hpump
  have hopen := hpump.trans (y.slot.receives_openRequest head)
  simp only
  rcases ho : y.slot.openRequest head with ⟨f | _, s⟩ <;> rw [ho] at hopen
  · exact hopen
  simp only
  split
  · exact hopen
  · exact hopen.trans (receives_readBody { y with slot := s })

/-! ## Sending -/

theorem slot_send (bytes : Bytes) (x : Link σ) : (x.send bytes).2.slot = x.slot := rfl

theorem slot_sendParts (head body : Bytes) (x : Link σ) : (x.sendParts head body).2.slot = x.slot := by
  have hsend := slot_send head x
  unfold sendParts
  rcases hs : x.send head with ⟨f | _, y⟩ <;> rw [hs] at hsend
  · exact hsend
  · exact (slot_send body y).trans hsend

end Link
end Switchboard.Exchange
