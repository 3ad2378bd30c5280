import Switchboard.Proofs.Exchange.Hearing
import Switchboard.Proofs.Exchange.Tape

/-!
Responses over any transport. As with requests (`Link.readWhole_taped`), a response that was read is the one at the
front of the bytes in the buffer and received (`Link.readResponse_taped`). No end of the stream is asked of the
transport: a body that runs to the end has been read only if the end was a close.
-/

namespace Switchboard.Exchange

open Http

namespace Link

variable {σ : Type} [Transport σ]

/-- Some bytes were received, and if all went well the response in the slot is what `holds` finds in the buffer and
these bytes, and the buffer holds what is left of them. -/
def TakesResponse (x : Link (Recorded (Taped σ))) (holds : Bytes → Option (Response × Bytes))
    (out : Except Fault Unit × Link (Recorded (Taped σ))) : Prop :=
  ∃ got, Passed x.session.transport out.2.session.transport got [] ∧
    (out.1 = .ok () → holds (x.slot.buffer ++ got) = some (out.2.slot.response, out.2.slot.buffer))

omit [Transport σ] in
theorem takesResponse_error (x : Link (Recorded (Taped σ))) (holds : Bytes → Option (Response × Bytes)) (f : Fault) :
    x.TakesResponse holds (.error f, x) :=
  ⟨[], .refl _, fun h => absurd h (by simp)⟩

theorem readChunked_takes (x : Link (Recorded (Taped σ))) :
    x.TakesResponse x.slot.chunkedOf? (x.readChunked .response) := by
  obtain ⟨got, hpassed, hread⟩ := readChunked_taped .response x
  refine ⟨got, hpassed, fun hok => ?_⟩
  obtain ⟨hf, hfin, hslot, hrest⟩ := hread hok
  rw [List.append_nil] at hrest
  have hresponse : (x.readChunked .response).2.slot.response =
      (x.slot.deliver .response (x.slot.decoder.start.decode (x.slot.buffer ++ got)).data
        (x.slot.decoder.start.decode (x.slot.buffer ++ got)).trailers).response := by
    rw [hslot]
    rfl
  rw [Slot.chunkedOf?, hresponse, hrest]
  exact if_pos ⟨hf, hfin⟩

theorem readSized_takes (n : Nat) (x : Link (Recorded (Taped σ))) :
    x.TakesResponse (x.slot.sizedOf? n) (x.readSized n .response) := by
  obtain ⟨got, hpassed, hread⟩ := readSized_taped n .response x
  refine ⟨got, hpassed, fun hok => ?_⟩
  obtain ⟨hfits, hslot, hrest⟩ := hread hok
  rw [List.append_nil] at hrest
  have hresponse : (x.readSized n .response).2.slot.response =
      (x.slot.deliver .response ((x.slot.buffer ++ got).take n) []).response := by
    rw [hslot]
  rw [Slot.sizedOf?, hresponse, hrest]
  exact if_pos hfits

omit [Transport σ] in
/-- All that the test for the end of the stream can say. -/
theorem untilClosedTest_cases (s : Slot) :
    (∃ n, untilClosedTest s = .failed (.bodyTooLarge n) s) ∨
      s.buffer.length ≤ s.limits.maxBody.toNat ∧ untilClosedTest s = .more s := by
  unfold untilClosedTest
  by_cases hlong : s.buffer.length > s.limits.maxBody.toNat
  · rw [if_pos hlong]
    exact Or.inl ⟨_, rfl⟩
  · rw [if_neg hlong]
    exact Or.inr ⟨Nat.le_of_not_gt hlong, rfl⟩

/-- A loop that reads until the stream ends keeps all that it receives, which is within the limit if the end was a
close. -/
theorem pump_untilClosedTest_taped (x : Link (Recorded (Taped σ))) :
    ∃ got, Passed x.session.transport (x.pump untilClosedTest).2.session.transport got [] ∧
      (∀ u, (x.pump untilClosedTest).1 = .ok u → False) ∧
      (∀ f, (x.pump untilClosedTest).1 = .error f → f = .closed →
        (x.slot.buffer ++ got).length ≤ x.slot.limits.maxBody.toNat ∧
          (x.pump untilClosedTest).2.slot = { x.slot with buffer := x.slot.buffer ++ got }) := by
  refine pump_taped_cases untilClosedTest (fun s got => s = { x.slot with buffer := x.slot.buffer ++ got })
    (fun _ _ _ => False)
    (fun f s got => f = .closed → (x.slot.buffer ++ got).length ≤ x.slot.limits.maxBody.toNat ∧
      s = { x.slot with buffer := x.slot.buffer ++ got })
    ?_ ?_ ?_ ?_ (by rw [List.append_nil])
  · rintro s s' got u - ht
    rcases untilClosedTest_cases s with ⟨n, h⟩ | ⟨-, h⟩ <;> rw [h] at ht <;> exact absurd ht (by simp)
  · rintro s s' got f - ht rfl
    rcases untilClosedTest_cases s with ⟨n, h⟩ | ⟨-, h⟩ <;> rw [h] at ht <;> exact absurd ht (by simp)
  · rintro s s' got f hs ht -
    rcases untilClosedTest_cases s with ⟨n, h⟩ | ⟨hle, h⟩ <;> rw [h] at ht
    · exact absurd ht (by simp)
    · obtain rfl := Verdict.more.inj ht
      rw [hs] at hle
      exact ⟨hle, hs⟩
  · intro s s' got piece hs ht
    rcases untilClosedTest_cases s with ⟨n, h⟩ | ⟨-, h⟩ <;> rw [h] at ht
    · exact absurd ht (by simp)
    · obtain rfl := Verdict.more.inj ht
      rw [Slot.addPending, hs, List.append_assoc]

theorem readUntilClosed_takes (x : Link (Recorded (Taped σ))) :
    x.TakesResponse (x.slot.untilClosedOf? .closed) x.readUntilClosed := by
  obtain ⟨got, hpassed, hnever, hclosed⟩ := pump_untilClosedTest_taped x
  refine ⟨got, ?_⟩
  unfold Link.readUntilClosed
  rcases hp : x.pump untilClosedTest with ⟨f | u, y⟩ <;> rw [hp] at hpassed hnever hclosed
  · cases f with
    | closed =>
      obtain ⟨hle, hslot⟩ := hclosed _ rfl rfl
      have hslot : y.slot = { x.slot with buffer := x.slot.buffer ++ got } := hslot
      refine ⟨hpassed, fun _ => ?_⟩
      rw [Slot.untilClosedOf?, if_pos ⟨rfl, hle⟩]
      show _ = some ((y.slot.deliver .response y.slot.buffer []).response, [])
      rw [hslot]
      rfl
    | _ => exact ⟨hpassed, fun h => absurd h (by simp)⟩
  · exact (hnever u rfl).elim

/-- A body of a response that was read is the one at the front of the bytes in the buffer and received. -/
theorem readResponseBody_takes (toHead : Bool) (x : Link (Recorded (Taped σ))) :
    x.TakesResponse (x.slot.responseBodyOf? toHead .closed) (x.readResponseBody toHead) := by
  unfold Link.readResponseBody Slot.responseBodyOf?
  by_cases hb : Link.isBodiless toHead x.slot.response.status = true
  · simp only [if_pos hb]
    refine ⟨[], .refl _, fun _ => ?_⟩
    rw [List.append_nil]
  simp only [if_neg hb]
  by_cases hc : x.slot.response.isChunked = true
  · simp only [if_pos hc]
    exact x.readChunked_takes
  simp only [if_neg hc]
  rcases x.slot.response.contentLength with f | _ | n
  · exact x.takesResponse_error _ f
  · exact x.readUntilClosed_takes
  · exact readSized_takes n x

/-- A response that was read is the one at the front of the bytes in the buffer and received. -/
theorem readResponse_taped (toHead : Bool) (x : Link (Recorded (Taped σ))) :
    x.TakesResponse (x.slot.responseOf? toHead .closed) (x.readResponse toHead) := by
  obtain ⟨got, hpassed, hread, -⟩ := pump_headTest_taped .response (x.mapSlot Slot.unanswered)
  rcases hp : (x.mapSlot Slot.unanswered).pump (headTest .response) with ⟨f | head, y⟩ <;> rw [hp] at hpassed hread
  · rw [readResponse_eq, hp]
    exact ⟨got, hpassed, fun h => absurd h (by simp)⟩
  obtain ⟨hsplit, hslot⟩ := hread head rfl
  have hsplit : Head.split? (Head.dropBlankLines (x.slot.buffer ++ got)) = some (head, y.slot.buffer) := hsplit
  have hslot : y.slot = { x.slot.unanswered with buffer := y.slot.buffer } := hslot
  have hopen := openResponse_buffer x.slot.unanswered head y.slot.buffer
  rw [← hslot] at hopen
  have honly := openResponse_slot x.slot.unanswered head
  rw [readResponse_eq, hp]
  rcases ho : x.slot.unanswered.openResponse head with ⟨f | _, t⟩ <;> rw [ho] at hopen honly
  · simp only [hopen]
    exact ⟨got, hpassed, fun h => absurd h (by simp)⟩
  obtain ⟨r, rfl⟩ : ∃ r, t = { x.slot.unanswered with response := r } := ⟨_, honly⟩
  have hhead : x.slot.responseHeadOf? (x.slot.buffer ++ got) = some (r, y.slot.buffer) :=
    responseHeadOf?_eq_some_iff.2 ⟨head, _, hsplit, ho, rfl⟩
  obtain ⟨got', hpassed', hbody⟩ :=
    readResponseBody_takes toHead ⟨{ x.slot.unanswered with response := r, buffer := y.slot.buffer }, y.session⟩
  simp only [hopen]
  refine ⟨got ++ got', hpassed.trans hpassed', fun hok => ?_⟩
  rw [Slot.responseOf?, ← List.append_assoc, responseHeadOf?_append hhead got', Option.bind_some]
  exact hbody hok

end Link
end Switchboard.Exchange
