import Switchboard.Proofs.Exchange.Segmentation
import Switchboard.Proofs.Exchange.Sending

/-!
What passes over any transport. A tape keeps the bytes that reads have given (`Taped`), as a record keeps those that
writes have taken; `Passed` says of two states of a transport with both what was received and what was written
between them. Whatever the transport does, a message that was read is the one at the front of the bytes received
(`readRequest_taped`, `readBody_taped`), and what was written of some bytes is a first part of them, all of them
if sending succeeded (`send_taped`).
-/

namespace Switchboard.Exchange

open Http

/-- A transport with the bytes received over it. -/
structure Taped (σ : Type) where
  inner : σ
  /-- The bytes received so far. -/
  received : Bytes := []

namespace Taped

variable {σ : Type} [Transport σ]

/-- A read. -/
def read (n : Nat) (s : Taped σ) : Except Fault Bytes × Taped σ :=
  let (r, inner) := Channel.read n s.inner
  (r, ⟨inner, s.received ++ r.toOption.getD []⟩)

instance : Transport (Taped σ) where
  poll i s := let (r, inner) := Channel.poll i s.inner; (r, { s with inner })
  read := read
  write bytes s := let (r, inner) := Channel.write bytes s.inner; (r, { s with inner })
  urgent s := let (r, inner) := Channel.urgent s.inner; (r, { s with inner })
  close s := let (r, inner) := Channel.close s.inner; (r, { s with inner })
  read_length n s := Channel.read_length n s.inner
  write_bound bytes s := Channel.write_bound bytes s.inner
  supply s := Transport.supply s.inner
  supply_poll i s := Transport.supply_poll i s.inner
  supply_read n s := Transport.supply_read n s.inner
  read_supply n s := Transport.read_supply n s.inner
  supply_write bytes s := Transport.supply_write bytes s.inner

end Taped

/-- Between two states of a transport some bytes were received, and others were written. -/
structure Passed {σ : Type} (t u : Recorded (Taped σ)) (got sent : Bytes) : Prop where
  received : u.inner.received = t.inner.received ++ got
  written : u.written = t.written ++ sent

namespace Passed

variable {σ : Type} {t u v : Recorded (Taped σ)} {got sent got' sent' : Bytes}

theorem refl (t : Recorded (Taped σ)) : Passed t t [] [] :=
  ⟨(List.append_nil _).symm, (List.append_nil _).symm⟩

theorem trans (h : Passed t u got sent) (h' : Passed u v got' sent') :
    Passed t v (got ++ got') (sent ++ sent') := by
  refine ⟨?_, ?_⟩
  · rw [h'.received, h.received, List.append_assoc]
  · rw [h'.written, h.written, List.append_assoc]

/-- Nothing passed in between, then something. -/
theorem before (h : Passed t u [] []) (h' : Passed u v got sent) : Passed t v got sent := h.trans h'

/-- Something passed, then nothing. -/
theorem after (h : Passed t u got sent) (h' : Passed u v [] []) : Passed t v got sent := by
  have := h.trans h'
  rwa [List.append_nil, List.append_nil] at this

end Passed

variable {σ : Type} [Transport σ]

/-! ## Sessions -/

theorem poll_taped (i : Interest) (t : Recorded (Taped σ)) : Passed t (Channel.poll i t).2 [] [] :=
  ⟨(List.append_nil _).symm, (List.append_nil _).symm⟩

theorem close_taped (t : Recorded (Taped σ)) : Passed t (Channel.close t).2 [] [] :=
  ⟨(List.append_nil _).symm, (List.append_nil _).symm⟩

theorem urgent_taped (t : Recorded (Taped σ)) : Passed t (Channel.urgent t).2 [] [] :=
  ⟨(List.append_nil _).symm, (List.append_nil _).symm⟩

theorem waitFor_taped (i : Interest) (n : Nat) (t : Recorded (Taped σ)) :
    Passed t (waitFor i n t).2 [] [] := by
  induction n generalizing t with
  | zero => exact .refl t
  | succ n ih =>
    have hp := poll_taped i t
    rw [waitFor]
    rcases he : Channel.poll i t with ⟨f | _ | _, t'⟩ <;> rw [he] at hp
    · exact hp
    · exact hp.before (ih t')
    · exact hp

namespace Session

variable {s : Session (Recorded (Taped σ))}

/-- A read receives what it gives, and nothing if it fails. -/
theorem read_taped (s : Session (Recorded (Taped σ))) (n : Nat) :
    Passed s.transport (s.read n).2.transport ((s.read n).1.toOption.getD []) [] := by
  have hw := waitFor_taped .reading s.timeout s.transport
  unfold Session.read
  rcases he : waitFor .reading s.timeout s.transport with ⟨f | _, t⟩ <;> rw [he] at hw
  · exact hw
  · have hread : Passed t (Channel.read n t).2 ((Channel.read n t).1.toOption.getD []) [] :=
      ⟨rfl, (List.append_nil _).symm⟩
    exact hw.before hread

/-- A write writes what it takes, and nothing if it fails. -/
theorem write_taped (s : Session (Recorded (Taped σ))) (bytes : Bytes) :
    Passed s.transport (s.write bytes).2.transport [] (bytes.take ((s.write bytes).1.toOption.getD 0)) := by
  have hw := waitFor_taped .writing s.timeout s.transport
  unfold Session.write
  rcases he : waitFor .writing s.timeout s.transport with ⟨f | _, t⟩ <;> rw [he] at hw
  · exact hw
  · have hwrite : Passed t (Channel.write bytes t).2 []
        (bytes.take ((Channel.write bytes t).1.toOption.getD 0)) :=
      ⟨(List.append_nil _).symm, Recorded.written_write bytes t⟩
    exact hw.before hwrite

theorem urgent_session_taped (s : Session (Recorded (Taped σ))) (n : Nat) :
    Passed s.transport (s.urgent n).2.transport [] [] := by
  induction n generalizing s with
  | zero => exact .refl _
  | succ n ih =>
    have hu := urgent_taped s.transport
    unfold Session.urgent
    rcases he : Channel.urgent s.transport with ⟨f | _ | b, t⟩ <;> rw [he] at hu
    · exact hu
    · exact hu.before (ih { s with transport := t })
    · exact hu

/-- A write receives nothing. -/
theorem received_write (s : Session (Recorded (Taped σ))) (bytes : Bytes) :
    (s.write bytes).2.transport.inner.received = s.transport.inner.received := by
  rw [(s.write_taped bytes).received, List.append_nil]

theorem received_writeAll (s : Session (Recorded (Taped σ))) (chunk : Nat) (bytes : Bytes) :
    (s.writeAll chunk bytes).2.transport.inner.received = s.transport.inner.received := by
  fun_induction writeAll chunk s bytes with
  | case1 s => rfl
  | case2 s bytes _ f y hw =>
    have h := s.received_write (bytes.take (max chunk 1))
    rwa [hw] at h
  | case3 s bytes _ y hw =>
    have h := s.received_write (bytes.take (max chunk 1))
    rwa [hw] at h
  | case4 s bytes _ n y hw _ ih =>
    have h := s.received_write (bytes.take (max chunk 1))
    rw [hw] at h
    exact ih.trans h

/-- Writing all bytes writes a first part of them, all of them if it succeeds. -/
theorem writeAll_taped (s : Session (Recorded (Taped σ))) (chunk : Nat) (bytes : Bytes) :
    ∃ sent, Passed s.transport (s.writeAll chunk bytes).2.transport [] sent ∧ sent <+: bytes ∧
      ((s.writeAll chunk bytes).1 = .ok () → sent = bytes) := by
  obtain ⟨-, made, hsent⟩ := writeAll_sent s chunk bytes
  refine ⟨accepted made, ⟨?_, hsent.written⟩, hsent.taken, hsent.all.1⟩
  rw [received_writeAll, List.append_nil]

end Session

namespace Link

variable {x : Link (Recorded (Taped σ))}

/-! ## Sending -/

theorem send_taped (x : Link (Recorded (Taped σ))) (bytes : Bytes) :
    (x.send bytes).2.slot = x.slot ∧
      ∃ sent, Passed x.session.transport (x.send bytes).2.session.transport [] sent ∧ sent <+: bytes ∧
        ((x.send bytes).1 = .ok () → sent = bytes) :=
  ⟨rfl, x.session.writeAll_taped x.slot.limits.writeSize bytes⟩

/-- Sending a head and a body writes a first part of them, all of them if it succeeds. -/
theorem sendParts_taped (x : Link (Recorded (Taped σ))) (head body : Bytes) :
    (x.sendParts head body).2.slot = x.slot ∧
      ∃ sent, Passed x.session.transport (x.sendParts head body).2.session.transport [] sent ∧
        sent <+: head ++ body ∧ ((x.sendParts head body).1 = .ok () → sent = head ++ body) := by
  obtain ⟨hslot, sent, hpassed, hprefix, hall⟩ := x.send_taped head
  unfold Link.sendParts
  rcases he : x.send head with ⟨f | _, y⟩ <;> rw [he] at hslot hpassed hall
  · exact ⟨hslot, sent, hpassed, hprefix.trans (List.prefix_append _ _), fun h => absurd h (by simp)⟩
  · obtain ⟨hslot', sent', hpassed', hprefix', hall'⟩ := y.send_taped body
    obtain rfl := hall rfl
    refine ⟨hslot'.trans hslot, sent ++ sent', hpassed.trans hpassed', ?_, fun hok => ?_⟩
    · exact (List.prefix_append_right_inj _).2 hprefix'
    · rw [hall' hok]

/-! ## Reading -/

/-- Filling receives the bytes that it adds to the buffer; a failure receives nothing, and leaves the slot as it is. -/
theorem fill_taped (x : Link (Recorded (Taped σ))) :
    ∃ got, Passed x.session.transport x.fill.2.session.transport got [] ∧
      (x.fill.1 = .ok () → x.fill.2.slot = x.slot.addPending got) ∧
      (∀ f, x.fill.1 = .error f → got = [] ∧ x.fill.2.slot = x.slot) := by
  have hread := x.session.read_taped x.slot.limits.readSize
  unfold Link.fill
  rcases he : x.session.read x.slot.limits.readSize with ⟨f | _ | ⟨b, bytes⟩, session⟩ <;>
    rw [he] at hread
  · exact ⟨[], hread, fun h => absurd h (by simp), fun _ _ => ⟨rfl, rfl⟩⟩
  · exact ⟨[], hread, fun h => absurd h (by simp), fun _ _ => ⟨rfl, rfl⟩⟩
  · exact ⟨b :: bytes, hread, fun _ => rfl, fun _ h => absurd h (by simp)⟩

/-- What holds of the slot and the bytes received so far before each test holds after it, and tells what the loop
comes to: when the test is satisfied, when it fails, and when no more bytes come. -/
theorem pump_taped_cases {α : Type} (test : Slot → Verdict Slot α) (Inv : Slot → Bytes → Prop)
    (Q : α → Slot → Bytes → Prop) (E : Fault → Slot → Bytes → Prop)
    (hdone : ∀ {s s' got a}, Inv s got → test s = .done a s' → Q a s' got)
    (hfailed : ∀ {s s' got f}, Inv s got → test s = .failed f s' → E f s' got)
    (hended : ∀ {s s' got f}, Inv s got → test s = .more s' → E f s' got)
    (hmore : ∀ {s s' got piece}, Inv s got → test s = .more s' → Inv (s'.addPending piece) (got ++ piece))
    (hI : Inv x.slot []) :
    ∃ got, Passed x.session.transport (x.pump test).2.session.transport got [] ∧
      (∀ a, (x.pump test).1 = .ok a → Q a (x.pump test).2.slot got) ∧
      (∀ f, (x.pump test).1 = .error f → E f (x.pump test).2.slot got) := by
  -- the induction is on the bytes that can still be read; `had` are those received before
  have hrun : ∀ (n : Nat) (x : Link (Recorded (Taped σ))) (had : Bytes), x.supply = n → Inv x.slot had →
      ∃ got, Passed x.session.transport (x.pump test).2.session.transport got [] ∧
        (∀ a, (x.pump test).1 = .ok a → Q a (x.pump test).2.slot (had ++ got)) ∧
        (∀ f, (x.pump test).1 = .error f → E f (x.pump test).2.slot (had ++ got)) := by
    intro n
    induction n using Nat.strongRecOn with
    | ind n ih =>
    intro x had hn hI
    rcases ht : test x.slot with ⟨a, s⟩ | ⟨f, s⟩ | s
    · rw [pump_done ht]
      refine ⟨[], .refl _, fun b hb => ?_, fun _ h => absurd h (by simp)⟩
      obtain rfl := Except.ok.inj hb
      rw [List.append_nil]
      exact hdone hI ht
    · rw [pump_failed ht]
      refine ⟨[], .refl _, fun b hb => absurd hb (by simp), fun g hg => ?_⟩
      obtain rfl := Except.error.inj hg
      rw [List.append_nil]
      exact hfailed hI ht
    · obtain ⟨piece, hpassed, hslot, hnothing⟩ := fill_taped (x := { x with slot := s })
      rcases hf : fill { x with slot := s } with ⟨f | u, y⟩ <;> rw [hf] at hpassed hslot hnothing
      · obtain ⟨rfl, hsame⟩ := hnothing f rfl
        rw [pump_more_error ht hf]
        refine ⟨[], hpassed, fun b hb => absurd hb (by simp), fun _ _ => ?_⟩
        rw [List.append_nil, hsame]
        exact hended hI ht
      · have hy : y.slot = s.addPending piece := hslot rfl
        have hlt : y.supply < n := by
          have hless := supply_fill (x := { x with slot := s }) (by rw [hf])
          rw [hf] at hless
          exact hn ▸ hless
        obtain ⟨got, hpassed', hQ, hE⟩ := ih y.supply hlt y (had ++ piece) rfl (hy ▸ hmore hI ht)
        rw [pump_more_ok ht hf]
        rw [List.append_assoc] at hQ hE
        exact ⟨piece ++ got, hpassed.trans hpassed', hQ, hE⟩
  obtain ⟨got, hpassed, hQ, hE⟩ := hrun x.supply x [] rfl hI
  exact ⟨got, hpassed, hQ, hE⟩

/-- What the loop comes to when the test is satisfied. -/
theorem pump_taped {α : Type} (test : Slot → Verdict Slot α) (Inv : Slot → Bytes → Prop)
    (Q : α → Slot → Bytes → Prop)
    (hdone : ∀ {s s' got a}, Inv s got → test s = .done a s' → Q a s' got)
    (hmore : ∀ {s s' got piece}, Inv s got → test s = .more s' → Inv (s'.addPending piece) (got ++ piece))
    (hI : Inv x.slot []) :
    ∃ got, Passed x.session.transport (x.pump test).2.session.transport got [] ∧
      ∀ a, (x.pump test).1 = .ok a → Q a (x.pump test).2.slot got := by
  obtain ⟨got, hpassed, hQ, -⟩ := pump_taped_cases test Inv Q (fun _ _ _ => True) hdone (fun _ _ => trivial)
    (fun _ _ => trivial) hmore hI
  exact ⟨got, hpassed, hQ⟩

/-- A head that was read is the one at the front of the bytes in the buffer and received; if none was read, there is
none. -/
theorem pump_headTest_taped (dir : Direction) (x : Link (Recorded (Taped σ))) :
    ∃ got, Passed x.session.transport (x.pump (headTest dir)).2.session.transport got [] ∧
      (∀ head, (x.pump (headTest dir)).1 = .ok head →
        Head.split? (Head.dropBlankLines (x.slot.buffer ++ got)) =
          some (head, (x.pump (headTest dir)).2.slot.buffer) ∧
        (x.pump (headTest dir)).2.slot =
          { x.slot with buffer := (x.pump (headTest dir)).2.slot.buffer }) ∧
      (∀ f, (x.pump (headTest dir)).1 = .error f →
        Head.split? (Head.dropBlankLines (x.slot.buffer ++ got)) = none) := by
  refine pump_taped_cases (headTest dir)
    (fun s got => s = { x.slot with buffer := s.buffer } ∧
      Head.dropBlankLines s.buffer = Head.dropBlankLines (x.slot.buffer ++ got))
    (fun head s got => Head.split? (Head.dropBlankLines (x.slot.buffer ++ got)) = some (head, s.buffer) ∧
      s = { x.slot with buffer := s.buffer })
    (fun _ _ got => Head.split? (Head.dropBlankLines (x.slot.buffer ++ got)) = none)
    ?_ ?_ ?_ ?_ ⟨rfl, by rw [List.append_nil]⟩
  · rintro s s' got head ⟨hs, hb⟩ ht
    obtain ⟨rest, hsplit, rfl⟩ := headTest_of_done ht
    exact ⟨hb ▸ hsplit, by rw [hs]⟩
  · rintro s s' got f ⟨hs, hb⟩ ht
    rw [← hb]
    rcases headTest_cases dir s with ⟨_, _, -, h⟩ | ⟨hnone, -⟩
    · rw [h] at ht
      exact absurd ht (by simp)
    · exact hnone
  · rintro s s' got f ⟨hs, hb⟩ ht
    rw [← hb]
    exact (headTest_of_more ht).1
  · rintro s s' got piece ⟨hs, hb⟩ ht
    obtain ⟨-, rfl⟩ := headTest_of_more ht
    refine ⟨by rw [hs]; rfl, ?_⟩
    show Head.dropBlankLines (Head.dropBlankLines s.buffer ++ piece) = _
    rw [Head.dropBlankLines_append, ← List.append_assoc, ← Head.dropBlankLines_append (x.slot.buffer ++ got),
      ← hb, Head.dropBlankLines_append]

/-- A chunked body that was read is what the decoder makes of the bytes in the buffer and received. -/
theorem readChunked_taped (dir : Direction) (x : Link (Recorded (Taped σ))) :
    ∃ got, Passed x.session.transport (x.readChunked dir).2.session.transport got [] ∧
      ((x.readChunked dir).1 = .ok () →
        ChunkedRead dir { x.slot with decoder := x.slot.decoder.start } (x.slot.buffer ++ got) (.ok ())
          (x.readChunked dir).2.slot []) := by
  let s : Slot := { x.slot with decoder := x.slot.decoder.start }
  -- what has been decoded, with the buffer, is what was there and what has been received
  let Inv (t : Slot) (got : Bytes) : Prop :=
    ∃ a, DecodedSoFar dir s a t ∧ a ++ t.buffer = s.buffer ++ got
  have hdone : ∀ {t t' : Slot} {got : Bytes} {u : Unit}, Inv t got →
      chunkTest dir t = .done u t' → ChunkedRead dir s (s.buffer ++ got) (.ok ()) t' [] := by
    rintro t t' got u ⟨a, ha, hb⟩ ht
    obtain ⟨hf, hq, rfl⟩ := chunkTest_eq_done_iff.1 ht
    have hread := ha.done hf hq []
    rwa [List.append_nil, hb] at hread
  have hmore : ∀ {t t' : Slot} {got piece : Bytes}, Inv t got → chunkTest dir t = .more t' →
      Inv (t'.addPending piece) (got ++ piece) := by
    rintro t t' got piece ⟨a, ha, hb⟩ ht
    obtain ⟨hf, hq, rfl⟩ := chunkTest_eq_more_iff.1 ht
    refine ⟨a ++ t.buffer, ha.more hf hq _, ?_⟩
    rw [hb, Slot.addPending, List.nil_append, List.append_assoc]
  have hstart : DecodedSoFar dir s [] s := by
    refine ⟨rfl, rfl, ?_⟩
    cases dir <;>
      simp [s, Slot.decoded, Slot.deliver, Chunk.Decoder.decode, Chunk.Progress.data,
        Chunk.Progress.trailers, Fields.append]
  obtain ⟨got, hpassed, hread⟩ := pump_taped (x := ⟨s, x.session⟩) (chunkTest dir) Inv
    (fun _ t got => ChunkedRead dir s (s.buffer ++ got) (.ok ()) t []) hdone hmore
    ⟨[], hstart, (List.append_nil _).symm⟩
  exact ⟨got, hpassed, hread ()⟩

/-- A body of given length that was read is the front of the bytes in the buffer and received. -/
theorem pump_sizedTest_taped (n : Nat) (x : Link (Recorded (Taped σ))) :
    ∃ got, Passed x.session.transport (x.pump (sizedTest n)).2.session.transport got [] ∧
      ∀ data, (x.pump (sizedTest n)).1 = .ok data →
        SizedRead n x.slot (x.slot.buffer ++ got) (.ok data) (x.pump (sizedTest n)).2.slot [] := by
  refine pump_taped (sizedTest n)
    (fun s got => s = { x.slot with buffer := s.buffer } ∧ s.buffer = x.slot.buffer ++ got)
    (fun data s got => SizedRead n x.slot (x.slot.buffer ++ got) (.ok data) s [])
    ?_ ?_ ⟨rfl, (List.append_nil _).symm⟩
  · rintro s s' got data ⟨hs, hb⟩ ht
    obtain ⟨hlen, rfl, rfl⟩ := sizedTest_eq_done_iff.1 ht
    rw [← hb]
    exact ⟨hlen, rfl, by rw [hs], List.append_nil _⟩
  · rintro s s' got piece ⟨hs, hb⟩ ht
    obtain ⟨-, rfl⟩ := sizedTest_eq_more_iff.1 ht
    refine ⟨by rw [hs]; rfl, ?_⟩
    rw [Slot.addPending, hb, List.append_assoc]

/-- A body of so many bytes that was read is the front of the bytes in the buffer and received. -/
theorem readSized_taped (n : Nat) (dir : Direction) (x : Link (Recorded (Taped σ))) :
    ∃ got, Passed x.session.transport (x.readSized n dir).2.session.transport got [] ∧
      ((x.readSized n dir).1 = .ok () →
        SizedBodyRead n dir x.slot (x.slot.buffer ++ got) (.ok ()) (x.readSized n dir).2.slot []) := by
  unfold Link.readSized
  by_cases hmax : n > x.slot.limits.maxBody.toNat
  · rw [if_pos hmax]
    exact ⟨[], .refl _, fun h => absurd h (by simp)⟩
  rw [if_neg hmax]
  obtain ⟨got, hpassed, hread⟩ := pump_sizedTest_taped n x
  rcases hp : x.pump (sizedTest n) with ⟨f | data, y⟩ <;> rw [hp] at hpassed hread
  · exact ⟨got, hpassed, fun h => absurd h (by simp)⟩
  · obtain ⟨hle, rfl, hslot, hrest⟩ := hread data rfl
    have hslot : y.slot = { x.slot with buffer := y.slot.buffer } := hslot
    refine ⟨got, hpassed, fun _ => ⟨⟨Nat.le_of_not_gt hmax, hle⟩, ?_, ?_⟩⟩
    · show y.slot.deliver dir ((x.slot.buffer ++ got).take n) [] = _
      rw [hslot]
      cases dir <;> rfl
    · rw [← hrest]
      cases dir <;> rfl

/-- What a body that was read leaves behind: the request with the body at the front of the bytes, and the bytes past
it in the buffer. -/
structure Took (s : Slot) (stream : Bytes) (t : Slot) : Prop where
  body : s.bodyOf? stream = some (t.request, t.buffer)
  slot : t = { s with request := t.request, buffer := t.buffer, decoder := t.decoder }

/-- A body that was read is the one at the front of the bytes in the buffer and received. -/
theorem readBody_taped (x : Link (Recorded (Taped σ))) :
    ∃ got, Passed x.session.transport x.readBody.2.session.transport got [] ∧
      (x.readBody.1 = .ok () → Took x.slot (x.slot.buffer ++ got) x.readBody.2.slot) := by
  unfold Link.readBody
  by_cases hc : x.slot.request.isChunked = true
  · rw [if_pos hc]
    obtain ⟨got, hpassed, hread⟩ := readChunked_taped .request x
    refine ⟨got, hpassed, fun hok => ?_⟩
    obtain ⟨hf, hfin, hslot, hrest⟩ := hread hok
    rw [List.append_nil] at hrest
    have hrequest : (x.readChunked .request).2.slot.request =
        (x.slot.deliver .request (x.slot.decoder.start.decode (x.slot.buffer ++ got)).data
          (x.slot.decoder.start.decode (x.slot.buffer ++ got)).trailers).request := by
      rw [hslot]
      rfl
    refine ⟨?_, ?_⟩
    · unfold Slot.bodyOf?
      rw [if_pos hc]
      simp only
      rw [if_pos ⟨hf, hfin⟩, hrequest, hrest]
    · rw [hslot]
      rfl
  · rw [if_neg hc]
    rcases hn : x.slot.request.contentLength with f | _ | n
    · exact ⟨[], .refl _, fun h => absurd h (by simp)⟩
    · refine ⟨[], .refl _, fun _ => ⟨?_, rfl⟩⟩
      unfold Slot.bodyOf?
      rw [if_neg hc, hn, List.append_nil]
    · obtain ⟨got, hpassed, hread⟩ := readSized_taped n .request x
      refine ⟨got, hpassed, fun hok => ?_⟩
      obtain ⟨hfits, hslot, hrest⟩ := hread hok
      rw [List.append_nil] at hrest
      have hrequest : (x.readSized n .request).2.slot.request =
          (x.slot.deliver .request ((x.slot.buffer ++ got).take n) []).request := by
        rw [hslot]
      refine ⟨?_, ?_⟩
      · unfold Slot.bodyOf?
        rw [if_neg hc, hn]
        simp only
        rw [if_pos hfits, hrequest, hrest]
      · simp only
        rw [hslot]
        rfl

/-- What a request that was read leaves behind: the head at the front of the bytes, and unless the client waits for
a go-ahead the body after it. -/
structure Opened (s : Slot) (stream : Bytes) (head : Request) (after : Bytes) (t : Slot) : Prop where
  opens : s.headOf? stream = some (head, after)
  waiting : head.expectContinue = true →
    t = { s.cleared with request := head, buffer := after }
  whole : head.expectContinue = false → Took { s.cleared with request := head } after t

omit [Transport σ] in
/-- Nothing is wrong with a head that is read. -/
theorem openRequest_of_headOf? {s : Slot} {stream head rest : Bytes} {p : Request × Bytes}
    (h : s.headOf? stream = some p) (hsplit : Head.split? (Head.dropBlankLines stream) = some (head, rest)) :
    (s.cleared.openRequest head).1 = .ok () := by
  obtain ⟨head', t, hsplit', ho, -⟩ := headOf?_eq_some_iff.1 h
  obtain ⟨rfl, -⟩ := Prod.mk.inj (Option.some.inj (hsplit.symm.trans hsplit'))
  exact congrArg Prod.fst ho

/-- A request that was read is the one at the front of the bytes in the buffer and received; and a head at the front
of these is refused for what is wrong with it. -/
theorem readRequest_taped (x : Link (Recorded (Taped σ))) :
    ∃ got, Passed x.session.transport x.readRequest.2.session.transport got [] ∧
      (x.readRequest.1 = .ok () →
        ∃ head after, Opened x.slot (x.slot.buffer ++ got) head after x.readRequest.2.slot) ∧
      (∀ head rest f, Head.split? (Head.dropBlankLines (x.slot.buffer ++ got)) = some (head, rest) →
        (x.slot.cleared.openRequest head).1 = .error f → x.readRequest.1 = .error f) := by
  obtain ⟨got, hpassed, hread, hnone⟩ := pump_headTest_taped .request (x.mapSlot Slot.cleared)
  have hnone : ∀ f, ((x.mapSlot Slot.cleared).pump (headTest .request)).1 = .error f →
      Head.split? (Head.dropBlankLines (x.slot.buffer ++ got)) = none := hnone
  -- a head that is read is refused for nothing
  have hright : ∀ {stream : Bytes} {p : Request × Bytes} {r : Except Fault Unit},
      x.slot.headOf? stream = some p → ∀ head rest f,
        Head.split? (Head.dropBlankLines stream) = some (head, rest) →
          (x.slot.cleared.openRequest head).1 = .error f → r = .error f := by
    intro stream p r hhead head rest f hsplit hf
    rw [openRequest_of_headOf? hhead hsplit] at hf
    exact absurd hf (by simp)
  rw [readRequest_eq]
  rcases hp : (x.mapSlot Slot.cleared).pump (headTest .request) with ⟨f | head, y⟩ <;>
    rw [hp] at hpassed hread hnone
  · refine ⟨got, hpassed, fun h => absurd h (by simp), fun head rest g hsplit => ?_⟩
    rw [hnone f rfl] at hsplit
    exact absurd hsplit (by simp)
  obtain ⟨hsplit, hslot⟩ := hread head rfl
  have hsplit : Head.split? (Head.dropBlankLines (x.slot.buffer ++ got)) = some (head, y.slot.buffer) :=
    hsplit
  have hslot : y.slot = { x.slot.cleared with buffer := y.slot.buffer } := hslot
  have hopen := openRequest_buffer x.slot.cleared head y.slot.buffer
  rw [← hslot] at hopen
  have honly := openRequest_slot x.slot.cleared head
  rcases ho : x.slot.cleared.openRequest head with ⟨f | _, t⟩ <;> rw [ho] at hopen honly
  · simp only [hopen]
    refine ⟨got, hpassed, fun h => absurd h (by simp), fun head' rest g hsplit' hg => ?_⟩
    obtain ⟨rfl, -⟩ := Prod.mk.inj (Option.some.inj (hsplit.symm.trans hsplit'))
    rw [← hg, ho]
  obtain ⟨r, rfl⟩ : ∃ r, t = { x.slot.cleared with request := r } := ⟨_, honly⟩
  simp only [hopen]
  by_cases hexp : r.expectContinue = true
  · have hhead : x.slot.headOf? (x.slot.buffer ++ got) = some (r, y.slot.buffer) :=
      headOf?_eq_some_iff.2 ⟨head, _, hsplit, ho, rfl⟩
    rw [if_pos hexp]
    refine ⟨got, hpassed, fun _ => ⟨r, y.slot.buffer, hhead, fun _ => rfl, fun h => ?_⟩, hright hhead⟩
    rw [hexp] at h
    exact absurd h (by simp)
  · obtain ⟨got', hpassed', htook⟩ :=
      readBody_taped ⟨{ x.slot.cleared with request := r, buffer := y.slot.buffer }, y.session⟩
    have hhead : x.slot.headOf? (x.slot.buffer ++ (got ++ got')) = some (r, y.slot.buffer ++ got') := by
      rw [← List.append_assoc]
      exact headOf?_eq_some_iff.2 ⟨head, _, split?_dropBlankLines_append hsplit got', ho, rfl⟩
    rw [if_neg hexp]
    refine ⟨got ++ got', hpassed.trans hpassed', fun hok => ⟨r, y.slot.buffer ++ got', hhead, ?_, fun _ => ?_⟩,
      hright hhead⟩
    · exact fun h => absurd h hexp
    · exact ⟨(htook hok).body, (htook hok).slot⟩

/-- A request that was read with its body is the one at the front of the bytes in the buffer and received. -/
theorem readWhole_taped (x : Link (Recorded (Taped σ))) :
    ∃ got, Passed x.session.transport x.readWhole.2.session.transport got [] ∧
      (x.readWhole.1 = .ok () →
        x.slot.requestOf? (x.slot.buffer ++ got) = some (x.readWhole.2.slot.request, x.readWhole.2.slot.buffer)) := by
  obtain ⟨got, hpassed, hopened, -⟩ := x.readRequest_taped
  unfold Link.readWhole
  rcases hr : x.readRequest with ⟨f | _, y⟩ <;> rw [hr] at hpassed hopened
  · exact ⟨got, hpassed, fun h => absurd h (by simp)⟩
  obtain ⟨head, after, hhead, hwaiting, hwhole⟩ := hopened rfl
  simp only
  by_cases hexpect : head.expectContinue = true
  · have hy : y.slot = { x.slot.cleared with request := head, buffer := after } := hwaiting hexpect
    have hif : y.slot.request.expectContinue = true := by
      rw [hy]
      exact hexpect
    obtain ⟨got', hpassed', htook⟩ := y.readBody_taped
    rw [if_pos hif]
    refine ⟨got ++ got', hpassed.trans hpassed', fun hok => ?_⟩
    obtain ⟨hbody, -⟩ := htook hok
    rw [Slot.requestOf?, ← List.append_assoc, headOf?_append hhead got', Option.bind_some, ← hbody, hy]
    exact bodyOf?_congr rfl rfl rfl _
  · obtain ⟨hbody, -⟩ := hwhole (by simpa using hexpect)
    have hif : ¬ y.slot.request.expectContinue = true := by
      rw [expectContinue_of_bodyOf? hbody]
      exact hexpect
    rw [if_neg hif]
    refine ⟨got, hpassed, fun _ => ?_⟩
    rw [Slot.requestOf?, hhead, Option.bind_some, ← hbody]
    exact bodyOf?_congr rfl rfl rfl _

end Link
end Switchboard.Exchange
