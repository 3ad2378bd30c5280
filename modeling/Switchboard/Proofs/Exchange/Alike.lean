import Switchboard.Proofs.Exchange.Tape

/-!
Transports that behave alike. Under a relation that mirrors (`Mirrors`) every operation gives the same result on both
transports, and leaves them related. A link that starts from the same slot then reads and sends the same over either of
them, and a record or a tape on top of them grows by the same bytes (`mirrors_recorded`, `MirrorsUnless.taped`).

Sending asks nothing of the reads (`Accords`). Reading is compared also where the first transport may give up before the
second (`MirrorsUnless`): it fails at once where the transport does, and is the same up to there (`readRequest_unless`,
`readBody_unless`).
-/

namespace Switchboard.Exchange

open Http

variable {σ τ : Type}

/-- Two outcomes with the same result, whose states are related. -/
inductive Agree {α : Type} (R : σ → τ → Prop) : α × σ → α × τ → Prop where
  | intro (a : α) {s : σ} {t : τ} (h : R s t) : Agree R (a, s) (a, t)

/-- An outcome that is a failure, with a state, of this kind. -/
inductive Fails {α : Type} (E : Fault → σ → Prop) : Except Fault α × σ → Prop where
  | intro {f : Fault} {s : σ} (h : E f s) : Fails E (.error f, s)

theorem Fails.cause {α : Type} {E : Fault → σ → Prop} {p : Except Fault α × σ} (h : Fails E p) :
    ∃ f, p = (.error f, p.2) ∧ E f p.2 := by
  cases h with
  | intro h => exact ⟨_, rfl, h⟩

/-- A relation under which two transports behave alike, reads aside. -/
structure Accords [Channel σ] [Channel τ] (R : σ → τ → Prop) : Prop where
  poll {s : σ} {t : τ} (h : R s t) (i : Interest) : Agree R (Channel.poll i s) (Channel.poll i t)
  write {s : σ} {t : τ} (h : R s t) (bytes : Bytes) :
    Agree R (Channel.write bytes s) (Channel.write bytes t)
  urgent {s : σ} {t : τ} (h : R s t) : Agree R (Channel.urgent s) (Channel.urgent t)
  close {s : σ} {t : τ} (h : R s t) : Agree R (Channel.close s) (Channel.close t)

/-- A relation under which two transports behave alike. -/
structure Mirrors [Channel σ] [Channel τ] (R : σ → τ → Prop) : Prop extends Accords R where
  read {s : σ} {t : τ} (h : R s t) (n : Nat) : Agree R (Channel.read n s) (Channel.read n t)

/-- A relation under which two transports behave alike, unless a read over the first one fails in this way. -/
structure MirrorsUnless [Channel σ] [Channel τ] (E : Fault → σ → Prop) (R : σ → τ → Prop) : Prop extends Accords R where
  read {s : σ} {t : τ} (h : R s t) (n : Nat) :
    Fails E (Channel.read n s) ∨ Agree R (Channel.read n s) (Channel.read n t)

theorem Mirrors.unless [Channel σ] [Channel τ] {R : σ → τ → Prop} (h : Mirrors R) (E : Fault → σ → Prop) :
    MirrorsUnless E R := ⟨h.toAccords, fun hst n => Or.inr (h.read hst n)⟩

/-- Two sessions of one patience over transports that are related. -/
structure Session.Alike (R : σ → τ → Prop) (x : Session σ) (y : Session τ) : Prop where
  timeout : x.timeout = y.timeout
  transport : R x.transport y.transport

/-- Two links with one slot over sessions that are alike. -/
structure Link.Alike (R : σ → τ → Prop) (x : Link σ) (y : Link τ) : Prop where
  slot : x.slot = y.slot
  session : x.session.Alike R y.session

/-- The transport of a link has failed in this way. -/
def Link.Broken (E : Fault → σ → Prop) (f : Fault) (x : Link σ) : Prop := E f x.session.transport

variable [Transport σ] [Transport τ] {E : Fault → σ → Prop} {R : σ → τ → Prop}

/-! ## Sessions -/

theorem waitFor_alike (hR : Accords R) (i : Interest) (n : Nat) {s : σ} {t : τ} (h : R s t) :
    Agree R (waitFor i n s) (waitFor i n t) := by
  induction n generalizing s t with
  | zero => exact .intro _ h
  | succ n ih =>
    have hp := hR.poll h i
    rw [waitFor, waitFor]
    generalize Channel.poll i s = p, Channel.poll i t = q at hp ⊢
    obtain ⟨r, h'⟩ := hp
    rcases r with f | _ | _
    · exact .intro _ h'
    · exact ih h'
    · exact .intro _ h'

namespace Session

variable {x : Session σ} {y : Session τ}

theorem read_unless (hR : MirrorsUnless E R) (h : x.Alike R y) (n : Nat) :
    Fails (fun f v => E f v.transport) (x.read n) ∨ Agree (Alike R) (x.read n) (y.read n) := by
  obtain ⟨t, k⟩ := x
  obtain ⟨u, _⟩ := y
  obtain ⟨rfl, h⟩ := h
  have hw := waitFor_alike hR.toAccords .reading k h
  simp only [Session.read]
  generalize waitFor .reading k t = p, waitFor .reading k u = q at hw ⊢
  obtain @⟨r, t', u', h'⟩ := hw
  rcases r with f | _
  · exact Or.inr (.intro _ ⟨rfl, h'⟩)
  · have hr := hR.read h' n
    simp only
    generalize Channel.read n t' = p, Channel.read n u' = q at hr ⊢
    obtain @⟨f, v, hE⟩ | ⟨r, h''⟩ := hr
    · exact Or.inl (.intro hE)
    · exact Or.inr (.intro _ ⟨rfl, h''⟩)

theorem write_alike (hR : Accords R) (h : x.Alike R y) (bytes : Bytes) :
    Agree (Alike R) (x.write bytes) (y.write bytes) := by
  obtain ⟨t, k⟩ := x
  obtain ⟨u, _⟩ := y
  obtain ⟨rfl, h⟩ := h
  have hw := waitFor_alike hR .writing k h
  simp only [Session.write]
  generalize waitFor .writing k t = p, waitFor .writing k u = q at hw ⊢
  obtain @⟨r, t', u', h'⟩ := hw
  rcases r with f | _
  · exact .intro _ ⟨rfl, h'⟩
  · have hr := hR.write h' bytes
    simp only
    generalize Channel.write bytes t' = p, Channel.write bytes u' = q at hr ⊢
    obtain ⟨r, h''⟩ := hr
    exact .intro _ ⟨rfl, h''⟩

theorem writeAll_alike (hR : Accords R) (chunk : Nat) (bytes : Bytes) (h : x.Alike R y) :
    Agree (Alike R) (x.writeAll chunk bytes) (y.writeAll chunk bytes) := by
  -- the induction is on what is left to write, of which every write takes one byte at least
  induction hn : bytes.length using Nat.strongRecOn generalizing x y bytes with
  | ind n ih =>
    rw [writeAll, writeAll]
    by_cases hb : bytes = []
    · rw [dif_pos hb, dif_pos hb]
      exact .intro _ h
    have hw := write_alike hR h (bytes.take (max chunk 1))
    rw [dif_neg hb, dif_neg hb]
    generalize x.write (bytes.take (max chunk 1)) = p, y.write (bytes.take (max chunk 1)) = q at hw ⊢
    obtain ⟨r, h'⟩ := hw
    rcases r with f | m
    · exact .intro _ h'
    by_cases hm : m = 0
    · simp only [dif_pos hm]
      exact .intro _ h'
    · have hlt : (bytes.drop m).length < n := by
        have := List.length_pos_iff.2 hb
        rw [List.length_drop]
        omega
      simp only [dif_neg hm]
      exact ih _ hlt (bytes.drop m) h' rfl

theorem urgent_alike (hR : Accords R) (n : Nat) (h : x.Alike R y) :
    Agree (Alike R) (x.urgent n) (y.urgent n) := by
  induction n generalizing x y with
  | zero => exact .intro _ h
  | succ n ih =>
    obtain ⟨t, k⟩ := x
    obtain ⟨u, _⟩ := y
    obtain ⟨rfl, h⟩ := h
    have hu := hR.urgent h
    simp only [Session.urgent]
    generalize Channel.urgent t = p, Channel.urgent u = q at hu ⊢
    obtain ⟨r, h'⟩ := hu
    rcases r with f | _ | b
    · exact .intro _ ⟨rfl, h'⟩
    · exact ih ⟨rfl, h'⟩
    · exact .intro _ ⟨rfl, h'⟩

theorem close_alike (hR : Accords R) (h : x.Alike R y) : Agree (Alike R) x.close y.close := by
  have hc := hR.close h.transport
  unfold Session.close
  generalize Channel.close x.transport = p, Channel.close y.transport = q at hc ⊢
  obtain ⟨r, h'⟩ := hc
  exact .intro _ ⟨h.timeout, h'⟩

end Session

/-! ## Links -/

namespace Link

variable {x : Link σ} {y : Link τ}

omit [Transport σ] [Transport τ] in
/-- The same other slot over alike sessions. -/
theorem Alike.withSlot (h : x.Alike R y) (s : Slot) :
    Alike R { x with slot := s } { y with slot := s } := ⟨rfl, h.session⟩

omit [Transport σ] [Transport τ] in
theorem Alike.mapSlot (h : x.Alike R y) (f : Slot → Slot) : Alike R (x.mapSlot f) (y.mapSlot f) :=
  ⟨congrArg f h.slot, h.session⟩

theorem fill_unless (hR : MirrorsUnless E R) (h : x.Alike R y) :
    Fails (Broken E) x.fill ∨ Agree (Alike R) x.fill y.fill := by
  obtain ⟨s, x⟩ := x
  obtain ⟨_, y⟩ := y
  obtain ⟨rfl, h⟩ := h
  have hr := Session.read_unless hR h s.limits.readSize
  simp only [Link.fill]
  generalize x.read s.limits.readSize = p, y.read s.limits.readSize = q at hr ⊢
  obtain @⟨f, v, hE⟩ | ⟨r, h'⟩ := hr
  · exact Or.inl (.intro hE)
  rcases r with f | _ | ⟨b, bytes⟩
  · exact Or.inr (.intro _ ⟨rfl, h'⟩)
  · exact Or.inr (.intro _ ⟨rfl, h'⟩)
  · exact Or.inr (.intro _ ⟨rfl, h'⟩)

theorem pump_unless {α : Type} (hR : MirrorsUnless E R) (test : Slot → Verdict Slot α) (h : x.Alike R y) :
    Fails (Broken E) (x.pump test) ∨ Agree (Alike R) (x.pump test) (y.pump test) := by
  -- the induction is on the bytes that can still be read over the first of the two
  induction hn : x.supply using Nat.strongRecOn generalizing x y with
  | ind n ih =>
    have hslot := h.slot
    rcases ht : test x.slot with ⟨a, s⟩ | ⟨f, s⟩ | s
    · rw [pump_done ht, pump_done (hslot ▸ ht)]
      exact Or.inr (.intro _ (h.withSlot s))
    · rw [pump_failed ht, pump_failed (hslot ▸ ht)]
      exact Or.inr (.intro _ (h.withSlot s))
    · have hf := fill_unless hR (h.withSlot s)
      have hless := supply_fill (x := { x with slot := s })
      generalize hp : fill { x with slot := s } = p, hq : fill { y with slot := s } = q at hf hless
      obtain @⟨f, v, hE⟩ | ⟨r, h'⟩ := hf
      · rw [pump_more_error ht hp]
        exact Or.inl (.intro hE)
      rcases r with f | _
      · rw [pump_more_error ht hp, pump_more_error (hslot ▸ ht) hq]
        exact Or.inr (.intro _ h')
      · rw [pump_more_ok ht hp, pump_more_ok (hslot ▸ ht) hq]
        exact ih _ (hn ▸ hless rfl) h' rfl

/-! ## Reading -/

theorem readChunked_unless (hR : MirrorsUnless E R) (dir : Direction) (h : x.Alike R y) :
    Fails (Broken E) (x.readChunked dir) ∨ Agree (Alike R) (x.readChunked dir) (y.readChunked dir) :=
  pump_unless hR (chunkTest dir) (h.mapSlot _)

theorem readSized_unless (hR : MirrorsUnless E R) (n : Nat) (dir : Direction) (h : x.Alike R y) :
    Fails (Broken E) (x.readSized n dir) ∨ Agree (Alike R) (x.readSized n dir) (y.readSized n dir) := by
  unfold Link.readSized
  rw [h.slot]
  split
  · exact Or.inr (.intro _ h)
  · have hp := pump_unless hR (sizedTest n) h
    generalize x.pump (sizedTest n) = p, y.pump (sizedTest n) = q at hp ⊢
    obtain @⟨f, v, hE⟩ | ⟨r, h'⟩ := hp
    · exact Or.inl (.intro hE)
    rcases r with f | data
    · exact Or.inr (.intro _ h')
    · exact Or.inr (.intro _ (h'.mapSlot _))

theorem readBody_unless (hR : MirrorsUnless E R) (h : x.Alike R y) :
    Fails (Broken E) x.readBody ∨ Agree (Alike R) x.readBody y.readBody := by
  unfold Link.readBody
  rw [h.slot]
  split
  · exact readChunked_unless hR .request h
  · rcases y.slot.request.contentLength with f | _ | n
    · exact Or.inr (.intro _ h)
    · exact Or.inr (.intro _ h)
    · exact readSized_unless hR n .request h

theorem readRequest_unless (hR : MirrorsUnless E R) (h : x.Alike R y) :
    Fails (Broken E) x.readRequest ∨ Agree (Alike R) x.readRequest y.readRequest := by
  have hp := pump_unless hR (headTest .request) (h.mapSlot Slot.cleared)
  rw [readRequest_eq, readRequest_eq]
  generalize (x.mapSlot Slot.cleared).pump (headTest .request) = p,
    (y.mapSlot Slot.cleared).pump (headTest .request) = q at hp ⊢
  obtain @⟨f, v, hE⟩ | @⟨r, x', y', h'⟩ := hp
  · exact Or.inl (.intro hE)
  rcases r with f | head
  · exact Or.inr (.intro _ h')
  simp only
  rw [h'.slot]
  rcases y'.slot.openRequest head with ⟨f | _, s⟩
  · exact Or.inr (.intro _ (h'.withSlot s))
  · simp only
    split
    · exact Or.inr (.intro _ (h'.withSlot s))
    · exact readBody_unless hR (h'.withSlot s)

/-! ## Sending -/

theorem send_alike (hR : Accords R) (bytes : Bytes) (h : x.Alike R y) :
    Agree (Alike R) (x.send bytes) (y.send bytes) := by
  have hw := Session.writeAll_alike hR x.slot.limits.writeSize bytes h.session
  unfold Link.send
  rw [← h.slot]
  generalize x.session.writeAll x.slot.limits.writeSize bytes = p,
    y.session.writeAll x.slot.limits.writeSize bytes = q at hw ⊢
  obtain ⟨r, h'⟩ := hw
  exact .intro _ ⟨rfl, h'⟩

theorem sendParts_alike (hR : Accords R) (head body : Bytes) (h : x.Alike R y) :
    Agree (Alike R) (x.sendParts head body) (y.sendParts head body) := by
  have hs := send_alike hR head h
  unfold Link.sendParts
  generalize x.send head = p, y.send head = q at hs ⊢
  obtain ⟨r, h'⟩ := hs
  rcases r with f | _
  · exact .intro _ h'
  · exact send_alike hR body h'

theorem sendContinue_alike (hR : Accords R) (h : x.Alike R y) :
    Agree (Alike R) x.sendContinue y.sendContinue := by
  unfold Link.sendContinue
  rw [h.slot]
  exact send_alike hR _ h

end Link

/-! ## Records and tapes -/

/-- Two records of the same operations, on transports that are related. -/
structure Recorded.Alike (R : σ → τ → Prop) (s : Recorded σ) (t : Recorded τ) : Prop where
  inner : R s.inner t.inner
  polls : s.polls = t.polls
  offers : s.offers = t.offers
  closed : s.closed = t.closed

omit [Transport σ] [Transport τ] in
theorem Recorded.Alike.written {s : Recorded σ} {t : Recorded τ} (h : s.Alike R t) :
    s.written = t.written := by
  rw [Recorded.written, Recorded.written, h.offers]

theorem accords_recorded (hR : Accords R) : Accords (Recorded.Alike R) where
  poll := by
    intro s t h i
    have hp := hR.poll h.inner i
    simp only [Channel.poll, Recorded.poll]
    generalize Channel.poll i s.inner = p, Channel.poll i t.inner = q at hp ⊢
    obtain ⟨r, h'⟩ := hp
    exact .intro _ ⟨h', congrArg (· + 1) h.polls, h.offers, h.closed⟩
  write := by
    intro s t h bytes
    have hw := hR.write h.inner bytes
    simp only [Channel.write, Recorded.write]
    generalize Channel.write bytes s.inner = p, Channel.write bytes t.inner = q at hw ⊢
    obtain ⟨r, h'⟩ := hw
    exact .intro _ ⟨h', h.polls, congrArg (_ :: ·) h.offers, h.closed⟩
  urgent := by
    intro s t h
    have hu := hR.urgent h.inner
    simp only [Channel.urgent, Recorded.urgent]
    generalize Channel.urgent s.inner = p, Channel.urgent t.inner = q at hu ⊢
    obtain ⟨r, h'⟩ := hu
    exact .intro _ ⟨h', h.polls, h.offers, h.closed⟩
  close := by
    intro s t h
    have hc := hR.close h.inner
    simp only [Channel.close, Recorded.close]
    generalize Channel.close s.inner = p, Channel.close t.inner = q at hc ⊢
    obtain ⟨r, h'⟩ := hc
    exact .intro _ ⟨h', h.polls, h.offers, congrArg (· + 1) h.closed⟩

/-- Transports that behave alike unless the first gives up leave the same record up to there. -/
theorem MirrorsUnless.recorded (hR : MirrorsUnless E R) :
    MirrorsUnless (fun f s => E f s.inner) (Recorded.Alike R) where
  toAccords := accords_recorded hR.toAccords
  read := by
    intro s t h n
    have hr := hR.read h.inner n
    simp only [Channel.read, Recorded.read]
    generalize Channel.read n s.inner = p, Channel.read n t.inner = q at hr ⊢
    obtain @⟨f, v, hE⟩ | ⟨r, h'⟩ := hr
    · exact Or.inl (.intro hE)
    · exact Or.inr (.intro _ ⟨h', h.polls, h.offers, h.closed⟩)

/-- Two tapes with the same bytes, on transports that are related. -/
structure Taped.Alike (R : σ → τ → Prop) (s : Taped σ) (t : Taped τ) : Prop where
  inner : R s.inner t.inner
  received : s.received = t.received

/-- Transports that behave alike unless the first gives up leave the same tape up to there. -/
theorem MirrorsUnless.taped (hR : MirrorsUnless E R) : MirrorsUnless (fun f s => E f s.inner) (Taped.Alike R) where
  poll := by
    intro s t h i
    have hp := hR.poll h.inner i
    simp only [Channel.poll]
    generalize Channel.poll i s.inner = p, Channel.poll i t.inner = q at hp ⊢
    obtain ⟨r, h'⟩ := hp
    exact .intro _ ⟨h', h.received⟩
  read := by
    intro s t h n
    have hr := hR.read h.inner n
    simp only [Channel.read, Taped.read]
    generalize Channel.read n s.inner = p, Channel.read n t.inner = q at hr ⊢
    obtain @⟨f, v, hE⟩ | ⟨r, h'⟩ := hr
    · exact Or.inl (.intro hE)
    · exact Or.inr (.intro _ ⟨h', congrArg (· ++ _) h.received⟩)
  write := by
    intro s t h bytes
    have hw := hR.write h.inner bytes
    simp only [Channel.write]
    generalize Channel.write bytes s.inner = p, Channel.write bytes t.inner = q at hw ⊢
    obtain ⟨r, h'⟩ := hw
    exact .intro _ ⟨h', h.received⟩
  urgent := by
    intro s t h
    have hu := hR.urgent h.inner
    simp only [Channel.urgent]
    generalize Channel.urgent s.inner = p, Channel.urgent t.inner = q at hu ⊢
    obtain ⟨r, h'⟩ := hu
    exact .intro _ ⟨h', h.received⟩
  close := by
    intro s t h
    have hc := hR.close h.inner
    simp only [Channel.close]
    generalize Channel.close s.inner = p, Channel.close t.inner = q at hc ⊢
    obtain ⟨r, h'⟩ := hc
    exact .intro _ ⟨h', h.received⟩

end Switchboard.Exchange
