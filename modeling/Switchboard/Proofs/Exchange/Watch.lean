import Switchboard.Proofs.Exchange.Bounds

/-!
Reading under observation. The loop and the readings made of it are run with a record of the slots that they go
through: what each test finds in the slot, what it leaves there, and what is put into it between two tests. A reading
that is watched comes to what it comes to unwatched (`watchRequest_fst`, `watchBody_fst`). What every test preserves
for any bytes that a transport can give holds of all slots in the record (`watchPump_sees`).
-/

namespace Switchboard.Exchange

open Http

/-- What a reading comes to, and the slots that it goes through. -/
abbrev Watched (σ α : Type) : Type := (Except Fault α × Link σ) × List Slot

namespace Link

variable {σ : Type} [Transport σ]

/-- `pump` under observation. -/
def watchPump {α : Type} (test : Slot → Verdict Slot α) (x : Link σ) : Watched σ α :=
  match test x.slot with
  | .done a slot => ((.ok a, { x with slot }), [x.slot, slot])
  | .failed f slot => ((.error f, { x with slot }), [x.slot, slot])
  | .more slot =>
    match _h : fill { x with slot } with
    | (.error f, y) => ((.error f, y), [x.slot, slot, y.slot])
    | (.ok (), next) => ((watchPump test next).1, x.slot :: slot :: (watchPump test next).2)
termination_by x.supply
decreasing_by
  all_goals
    have := supply_fill (x := { x with slot }) (by rw [_h])
    rw [_h] at this
    exact this

/-- `readChunked` under observation. -/
def watchChunked (dir : Direction) (x : Link σ) : Watched σ Unit :=
  (x.mapSlot fun s => { s with decoder := s.decoder.start }).watchPump (chunkTest dir)

/-- `readSized` under observation. -/
def watchSized (n : Nat) (dir : Direction) (x : Link σ) : Watched σ Unit :=
  if n > x.slot.limits.maxBody.toNat then
    ((.error (.bodyTooLarge x.slot.limits.maxBody.toNat), x), [x.slot])
  else
    match x.watchPump (sizedTest n) with
    | ((.error f, x), seen) => ((.error f, x), seen)
    | ((.ok data, x), seen) => ((.ok (), x.mapSlot (·.deliver dir data [])), seen ++ [x.slot.deliver dir data []])

/-- `readBody` under observation. -/
def watchBody (x : Link σ) : Watched σ Unit :=
  if x.slot.request.isChunked then x.watchChunked .request
  else
    match x.slot.request.contentLength with
    | .error f => ((.error f, x), [x.slot])
    | .ok none => ((.ok (), x), [x.slot])
    | .ok (some n) => x.watchSized n .request

/-- `readRequest` under observation. -/
def watchRequest (x : Link σ) : Watched σ Unit :=
  match (x.mapSlot Slot.cleared).watchPump (headTest .request) with
  | ((.error f, x), seen) => ((.error f, x), seen)
  | ((.ok head, x), seen) =>
    match x.slot.openRequest head with
    | (.error f, slot) => ((.error f, { x with slot }), seen ++ [slot])
    | (.ok (), slot) =>
      if slot.request.expectContinue then ((.ok (), { x with slot }), seen ++ [slot])
      else ((watchBody { x with slot }).1, seen ++ slot :: (watchBody { x with slot }).2)

/-! ## The same readings -/

section Same

variable {α : Type} {test : Slot → Verdict Slot α}

theorem watchPump_fst (test : Slot → Verdict Slot α) (x : Link σ) : (x.watchPump test).1 = x.pump test := by
  fun_induction watchPump test x with
  | case1 x a slot h => exact (pump_done h).symm
  | case2 x f slot h => exact (pump_failed h).symm
  | case3 x slot h f y hf => exact (pump_more_error h hf).symm
  | case4 x slot h next hf ih => exact ih.trans (pump_more_ok h hf).symm

theorem watchChunked_fst (dir : Direction) (x : Link σ) : (x.watchChunked dir).1 = x.readChunked dir :=
  watchPump_fst _ _

theorem watchSized_fst (n : Nat) (dir : Direction) (x : Link σ) : (x.watchSized n dir).1 = x.readSized n dir := by
  have hpump := watchPump_fst (sizedTest n) x
  unfold watchSized readSized
  split
  · rfl
  · rw [← hpump]
    rcases x.watchPump (sizedTest n) with ⟨⟨f | data, y⟩, seen⟩ <;> rfl

/-- A body that is read under observation is the body that is read. -/
theorem watchBody_fst (x : Link σ) : x.watchBody.1 = x.readBody := by
  unfold watchBody readBody
  split
  · exact watchChunked_fst _ x
  · rcases x.slot.request.contentLength with f | _ | n
    · rfl
    · rfl
    · exact watchSized_fst n _ x

/-- A request that is read under observation is the request that is read. -/
theorem watchRequest_fst (x : Link σ) : x.watchRequest.1 = x.readRequest := by
  have hpump := watchPump_fst (headTest .request) (x.mapSlot Slot.cleared)
  rw [readRequest_eq, ← hpump, watchRequest]
  rcases (x.mapSlot Slot.cleared).watchPump (headTest .request) with ⟨⟨f | head, y⟩, seen⟩
  · rfl
  simp only
  rcases y.slot.openRequest head with ⟨f | _, slot⟩
  · rfl
  simp only
  split
  · rfl
  · exact watchBody_fst _

end Same

/-! ## What is seen -/

section Seen

variable {α : Type} {x : Link σ}

/-- What holds of the slot before each test, whatever bytes a read may add, shows in all that is seen of the loop, and
in what the loop comes to. -/
theorem watchPump_sees (test : Slot → Verdict Slot α) (Inv Seen : Slot → Prop) (Out : α → Slot → Prop)
    (hseen : ∀ {s}, Inv s → Seen s)
    (hdone : ∀ {s t a}, Inv s → test s = .done a t → Seen t ∧ Out a t)
    (hfailed : ∀ {s t f}, Inv s → test s = .failed f t → Seen t)
    (hmore : ∀ {s t}, Inv s → test s = .more t →
      Seen t ∧ ∀ piece, piece.length ≤ t.limits.readSize → Inv (t.addPending piece))
    (hx : Inv x.slot) :
    (∀ s ∈ (x.watchPump test).2, Seen s) ∧ ∀ a y, (x.watchPump test).1 = (.ok a, y) → Out a y.slot := by
  fun_induction watchPump test x with
  | case1 x a slot h =>
    obtain ⟨hslot, hout⟩ := hdone hx h
    refine ⟨by simp [hseen hx, hslot], fun b y hy => ?_⟩
    obtain ⟨hb, rfl⟩ := Prod.mk.inj hy
    exact Except.ok.inj hb ▸ hout
  | case2 x f slot h =>
    exact ⟨by simp [hseen hx, hfailed hx h], fun b y hy => absurd (congrArg Prod.fst hy) (by simp)⟩
  | case3 x slot h f y hf =>
    have hslot := (hmore hx h).1
    have hy : y.slot = slot := slot_of_fill_error hf
    exact ⟨by simp [hseen hx, hslot, hy], fun b y hy => absurd (congrArg Prod.fst hy) (by simp)⟩
  | case4 x slot h next hf ih =>
    obtain ⟨hslot, hnext⟩ := hmore hx h
    obtain ⟨piece, hpiece, hs⟩ := slot_of_fill hf
    obtain ⟨hall, hout⟩ := ih (hs ▸ hnext piece hpiece)
    exact ⟨by simpa [hseen hx, hslot] using hall, hout⟩

end Seen

end Link
end Switchboard.Exchange
