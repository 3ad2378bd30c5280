import Switchboard.Proofs.Exchange.BodyFault
import Switchboard.Proofs.Exchange.Duplex
import Switchboard.Proofs.Exchange.Metered
import Switchboard.Proofs.Http.StartLine

/-!
What a channel has to do for a cycle to be answered. A channel that takes something of every write takes all that is sent
(`accepts_of_accepting`). Whatever a channel does, reading leaves the patience of the session and the limits of the slot
as they are, and it stops the program only if the channel does, or if one of the sums of limits is no machine word
(`behaves_readRequest`, `behaves_readBody`).
-/

namespace Switchboard.Exchange

open Http

/-! ## Channels -/

/-- A channel that is always ready for writing, and takes some bytes of every offer. -/
structure Channel.Accepting (κ : Type) [Channel κ] : Prop where
  ready (c : κ) : (Channel.poll .writing c).1 = .ok true
  takes (c : κ) {bytes : Bytes} (hb : bytes ≠ []) : ∃ n, 0 < n ∧ (Channel.write bytes c).1 = .ok n

/-- A channel the polls and reads of which do not stop the program. -/
structure Channel.Returns (κ : Type) [Channel κ] : Prop where
  poll {i : Interest} {c : κ} {f : Fault} (h : (Channel.poll i c).1 = .error f) : f.isCrash = false
  read {n : Nat} {c : κ} {f : Fault} (h : (Channel.read n c).1 = .error f) : f.isCrash = false

namespace Channel

variable {κ σ : Type} [Channel κ] [Transport σ]

theorem Accepting.metered (h : Accepting κ) : Accepting (Metered κ) :=
  ⟨fun s => h.ready s.channel, fun s _ hb => h.takes s.channel hb⟩

theorem Accepting.taped (h : Accepting σ) : Accepting (Taped σ) :=
  ⟨fun s => h.ready s.inner, fun s _ hb => h.takes s.inner hb⟩

theorem Accepting.recorded (h : Accepting σ) : Accepting (Recorded σ) :=
  ⟨fun s => h.ready s.inner, fun s _ hb => h.takes s.inner hb⟩

theorem Returns.metered (h : Returns κ) : Returns (Metered κ) where
  poll hf := h.poll hf
  read {n s f} hf := by
    have hf : (s.read n).1 = .error f := hf
    obtain ⟨g, c, hc, hr⟩ | ⟨bytes, c, -, -, hr⟩ | ⟨bytes, c, -, -, hr⟩ := s.read_cases n <;> rw [hr] at hf
    · obtain rfl : g = f := Except.error.inj hf
      exact h.read (congrArg Prod.fst hc)
    · exact absurd hf (by simp)
    · obtain rfl := Except.error.inj hf
      rfl

theorem Returns.taped (h : Returns σ) : Returns (Taped σ) := ⟨fun hf => h.poll hf, fun hf => h.read hf⟩

theorem Returns.recorded (h : Returns σ) : Returns (Recorded σ) := ⟨fun hf => h.poll hf, fun hf => h.read hf⟩

end Channel

variable {σ : Type} [Transport σ]

/-! ## Sending -/

/-- Some bytes of every offer are taken over an accepting transport, if there is any patience. -/
theorem accepts_of_accepting (h : Channel.Accepting σ) : Accepts fun x : Session σ => 0 < x.timeout := by
  intro x bytes hpos hb
  obtain ⟨k, hk⟩ := Nat.exists_eq_succ_of_ne_zero (Nat.ne_of_gt hpos)
  have hwait : waitFor .writing x.timeout x.transport = (.ok (), (Channel.poll .writing x.transport).2) := by
    have hready := h.ready x.transport
    rw [hk, waitFor]
    rcases hp : Channel.poll .writing x.transport with ⟨r, t⟩
    rw [hp] at hready
    obtain rfl : r = .ok true := hready
    rfl
  obtain ⟨n, hn, htaken⟩ := h.takes (Channel.poll .writing x.transport).2 hb
  refine ⟨n, ⟨(Channel.write bytes (Channel.poll .writing x.transport).2).2, x.timeout⟩, hn, ?_, hpos⟩
  rw [Session.write, hwait]
  simp only
  rw [htaken]

/-! ## What reading keeps -/

/-- A fault that stops the program is due to the limits, or to the transport. -/
def StopsFor (σ : Type) [Channel σ] (l : Limits) (f : Fault) : Prop :=
  f.isCrash = true → SumsFit l → ¬ Channel.Returns σ

theorem stopsFor_of_returns {l : Limits} {f : Fault} (h : Channel.Returns σ → f.isCrash = false) : StopsFor σ l f := by
  intro hcrash _ hreturns
  rw [h hreturns] at hcrash
  exact absurd hcrash Bool.false_ne_true

theorem stopsFor_of_clientData {l : Limits} {f : Fault} (h : f.category = .clientData) : StopsFor σ l f :=
  stopsFor_of_returns fun _ => (Fault.category_eq_clientData_iff.1 h).2

/-- Reading from the link `x` has come to an outcome. -/
structure Behaves {α : Type} (x : Link σ) (p : Except Fault α × Link σ) : Prop where
  timeout : p.2.session.timeout = x.session.timeout
  limits : p.2.slot.limits = x.slot.limits
  fault : ∀ f, p.1 = .error f → StopsFor σ x.slot.limits f

namespace Behaves

variable {α β : Type} {x y : Link σ}

theorem trans {p : Except Fault α × Link σ} {q : Except Fault β × Link σ} (h : Behaves x p) (h' : Behaves p.2 q) :
    Behaves x q :=
  ⟨h'.timeout.trans h.timeout, h'.limits.trans h.limits, fun f hf => h.limits ▸ h'.fault f hf⟩

/-- The slot of the link may be changed in between, its limits aside. -/
theorem ofSlot {s : Slot} {p : Except Fault α × Link σ} (h : Behaves { x with slot := s } p)
    (hs : s.limits = x.slot.limits) : Behaves x p :=
  ⟨h.timeout, h.limits.trans hs, fun f hf => hs ▸ h.fault f hf⟩

/-- What would have been read does not matter to a failure. -/
theorem failed {f : Fault} (h : Behaves x ((.error f, y) : Except Fault α × Link σ)) :
    Behaves x ((.error f, y) : Except Fault β × Link σ) :=
  ⟨h.timeout, h.limits, fun g hg => h.fault g (congrArg _ (Except.error.inj hg))⟩

/-- What was read does not matter. -/
theorem ok {a : α} (h : Behaves x ((.ok a, y) : Except Fault α × Link σ)) (b : β) (s : Slot)
    (hs : s.limits = y.slot.limits) : Behaves x ((.ok b, { y with slot := s }) : Except Fault β × Link σ) :=
  ⟨h.timeout, hs.trans h.limits, fun g hg => absurd hg (by simp)⟩

end Behaves

theorem waitFor_stops (l : Limits) {i : Interest} {n : Nat} {t : σ} {f : Fault} (h : (waitFor i n t).1 = .error f) :
    StopsFor σ l f := by
  induction n generalizing t with
  | zero =>
    obtain rfl := Except.error.inj h
    exact fun hcrash => absurd hcrash (by decide)
  | succ n ih =>
    rw [waitFor] at h
    rcases hp : Channel.poll i t with ⟨g | _ | _, t'⟩ <;> rw [hp] at h
    · obtain rfl : g = f := Except.error.inj h
      exact stopsFor_of_returns fun hreturns => hreturns.poll (congrArg Prod.fst hp)
    · exact ih h
    · exact absurd h (by simp)

theorem Session.read_stops (l : Limits) {x : Session σ} {n : Nat} {f : Fault} (h : (x.read n).1 = .error f) :
    StopsFor σ l f := by
  unfold Session.read at h
  rcases hw : waitFor .reading x.timeout x.transport with ⟨g | _, t⟩ <;> rw [hw] at h
  · obtain rfl : g = f := Except.error.inj h
    exact waitFor_stops l (congrArg Prod.fst hw)
  · exact stopsFor_of_returns fun hreturns => hreturns.read h

theorem Session.timeout_read (x : Session σ) (n : Nat) : (x.read n).2.timeout = x.timeout := by
  unfold Session.read
  rcases waitFor .reading x.timeout x.transport with ⟨f | _, t⟩
  · rfl
  · rfl

theorem Session.timeout_urgent (x : Session σ) (n : Nat) : (x.urgent n).2.timeout = x.timeout := by
  induction n generalizing x with
  | zero => rfl
  | succ n ih =>
    unfold Session.urgent
    rcases Channel.urgent x.transport with ⟨f | _ | b, t⟩
    · rfl
    · exact ih { x with transport := t }
    · rfl

namespace Link

variable {x : Link σ}

theorem behaves_fill (x : Link σ) : Behaves x x.fill := by
  have htimeout := x.session.timeout_read x.slot.limits.readSize
  unfold Link.fill
  rcases hr : x.session.read x.slot.limits.readSize with ⟨f | _ | ⟨b, bytes⟩, session⟩ <;> rw [hr] at htimeout
  · refine ⟨htimeout, rfl, fun g hg => ?_⟩
    obtain rfl := Except.error.inj hg
    exact Session.read_stops _ (congrArg Prod.fst hr)
  · refine ⟨htimeout, rfl, fun g hg => ?_⟩
    obtain rfl := Except.error.inj hg
    exact fun hcrash => absurd hcrash (by decide)
  · exact ⟨htimeout, rfl, fun g hg => absurd hg (by simp)⟩

/-- A test that leaves the limits, and does not stop the program without a reason. -/
structure Settles {α : Type} (σ : Type) [Channel σ] (test : Slot → Verdict Slot α) : Prop where
  limits (s : Slot) : (test s).slot.limits = s.limits
  fault {s t : Slot} {f : Fault} (h : test s = .failed f t) : StopsFor σ s.limits f

theorem behaves_pump {α : Type} {test : Slot → Verdict Slot α} (htest : Settles σ test) (x : Link σ) :
    Behaves x (x.pump test) := by
  induction hn : x.supply using Nat.strongRecOn generalizing x with
  | ind n ih =>
    have hlimits := htest.limits x.slot
    rcases ht : test x.slot with ⟨a, s⟩ | ⟨f, s⟩ | s <;> rw [ht] at hlimits
    · rw [pump_done ht]
      exact ⟨rfl, hlimits, fun g hg => absurd hg (by simp)⟩
    · rw [pump_failed ht]
      refine ⟨rfl, hlimits, fun g hg => ?_⟩
      obtain rfl := Except.error.inj hg
      exact htest.fault ht
    · have hless := supply_fill (x := { x with slot := s })
      have hfill := behaves_fill { x with slot := s }
      have hfill : Behaves x (fill { x with slot := s }) := hfill.ofSlot hlimits
      rcases hf : fill { x with slot := s } with ⟨f | _, y⟩ <;> rw [hf] at hless hfill
      · rw [pump_more_error ht hf]
        exact hfill.failed
      · rw [pump_more_ok ht hf]
        exact hfill.trans (ih y.supply (hn ▸ hless rfl) y rfl)

theorem lineFault_stops (l : Limits) : StopsFor σ l (lineFault l .request) := by
  intro hcrash hsums
  have hbound : l.lineBound? = some _ := if_pos hsums.line
  rw [lineFault, hbound, if_neg (by simp)] at hcrash
  exact absurd hcrash Bool.false_ne_true

theorem sectionFault_stops (l : Limits) : StopsFor σ l (sectionFault l) := by
  intro hcrash hsums
  have hbound : l.sectionBound? = some _ := if_pos hsums.header
  rw [sectionFault, hbound, if_neg (by simp)] at hcrash
  exact absurd hcrash Bool.false_ne_true

theorem settles_headTest : Settles σ (headTest .request) where
  limits s := (receives_headTest .request s).limits
  fault {s t f} h := by
    rcases hs : Head.split? (Head.dropBlankLines s.buffer) with _ | ⟨head, rest⟩
    · rcases hl : Head.splitLine? (Head.dropBlankLines s.buffer) with _ | ⟨line, rest⟩
      · rw [headTest_of_line rfl hl] at h
        split at h
        · exact absurd h (by simp)
        · obtain ⟨rfl, -⟩ := Verdict.failed.inj h
          exact lineFault_stops s.limits
      · rw [headTest_of_section rfl hs hl] at h
        split at h
        · exact absurd h (by simp)
        · obtain ⟨rfl, -⟩ := Verdict.failed.inj h
          exact sectionFault_stops s.limits
    · exact absurd h (by simp [headTest, hs])

theorem settles_chunkTest : Settles σ (chunkTest .request) where
  limits s := (receives_chunkTest s).limits
  fault {s t f} h := by
    rcases chunkTest_cases .request s with ⟨g, hg, ht⟩ | ⟨-, ⟨-, ht⟩ | ⟨-, ht⟩⟩ <;> rw [ht] at h
    · obtain ⟨rfl, -⟩ := Verdict.failed.inj h
      exact stopsFor_of_clientData (Chunk.category_of_decode hg)
    · exact absurd h (by simp)
    · exact absurd h (by simp)

theorem settles_sizedTest (n : Nat) : Settles σ (sizedTest n) where
  limits s := (receives_sizedTest n s).limits
  fault {s t f} h := by
    unfold sizedTest at h
    split at h <;> exact absurd h (by simp)

/-! ## Messages -/

/-- A head is refused as the other side's doing. -/
theorem category_of_openRequest {s t : Slot} {head : Bytes} {f : Fault} (h : s.openRequest head = (.error f, t)) :
    f.category = .clientData := by
  unfold Slot.openRequest at h
  rcases hparse : Head.parse head s.limits.maxHeader.toNat with g | ⟨line, fields⟩ <;> rw [hparse] at h
  · obtain rfl := Except.error.inj (congrArg Prod.fst h)
    exact Head.category_of_parse hparse
  simp only at h
  rcases hline : RequestLine.parse line s.limits.maxUrl.toNat with g | r <;> rw [hline] at h
  · obtain rfl := Except.error.inj (congrArg Prod.fst h)
    exact RequestLine.category_of_parse hline
  simp only at h
  split at h
  · obtain rfl := Except.error.inj (congrArg Prod.fst h)
    rfl
  rcases hlength : (if fields.isChunked then .ok none else fields.contentLength : Except Fault (Option Nat))
    with g | n <;> rw [hlength] at h
  · obtain rfl := Except.error.inj (congrArg Prod.fst h)
    split at hlength
    · exact absurd hlength (by simp)
    · obtain ⟨-, value, rfl⟩ := Fields.contentLength_error hlength
      rfl
  · exact absurd (congrArg Prod.fst h) (by simp)

theorem behaves_failed {α : Type} {f : Fault} (hf : f.category = .clientData) :
    Behaves x ((.error f, x) : Except Fault α × Link σ) :=
  ⟨rfl, rfl, fun g hg => by
    obtain rfl := Except.error.inj hg
    exact stopsFor_of_clientData hf⟩

theorem behaves_ok {α : Type} (a : α) : Behaves x ((.ok a, x) : Except Fault α × Link σ) :=
  ⟨rfl, rfl, fun g hg => absurd hg (by simp)⟩

theorem behaves_readSized (n : Nat) (x : Link σ) : Behaves x (x.readSized n .request) := by
  have hpump := behaves_pump (settles_sizedTest n) x
  unfold readSized
  split
  · exact behaves_failed rfl
  · rcases hp : x.pump (sizedTest n) with ⟨f | data, y⟩ <;> rw [hp] at hpump
    · exact hpump.failed
    · exact hpump.ok () _ rfl

theorem behaves_readBody (x : Link σ) : Behaves x x.readBody := by
  unfold readBody
  split
  · exact Behaves.ofSlot (behaves_pump settles_chunkTest _) rfl
  · rcases hlength : x.slot.request.contentLength with f | _ | n
    · obtain ⟨-, value, rfl⟩ := Fields.contentLength_error hlength
      exact behaves_failed rfl
    · exact behaves_ok ()
    · exact behaves_readSized n x

theorem behaves_readRequest (x : Link σ) : Behaves x x.readRequest := by
  have hpump : Behaves x ((x.mapSlot Slot.cleared).pump (headTest .request)) :=
    Behaves.ofSlot (behaves_pump settles_headTest _) rfl
  rw [readRequest_eq]
  rcases hp : (x.mapSlot Slot.cleared).pump (headTest .request) with ⟨f | head, y⟩ <;> rw [hp] at hpump
  · exact hpump.failed
  have hlimits := (y.slot.receives_openRequest head).limits
  simp only
  rcases ho : y.slot.openRequest head with ⟨f | _, s⟩ <;> rw [ho] at hlimits
  · exact hpump.trans (Behaves.ofSlot (behaves_failed (category_of_openRequest ho)) hlimits)
  simp only
  split
  · exact hpump.trans (Behaves.ofSlot (behaves_ok ()) hlimits)
  · exact hpump.trans (Behaves.ofSlot (behaves_readBody _) hlimits)

end Link
end Switchboard.Exchange
