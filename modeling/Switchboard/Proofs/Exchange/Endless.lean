import Switchboard.Proofs.Exchange.Accepting

/-!
A channel that gives the same bytes to every read, without end. Whatever the meter, it is spent by a loop the test of which
asks for more as often as the bytes are added (`pump_endless`).
-/

namespace Switchboard.Exchange

open Http

/-- A channel that gives the same bytes to every read, and takes every write. -/
structure Endless where
  bytes : Bytes

namespace Endless

instance : Channel Endless where
  poll _ c := (.ok true, c)
  read n c := (.ok (c.bytes.take n), c)
  write bytes c := (.ok bytes.length, c)
  urgent c := (.ok none, c)
  close c := (.ok (), c)
  read_length n c bytes h := by
    obtain rfl := Except.ok.inj h
    exact List.length_take_le n c.bytes
  write_bound bytes c n h := Nat.le_of_eq (Except.ok.inj h).symm

theorem accepting : Channel.Accepting Endless :=
  ⟨fun _ => rfl, fun _ bytes hb => ⟨bytes.length, List.length_pos_iff.2 hb, rfl⟩⟩

theorem returns : Channel.Returns Endless where
  poll h := absurd h (by simp [Channel.poll])
  read h := absurd h (by simp [Channel.read])

/-- The session has some patience, and its channel gives these bytes for ever. -/
structure Brings (bytes : Bytes) (x : Session (Recorded (Taped (Metered Endless)))) : Prop where
  patient : 0 < x.timeout
  channel : x.transport.inner.inner.channel.bytes = bytes

variable {bytes : Bytes} {x : Link (Recorded (Taped (Metered Endless)))}

/-- A read spends the meter, or gives the bytes once more. -/
theorem read_endless {x : Session (Recorded (Taped (Metered Endless)))} (h : Brings bytes x) (n : Nat) :
    Fails (fun f v => Metered.Spent f v.transport.inner.inner) (x.read n) ∨
      ∃ y, Brings bytes y ∧ x.read n = (.ok (bytes.take n), y) := by
  obtain ⟨k, hk⟩ := Nat.exists_eq_succ_of_ne_zero (Nat.ne_of_gt h.patient)
  have hwait : waitFor .reading x.timeout x.transport =
      (.ok (), { x.transport with polls := x.transport.polls + 1 }) := by
    rw [hk]
    rfl
  rw [Session.read, hwait]
  simp only [Channel.read, Recorded.read, Taped.read]
  obtain ⟨f, c, hc, -⟩ | ⟨b, c, hc, -, hr⟩ | ⟨b, c, -, -, hr⟩ := x.transport.inner.inner.read_cases n
  · exact absurd (congrArg Prod.fst hc) (by simp [Channel.read])
  · obtain ⟨hb, rfl⟩ := Prod.mk.inj hc
    obtain rfl := Except.ok.inj hb
    rw [hr]
    simp only [h.channel]
    refine Or.inr ⟨_, ?_, rfl⟩
    exact ⟨h.patient, h.channel⟩
  · rw [hr]
    exact Or.inl (.intro ⟨rfl, rfl⟩)

/-- Filling spends the meter, or adds the bytes once more. -/
theorem fill_endless (h : Brings bytes x.session) (hne : bytes.take x.slot.limits.readSize ≠ []) :
    Fails (Link.Broken fun f s => Metered.Spent f s.inner.inner) x.fill ∨
      ∃ session, Brings bytes session ∧
        x.fill = (.ok (), ⟨x.slot.addPending (bytes.take x.slot.limits.readSize), session⟩) := by
  unfold Link.fill
  obtain hspent | ⟨y, hy, hr⟩ := read_endless h x.slot.limits.readSize
  · obtain ⟨f, hf, hE⟩ := hspent.cause
    rw [hf]
    exact Or.inl (.intro hE)
  · rw [hr]
    cases hb : bytes.take x.slot.limits.readSize with
    | nil => exact absurd hb hne
    | cons b rest => exact Or.inr ⟨y, hy, rfl⟩

/-- A loop spends the meter if its test asks for more as often as the bytes are added. -/
theorem pump_endless {α : Type} {test : Slot → Verdict Slot α} {I : Slot → Prop}
    (hI : ∀ s, I s → ∃ t, test s = .more t ∧ bytes.take t.limits.readSize ≠ [] ∧
      I (t.addPending (bytes.take t.limits.readSize)))
    (hx : Brings bytes x.session) (hs : I x.slot) :
    Fails (Link.Broken fun f s => Metered.Spent f s.inner.inner) (x.pump test) := by
  -- the induction is on what is left on the meter
  induction hn : x.supply using Nat.strongRecOn generalizing x with
  | ind n ih =>
    obtain ⟨t, ht, hne, hadded⟩ := hI x.slot hs
    have hless := Link.supply_fill (x := { x with slot := t })
    obtain hspent | ⟨session, hsession, hfill⟩ := fill_endless (x := { x with slot := t }) hx hne
    · obtain ⟨f, hf, hE⟩ := hspent.cause
      rw [Link.pump_more_error ht hf]
      exact .intro hE
    · rw [hfill] at hless
      rw [Link.pump_more_ok ht hfill]
      exact ih _ (hn ▸ hless rfl) hsession hadded rfl

end Endless

end Switchboard.Exchange
