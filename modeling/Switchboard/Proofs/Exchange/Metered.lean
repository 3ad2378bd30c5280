import Switchboard.Proofs.Exchange.Alike

/-!
Channels that may give bytes for ever. A reading loop over a channel need not end, so it is run over a metered channel
(`Metered`), of which only so many bytes may be read: a read that would give more fails, and leaves the mark that the
meter is spent. Up to there nothing is changed, so a run that does not spend its meter is the run over the channel, and
it is the same with any larger meter (`mirrorsUnless_longer`); reading goes on for ever if every meter is spent.

A metered channel is a transport, the supply of which is what is left on the meter. Nothing is assumed of the channel but
the two bounds of its class.
-/

namespace Switchboard.Exchange

open Http

/-- A channel of which `left` more bytes may be read. -/
structure Metered (κ : Type) where
  channel : κ
  left : Nat
  /-- A read would have given more than was left. -/
  spent : Bool := false

namespace Metered

variable {κ : Type}

/-- The failure of a read that would give more than is left. -/
def exhausted : Fault := .transport "no more bytes may be read"

variable [Channel κ]

/-- A read. -/
def read (n : Nat) (s : Metered κ) : Except Fault Bytes × Metered κ :=
  match Channel.read n s.channel with
  | (.error f, channel) => (.error f, { s with channel })
  | (.ok bytes, channel) =>
    if bytes.length ≤ s.left then (.ok bytes, { s with channel, left := s.left - bytes.length })
    else (.error exhausted, { s with channel, spent := true })

theorem read_cases (n : Nat) (s : Metered κ) :
    (∃ f c, Channel.read n s.channel = (.error f, c) ∧ s.read n = (.error f, { s with channel := c })) ∨
      (∃ bytes c, Channel.read n s.channel = (.ok bytes, c) ∧ bytes.length ≤ s.left ∧
        s.read n = (.ok bytes, { s with channel := c, left := s.left - bytes.length })) ∨
      ∃ bytes c, Channel.read n s.channel = (.ok bytes, c) ∧ s.left < bytes.length ∧
        s.read n = (.error exhausted, { s with channel := c, spent := true }) := by
  unfold read
  rcases Channel.read n s.channel with ⟨f | bytes, c⟩
  · exact Or.inl ⟨f, c, rfl, rfl⟩
  · by_cases hle : bytes.length ≤ s.left
    · exact Or.inr (Or.inl ⟨bytes, c, rfl, hle, if_pos hle⟩)
    · exact Or.inr (Or.inr ⟨bytes, c, rfl, Nat.lt_of_not_le hle, if_neg hle⟩)

theorem read_of_ok {n : Nat} {s : Metered κ} {bytes : Bytes} (h : (s.read n).1 = .ok bytes) :
    (Channel.read n s.channel).1 = .ok bytes ∧ (s.read n).2.left + bytes.length = s.left := by
  obtain ⟨f, c, -, hr⟩ | ⟨b, c, hc, hle, hr⟩ | ⟨b, c, -, -, hr⟩ := s.read_cases n <;> rw [hr] at h ⊢
  · exact absurd h (by simp)
  · obtain rfl : b = bytes := Except.ok.inj h
    exact ⟨by rw [hc], Nat.sub_add_cancel hle⟩
  · exact absurd h (by simp)

theorem left_read (n : Nat) (s : Metered κ) : (s.read n).2.left ≤ s.left := by
  obtain ⟨f, c, -, hr⟩ | ⟨b, c, -, -, hr⟩ | ⟨b, c, -, -, hr⟩ := s.read_cases n <;> rw [hr]
  · exact Nat.sub_le s.left b.length

instance : Transport (Metered κ) where
  poll i s := let (r, channel) := Channel.poll i s.channel; (r, { s with channel })
  read := read
  write bytes s := let (r, channel) := Channel.write bytes s.channel; (r, { s with channel })
  urgent s := let (r, channel) := Channel.urgent s.channel; (r, { s with channel })
  close s := let (r, channel) := Channel.close s.channel; (r, { s with channel })
  read_length n s bytes h := Channel.read_length n s.channel bytes (read_of_ok h).1
  write_bound bytes s := Channel.write_bound bytes s.channel
  supply := left
  supply_poll _ s := Nat.le_refl s.left
  supply_read := left_read
  read_supply _ _ _ h := Nat.le_of_eq (read_of_ok h).2
  supply_write _ s := Nat.le_refl s.left

/-- A read has failed because it would have given more than was left. -/
def Spent (f : Fault) (s : Metered κ) : Prop := f = exhausted ∧ s.spent = true

/-- One channel on two meters, neither of them spent, with `k` bytes more left on the second. -/
def Longer (k : Nat) (s t : Metered κ) : Prop := s.spent = false ∧ t = { s with left := s.left + k }

/-- On a longer meter a channel behaves alike, until the shorter one is spent. -/
theorem mirrorsUnless_longer (k : Nat) : MirrorsUnless (Spent (κ := κ)) (Longer k) where
  poll := by
    rintro s _ ⟨hfresh, rfl⟩ i
    exact .intro _ ⟨hfresh, rfl⟩
  read := by
    rintro s _ ⟨hfresh, rfl⟩ n
    simp only [Channel.read]
    obtain ⟨f, c, hc, hr⟩ | ⟨bytes, c, hc, hle, hr⟩ | ⟨bytes, c, hc, -, hr⟩ := s.read_cases n
    · right
      rw [hr, read, hc]
      exact .intro _ ⟨hfresh, rfl⟩
    · right
      rw [hr, read, hc]
      simp only
      rw [if_pos (Nat.le_trans hle (Nat.le_add_right _ _)), Nat.sub_add_comm hle]
      exact .intro _ ⟨hfresh, rfl⟩
    · left
      rw [hr]
      exact .intro ⟨rfl, rfl⟩
  write := by
    rintro s _ ⟨hfresh, rfl⟩ bytes
    exact .intro _ ⟨hfresh, rfl⟩
  urgent := by
    rintro s _ ⟨hfresh, rfl⟩
    exact .intro _ ⟨hfresh, rfl⟩
  close := by
    rintro s _ ⟨hfresh, rfl⟩
    exact .intro _ ⟨hfresh, rfl⟩

end Metered
end Switchboard.Exchange
