import Switchboard.Proofs.Http.Chunk.Moves
import Switchboard.Proofs.Http.Chunk.Runs

/-!
The decoder of the chunked coding under wider bounds. A bound is only ever compared with what has been counted, and
what is counted does not depend on it. So a byte that is taken is taken under wider bounds as well, with the same result
(`step_widened`), and so is an input of which no byte is refused (`decode_widened`). A byte that is refused may be
taken.
-/

namespace Switchboard.Http.Chunk

/-- The decoder with other bounds. -/
def Decoder.withBounds (d : Decoder) (maxBody maxTrailer : Nat) : Decoder := { d with maxBody, maxTrailer }

variable {maxBody maxTrailer : Nat} {d e : Decoder} {b : UInt8}

/-- What the one step takes, the other takes as well, and its decoder differs in the bounds only. -/
def Widens (maxBody maxTrailer : Nat) (r s : Decoder.Stepped) : Prop :=
  ∀ e y, r = (e, .ok y) → s = (e.withBounds maxBody maxTrailer, .ok y)

/-! ## Ways to end a step -/

theorem widens_refuse (d : Decoder) (f : Fault) (s : Decoder.Stepped) :
    Widens maxBody maxTrailer (d.refuse f) s := by
  intro e y h
  exact absurd h Decoder.not_refuse

theorem widens_self (r : Decoder.Stepped) :
    Widens maxBody maxTrailer r (r.1.withBounds maxBody maxTrailer, r.2) := by
  intro e y h
  rw [h]

theorem widens_goto (d : Decoder) (p : Phase) :
    Widens maxBody maxTrailer (d.goto p) ((d.withBounds maxBody maxTrailer).goto p) :=
  widens_self (d.goto p)

theorem widens_ite {c : Prop} [Decidable c] {r r' s s' : Decoder.Stepped}
    (h : Widens maxBody maxTrailer r s) (h' : Widens maxBody maxTrailer r' s') :
    Widens maxBody maxTrailer (if c then r else r') (if c then s else s') := by
  split
  · exact h
  · exact h'

/-- The size that fits what is left of the body fits what is left of a longer one. -/
theorem widens_takeDigit (hbody : d.maxBody ≤ maxBody) (size digit : Nat) :
    Widens maxBody maxTrailer (d.takeDigit size digit) ((d.withBounds maxBody maxTrailer).takeDigit size digit) := by
  intro e y h
  obtain ⟨rfl, rfl, hword, hleft⟩ := Decoder.eq_of_takeDigit h
  have hleft : ¬ size * 16 + digit > maxBody - d.total := by omega
  have hgrow : (d.withBounds maxBody maxTrailer).grow size digit = .ok (size * 16 + digit) :=
    (if_neg (Nat.not_le_of_lt hword)).trans (if_neg hleft)
  rw [Decoder.takeDigit, hgrow]
  rfl

theorem afterSize?_withBounds (d : Decoder) (size : Nat) (b : UInt8) :
    (d.withBounds maxBody maxTrailer).afterSize? size b =
      (d.afterSize? size b).map fun r => (r.1.withBounds maxBody maxTrailer, r.2) := by
  unfold Decoder.afterSize?
  split_ifs <;> rfl

theorem widens_stepExtValue (d : Decoder) (size : Nat) (v : ExtValue) (b : UInt8) :
    Widens maxBody maxTrailer (d.stepExtValue size v b)
      ((d.withBounds maxBody maxTrailer).stepExtValue size v b) := by
  cases v with
  | start => exact widens_ite (widens_goto d _) (widens_ite (widens_goto d _) (widens_refuse d _ _))
  | inside =>
    exact widens_ite (widens_goto d _)
      (widens_ite (widens_goto d _) (widens_ite (widens_goto d _) (widens_refuse d _ _)))
  | quoted =>
    exact widens_ite (widens_goto d _)
      (widens_ite (widens_goto d _) (widens_ite (widens_goto d _) (widens_refuse d _ _)))
  | escaped => exact widens_goto d _

/-- A byte of a trailer line that is within the limit is within a higher one. -/
theorem widens_counted (htrailer : d.maxTrailer ≤ maxTrailer) {next : Decoder → Decoder.Stepped}
    (hnext : ∀ d : Decoder, Widens maxBody maxTrailer (next d) (next (d.withBounds maxBody maxTrailer))) :
    Widens maxBody maxTrailer (d.counted next) ((d.withBounds maxBody maxTrailer).counted next) := by
  intro e y h
  obtain ⟨hcount, h⟩ := Decoder.of_counted h
  have hcount : ¬ d.trailerBytes + 1 > maxTrailer := by omega
  rw [← hnext _ e y h]
  exact if_neg hcount

/-! ## Steps -/

/-- A byte that is taken is taken under wider bounds, with the same result. -/
theorem step_widened (hbody : d.maxBody ≤ maxBody) (htrailer : d.maxTrailer ≤ maxTrailer) (b : UInt8) :
    Widens maxBody maxTrailer (d.step b) ((d.withBounds maxBody maxTrailer).step b) := by
  have hphase : (d.withBounds maxBody maxTrailer).phase = d.phase := rfl
  unfold Decoder.step
  rw [hphase]
  rcases d.phase with _ | size | ⟨size, _ | _⟩ | ⟨size, v⟩ | size | size | _ | _ | nameRev |
    ⟨nameRev, valueRev⟩ | left | _ | _ | _ <;> simp only
  case sizeStart =>
    rcases Text.hexValue? b with _ | digit
    · exact widens_refuse d _ _
    · exact widens_takeDigit hbody 0 digit
  case size =>
    rw [afterSize?_withBounds]
    rcases d.afterSize? size b with _ | r
    · rcases Text.hexValue? b with _ | digit
      · exact widens_refuse d _ _
      · exact widens_takeDigit hbody size digit
    · exact widens_self r
  case extName.false => exact widens_ite (widens_goto d _) (widens_ite (widens_goto d _) (widens_refuse d _ _))
  case extName.true =>
    exact widens_ite (widens_goto d _) (widens_ite (widens_goto d _)
      (widens_ite (widens_goto d _) (widens_ite (widens_goto d _) (widens_refuse d _ _))))
  case extValue => exact widens_stepExtValue d size v b
  case sizeBlank =>
    rw [afterSize?_withBounds]
    rcases d.afterSize? size b with _ | r
    · exact widens_refuse d _ _
    · exact widens_self r
  case lineFeed => exact widens_ite (widens_goto d _) (widens_refuse d _ _)
  case trailerStart =>
    exact widens_ite (widens_goto d _)
      (widens_ite (widens_counted htrailer fun d => widens_goto d _) (widens_refuse d _ _))
  case lastLineFeed => exact widens_ite (widens_goto d _) (widens_refuse d _ _)
  case trailerName =>
    exact widens_counted htrailer fun d =>
      widens_ite (widens_goto d _) (widens_ite (widens_goto d _) (widens_refuse d _ _))
  case trailerValue =>
    exact widens_counted htrailer fun d =>
      widens_ite (widens_self _) (widens_ite (widens_goto d _) (widens_refuse d _ _))
  case data => exact widens_self _
  case dataReturn => exact widens_ite (widens_goto d _) (widens_refuse d _ _)
  case dataLineFeed => exact widens_ite (widens_goto d _) (widens_refuse d _ _)
  case finished => exact widens_self _

/-! ## Inputs -/

/-- A run is a run under wider bounds, and completes the same. -/
theorem Runs.widened {w data : Bytes} {fields : List Field} (h : Runs d w e data fields)
    (hbody : d.maxBody ≤ maxBody) (htrailer : d.maxTrailer ≤ maxTrailer) :
    Runs (d.withBounds maxBody maxTrailer) w (e.withBounds maxBody maxTrailer) data fields := by
  induction h with
  | refl d => exact .refl _
  | @cons d d' e b w data y fields hd hs _ ih =>
    obtain ⟨hbody', htrailer'⟩ := limits_of_step hs
    exact .cons hd (step_widened hbody htrailer b d' y hs) (ih (hbody' ▸ hbody) (htrailer' ▸ htrailer))

/-- An input of which no byte is refused is decoded under wider bounds to the same. -/
theorem decode_widened {w : Bytes} (h : (d.decode w).fault = none) (hbody : d.maxBody ≤ maxBody)
    (htrailer : d.maxTrailer ≤ maxTrailer) :
    (d.withBounds maxBody maxTrailer).decode w =
      { d.decode w with decoder := (d.decode w).decoder.withBounds maxBody maxTrailer } := by
  obtain ⟨u, rest, e, data, fields, rfl, hr, ⟨hstop, hdec⟩ | ⟨e', f, hdec⟩⟩ := decode_cases d w
  · have hwide := hr.widened hbody htrailer
    rw [hdec]
    rcases hstop with rfl | hfin
    · rw [List.append_nil, decode_eq_ran hwide]
      rfl
    · rw [decode_of_runs hwide hfin]
      rfl
  · rw [hdec] at h
    exact absurd h (by simp)

end Switchboard.Http.Chunk
