import Switchboard.Proofs.Http.Chunk.Calls

/-!
How many trailer fields a decoder lets through. It counts bytes and not fields: each line is counted for its name,
its colon, its value and its carriage return, so that a field has been counted for three bytes at least when it comes
out, and the limit on trailer bytes allows a third as many fields (`three_mul_trailers_le`). No other limit is on their
number: any number of fields within that is let through, on the shortest lines (`decode_shortBody`).
-/

namespace Switchboard.Http.Chunk

/-! ## At most a third -/

/-- What is counted already of the three bytes that a trailer line has at least, one of a name, the colon, and the
carriage return. -/
def Phase.prepaid : Phase → Nat
  | .trailerName _ => 1
  | .trailerValue _ _ => 2
  | _ => 0

/-- A byte brings the next field nearer only if it counts. -/
theorem Moves.prepaid {p q : Phase} {b : UInt8} {y : Yield} (h : Moves p b q y) :
    3 * y.fields.length + q.prepaid ≤ p.prepaid ∨
      p.Counts b ∧ 3 * y.fields.length + q.prepaid ≤ p.prepaid + 1 := by
  cases h with
  | trailer hb =>
    have h13 : b ≠ 13 := by
      rintro rfl
      exact absurd hb (by decide)
    exact Or.inr ⟨Or.inl ⟨rfl, h13⟩, Nat.le_refl 1⟩
  | trailerName nameRev hb => exact Or.inl (Nat.le_refl 1)
  | trailerColon nameRev => exact Or.inr ⟨Or.inr (Or.inl ⟨nameRev, rfl⟩), Nat.le_refl 2⟩
  | trailerValue nameRev valueRev hb => exact Or.inl (Nat.le_refl 2)
  | trailerReturn nameRev valueRev =>
    exact Or.inr ⟨Or.inr (Or.inr ⟨nameRev, valueRev, rfl⟩), Nat.le_refl 3⟩
  | _ => exact Or.inl (Nat.zero_le _)

/-- Along a run each field that comes out has been counted for three bytes at least, and these are within the limit. -/
theorem Runs.affords {d e : Decoder} {w data : Bytes} {fields : List Field} {n : Nat}
    (h : Runs d w e data fields) (hd : d.Affords (3 * n + d.phase.prepaid)) :
    e.Affords (3 * (n + fields.length) + e.phase.prepaid) := by
  induction h generalizing n with
  | refl d => exact hd
  | cons hfin hs _ ih =>
    rw [List.length_append, ← Nat.add_assoc]
    apply ih
    apply hd.taken hs
    rcases (moves_of_step hfin hs).prepaid with hpaid | ⟨hcounts, hpaid⟩
    · exact Or.inl (by omega)
    · exact Or.inr ⟨hcounts, by omega⟩

/-- Whatever an input is, three times the trailer fields that come out of a started decoder are within its limit on
trailer bytes. -/
theorem three_mul_trailers_le (d : Decoder) (input : Bytes) :
    3 * (d.start.decode input).trailers.length ≤ d.maxTrailer := by
  obtain ⟨w, rest, e, data, fields, -, hr, hcases⟩ := decode_cases d.start input
  have htrailers : (d.start.decode input).trailers = fields := by
    rcases hcases with ⟨-, hdec⟩ | ⟨e', f, hdec⟩ <;> rw [hdec]
    · exact trailers_ran e w data fields
    · exact trailers_ran e w data fields
  have hmax := (limits_decode d.start w).2
  rw [decode_eq_ran hr] at hmax
  have hmax : e.maxTrailer = d.maxTrailer := hmax
  have hwithin := (hr.affords (n := 0) ⟨Nat.zero_le _, Nat.zero_le _⟩).within
  rw [htrailers]
  omega

/-! ## A third -/

/-- The shortest trailer line. -/
def shortLine : TrailerLine := ⟨[97], []⟩

/-- A body without data, and with so many trailer lines of the shortest. -/
def shortBody (n : Nat) : Framed where
  chunks := []
  lastDigits := Text.utf8 "0"
  lastExtension := []
  trailers := List.replicate n shortLine

theorem shortBody_follows (n : Nat) : (shortBody n).Follows Extension where
  chunks := by simp [shortBody]
  lastSize := (by decide : IsSize (Text.utf8 "0") 0)
  lastExtension := .nil
  trailers := by
    intro l hl
    obtain rfl := List.eq_of_mem_replicate hl
    exact ⟨⟨List.cons_ne_nil _ _, List.forall_mem_singleton.2 (by decide)⟩, by simp [shortLine]⟩

theorem trailerWeight_shortBody (n : Nat) : (shortBody n).trailerWeight = 3 * n := by
  unfold Framed.trailerWeight shortBody
  rw [List.map_replicate, List.sum_replicate_nat]
  exact Nat.mul_comm n 3

theorem length_fields_shortBody (n : Nat) : (shortBody n).fields.length = n := by
  rw [Framed.fields, List.length_map]
  exact List.length_replicate

/-- As many fields as three bytes for each are within the limit are let through. -/
theorem decode_shortBody {d : Decoder} {n : Nat} (hw : d.maxBody < Text.wordSize) (hn : 3 * n ≤ d.maxTrailer) :
    let p := d.start.decode (shortBody n).wire
    p.fault = none ∧ p.decoder.isFinished = true ∧ p.consumed = (shortBody n).wire.length ∧ p.trailers.length = n := by
  intro p
  have hlimit : d.start.trailerBytes + (shortBody n).trailerWeight ≤ d.start.maxTrailer := by
    rw [trailerWeight_shortBody]
    exact (Nat.zero_add _).symm ▸ hn
  obtain ⟨e, he, hr⟩ := runs_framed (d := d.start) (shortBody_follows n) hw (Nat.zero_le _) hlimit
  have hp : p = ran e (shortBody n).wire (shortBody n).data (shortBody n).fields := decode_eq_ran hr
  rw [hp, trailers_ran, length_fields_shortBody]
  exact ⟨rfl, he, rfl, rfl⟩

end Switchboard.Http.Chunk
