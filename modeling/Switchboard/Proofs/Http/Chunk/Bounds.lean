import Switchboard.Proofs.Http.Chunk.Moves
import Switchboard.Proofs.Http.Chunk.Runs

/-!
The limit on a chunked body. A size is taken only if what it announces is left of the limit, so the octets that were
decoded and those that are announced stay within it at every byte (`Runs.inBounds`). The count of octets is that of the
data that has come out.
-/

namespace Switchboard.Http.Chunk

/-- The octets of data that are still announced. -/
def Phase.announced : Phase → Nat
  | .size n => n
  | .extName n _ => n
  | .extValue n _ => n
  | .sizeBlank n => n
  | .lineFeed n => n
  | .data n => n
  | _ => 0

/-- The octets decoded so far and those announced are within the limit; a chunk that has no octets left is over. -/
structure Decoder.InBounds (d : Decoder) : Prop where
  fits : d.total + d.phase.announced ≤ d.maxBody
  unfinished : d.phase ≠ .data 0

theorem Decoder.inBounds_start (d : Decoder) : d.start.InBounds := ⟨Nat.zero_le _, by simp [start, reset]⟩

/-! ## One byte -/

section Step

variable {d d' : Decoder} {b : UInt8} {y : Yield}

/-- Only a digit announces more than was announced before; an octet of data was announced. -/
theorem Moves.announced {p q : Phase} (h : Moves p b q y) (hp : p ≠ .data 0) :
    q ≠ .data 0 ∧ ((∃ n, q = .size n ∧ y = .nothing) ∨ q.announced + y.octets.length ≤ p.announced) := by
  cases h with
  | firstDigit => exact ⟨by simp, Or.inl ⟨_, rfl, rfl⟩⟩
  | digit => exact ⟨by simp, Or.inl ⟨_, rfl, rfl⟩⟩
  | lineData hs => exact ⟨fun h => Nat.ne_of_gt hs (Phase.data.inj h), Or.inr (Nat.le_refl _)⟩
  | @octet b left hl =>
    have hpos : left ≠ 0 := fun h => hp (by rw [h])
    refine ⟨fun h => ?_, Or.inr ?_⟩
    · have := Phase.data.inj h
      omega
    · show left - 1 + 1 ≤ left
      omega
  | _ => exact ⟨by simp, Or.inr (by simp [Phase.announced, Yield.octets])⟩

/-- What an accepted byte does to the counts: it is counted if it is an octet of data, and a digit is taken only if the
size is left of the limit. -/
structure Decoder.Counts (d d' : Decoder) (y : Yield) : Prop where
  total : d'.total = d.total + y.octets.length
  maxBody : d'.maxBody = d.maxBody
  size : ∀ n, d'.phase = .size n → n ≤ d.maxBody - d.total

theorem counts_of_goto {p : Phase} (hp : ∀ n, p ≠ .size n) (h : d.goto p = (d', .ok y)) : d.Counts d' y := by
  obtain ⟨rfl, rfl⟩ := Decoder.eq_of_goto h
  exact ⟨rfl, rfl, fun n hn => absurd hn (hp n)⟩

theorem counts_of_takeDigit {size digit : Nat} (h : d.takeDigit size digit = (d', .ok y)) : d.Counts d' y := by
  obtain ⟨rfl, rfl, -, hle⟩ := Decoder.eq_of_takeDigit h
  exact ⟨rfl, rfl, fun n hn => Phase.size.inj hn ▸ hle⟩

theorem counts_of_afterSize {size : Nat} {r : Decoder.Stepped} (ha : d.afterSize? size b = some r)
    (h : r = (d', .ok y)) : d.Counts d' y := by
  subst h
  simp only [Decoder.afterSize?] at ha
  split_ifs at ha <;> exact counts_of_goto (by simp) (Option.some.inj ha)

theorem counts_of_counted {next : Decoder → Decoder.Stepped} (h : d.counted next = (d', .ok y))
    (hnext : ∀ e : Decoder, next e = (d', .ok y) → e.Counts d' y) : d.Counts d' y := by
  have hcounts := hnext _ (Decoder.of_counted h).2
  exact ⟨hcounts.total, hcounts.maxBody, hcounts.size⟩

theorem counts_of_stepExtValue {size : Nat} {v : ExtValue} (h : d.stepExtValue size v b = (d', .ok y)) :
    d.Counts d' y := by
  cases v <;> simp only [Decoder.stepExtValue] at h <;> try split_ifs at h
  all_goals first | exact counts_of_goto (by simp) h | exact absurd h Decoder.not_unexpected

theorem counts_of_step (h : d.step b = (d', .ok y)) : d.Counts d' y := by
  rcases hp : d.phase with _ | size | ⟨size, begun⟩ | ⟨size, v⟩ | size | size | _ | _ | nameRev |
    ⟨nameRev, valueRev⟩ | left | _ | _ | _ <;> simp only [Decoder.step, hp] at h
  case sizeStart =>
    split at h
    · exact counts_of_takeDigit h
    · exact absurd h Decoder.not_unexpected
  case size =>
    split at h
    · next r hr => exact counts_of_afterSize hr h
    · split at h
      · exact counts_of_takeDigit h
      · exact absurd h Decoder.not_unexpected
  case extName =>
    cases begun <;> simp only at h <;> split_ifs at h
    all_goals first | exact counts_of_goto (by simp) h | exact absurd h Decoder.not_unexpected
  case extValue => exact counts_of_stepExtValue h
  case sizeBlank =>
    rcases hr : d.afterSize? size b with _ | r <;> rw [hr] at h
    · exact absurd h Decoder.not_unexpected
    · exact counts_of_afterSize hr h
  case lineFeed =>
    split at h
    · exact counts_of_goto (by split <;> simp) h
    · exact absurd h Decoder.not_unexpected
  case trailerStart =>
    split_ifs at h
    · exact counts_of_goto (by simp) h
    · exact counts_of_counted h fun e he => counts_of_goto (by simp) he
    · exact absurd h Decoder.not_unexpected
  case trailerName =>
    refine counts_of_counted h fun e he => ?_
    split_ifs at he
    all_goals first | exact counts_of_goto (by simp) he | exact absurd he Decoder.not_unexpected
  case trailerValue =>
    refine counts_of_counted h fun e he => ?_
    split_ifs at he
    · obtain ⟨rfl, hy⟩ := Prod.mk.inj he
      obtain rfl := Except.ok.inj hy
      exact ⟨rfl, rfl, by simp⟩
    · exact counts_of_goto (by simp) he
    · exact absurd he Decoder.not_unexpected
  case data =>
    obtain ⟨rfl, hy⟩ := Prod.mk.inj h
    obtain rfl := Except.ok.inj hy
    refine ⟨rfl, rfl, fun n hn => ?_⟩
    split at hn <;> simp at hn
  case finished =>
    obtain ⟨rfl, hy⟩ := Prod.mk.inj h
    obtain rfl := Except.ok.inj hy
    exact ⟨rfl, rfl, by simp [hp]⟩
  all_goals
    split at h
    · exact counts_of_goto (by simp) h
    · exact absurd h Decoder.not_unexpected

/-- An accepted byte leaves the decoder within the limit. -/
theorem inBounds_of_step (hd : d.InBounds) (hfin : d.isFinished = false) (h : d.step b = (d', .ok y)) :
    d'.InBounds := by
  have hcounts := counts_of_step h
  have hfits := hd.fits
  obtain ⟨hne, ⟨n, hn, rfl⟩ | hle⟩ := (moves_of_step hfin h).announced hd.unfinished
  · have hsize := hcounts.size n hn
    refine ⟨?_, hne⟩
    rw [hcounts.total, hcounts.maxBody, hn]
    show d.total + 0 + n ≤ d.maxBody
    omega
  · refine ⟨?_, hne⟩
    rw [hcounts.total, hcounts.maxBody]
    omega

end Step

/-! ## Runs -/

/-- A run stays within the limit, and the count is that of the data that has come out. -/
theorem Runs.inBounds {d e : Decoder} {w data : Bytes} {fields : List Field} (h : Runs d w e data fields)
    (hd : d.InBounds) : e.InBounds ∧ e.total = d.total + data.length ∧ e.maxBody = d.maxBody := by
  induction h with
  | refl d => exact ⟨hd, rfl, rfl⟩
  | @cons d d' e b w data y fields hfin hs _ ih =>
    have hcounts := counts_of_step hs
    obtain ⟨he, htotal, hmax⟩ := ih (inBounds_of_step hd hfin hs)
    refine ⟨he, ?_, hmax.trans hcounts.maxBody⟩
    rw [htotal, hcounts.total, List.length_append, Nat.add_assoc]

/-- What comes out of an input, and what was decoded before it, is within the limit, whether all of the input was
taken or a byte of it refused. -/
theorem data_le_maxBody {d : Decoder} (hd : d.InBounds) (input : Bytes) :
    d.total + (d.decode input).data.length ≤ d.maxBody := by
  obtain ⟨w, rest, e, data, fields, -, hr, hcases⟩ := decode_cases d input
  obtain ⟨he, htotal, hmax⟩ := hr.inBounds hd
  have hdata : (d.decode input).data = data := by
    rcases hcases with ⟨-, hdec⟩ | ⟨e', f, hdec⟩ <;> rw [hdec]
    · exact data_ran e w data fields
    · exact data_ran e w data fields
  rw [hdata, ← htotal, ← hmax]
  exact Nat.le_trans (Nat.le_add_right _ _) he.fits

/-- A decoder that has refused nothing is within the limit, and its count is that of the data that has come out. -/
theorem inBounds_decode {d : Decoder} (hd : d.InBounds) {input : Bytes} (hf : (d.decode input).fault = none) :
    (d.decode input).decoder.InBounds ∧
      (d.decode input).decoder.total = d.total + (d.decode input).data.length ∧
      (d.decode input).decoder.maxBody = d.maxBody := by
  obtain ⟨-, hr, -⟩ := runs_of_decode (result_of_fault hf)
  exact hr.inBounds hd

end Switchboard.Http.Chunk
