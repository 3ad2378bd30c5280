import Mathlib.Tactic.SplitIfs
import Switchboard.Http.Chunk.Decoder
import Switchboard.Proofs.Http.Chunk.Grammar
import Switchboard.Proofs.Text.Ascii

/-!
What one byte can do to the decoder of the chunked coding. `Moves` is the table of its transitions, with the
limits left out; `moves_of_step` says that a step that refuses nothing is one of them. All that holds of every
accepted byte is shown from the table, case by case.
-/

namespace Switchboard.Http.Chunk

/-- The transitions of the decoder, and what each completes. -/
inductive Moves : Phase → UInt8 → Phase → Yield → Prop where
  | firstDigit {b : UInt8} {n : Nat} (hb : Text.hexValue? b = some n) :
      Moves .sizeStart b (.size n) .nothing
  | digit {b : UInt8} {n : Nat} (size : Nat) (hb : Text.hexValue? b = some n) :
      Moves (.size size) b (.size (size * 16 + n)) .nothing
  | sizeExtension (size : Nat) : Moves (.size size) 59 (.extName size false) .nothing
  | sizeBlank {b : UInt8} (size : Nat) (hb : b = 32 ∨ b = 9) :
      Moves (.size size) b (.sizeBlank size) .nothing
  | sizeReturn (size : Nat) : Moves (.size size) 13 (.lineFeed size) .nothing
  | blankExtension (size : Nat) : Moves (.sizeBlank size) 59 (.extName size false) .nothing
  | blank {b : UInt8} (size : Nat) (hb : b = 32 ∨ b = 9) :
      Moves (.sizeBlank size) b (.sizeBlank size) .nothing
  | blankReturn (size : Nat) : Moves (.sizeBlank size) 13 (.lineFeed size) .nothing
  | nameBlank {b : UInt8} (size : Nat) (hb : b = 32 ∨ b = 9) :
      Moves (.extName size false) b (.extName size false) .nothing
  | name {b : UInt8} (size : Nat) (begun : Bool) (hb : Text.isTokenByte b = true) :
      Moves (.extName size begun) b (.extName size true) .nothing
  | nameValue (size : Nat) : Moves (.extName size true) 61 (.extValue size .start) .nothing
  | nameExtension (size : Nat) : Moves (.extName size true) 59 (.extName size false) .nothing
  | nameReturn (size : Nat) : Moves (.extName size true) 13 (.lineFeed size) .nothing
  | openQuote (size : Nat) : Moves (.extValue size .start) 34 (.extValue size .quoted) .nothing
  | value {b : UInt8} (size : Nat) (v : ExtValue) (hv : v = .start ∨ v = .inside)
      (hb : Text.isTokenByte b = true) :
      Moves (.extValue size v) b (.extValue size .inside) .nothing
  | valueExtension (size : Nat) :
      Moves (.extValue size .inside) 59 (.extName size false) .nothing
  | valueReturn (size : Nat) : Moves (.extValue size .inside) 13 (.lineFeed size) .nothing
  | escape (size : Nat) : Moves (.extValue size .quoted) 92 (.extValue size .escaped) .nothing
  | closeQuote (size : Nat) : Moves (.extValue size .quoted) 34 (.extValue size .inside) .nothing
  | quoted {b : UInt8} (size : Nat) (hb : IsQuotable b) :
      Moves (.extValue size .quoted) b (.extValue size .quoted) .nothing
  | escaped (b : UInt8) (size : Nat) :
      Moves (.extValue size .escaped) b (.extValue size .quoted) .nothing
  | lineData {size : Nat} (hs : 0 < size) : Moves (.lineFeed size) 10 (.data size) .nothing
  | lineLast : Moves (.lineFeed 0) 10 .trailerStart .nothing
  | lastReturn : Moves .trailerStart 13 .lastLineFeed .nothing
  | trailer {b : UInt8} (hb : Text.isTokenByte b = true) :
      Moves .trailerStart b (.trailerName [b]) .nothing
  | trailerName {b : UInt8} (nameRev : Bytes) (hb : Text.isTokenByte b = true) :
      Moves (.trailerName nameRev) b (.trailerName (b :: nameRev)) .nothing
  | trailerColon (nameRev : Bytes) :
      Moves (.trailerName nameRev) 58 (.trailerValue nameRev []) .nothing
  | trailerValue {b : UInt8} (nameRev valueRev : Bytes) (hb : IsTextByte b) :
      Moves (.trailerValue nameRev valueRev) b (.trailerValue nameRev (b :: valueRev)) .nothing
  | trailerReturn (nameRev valueRev : Bytes) :
      Moves (.trailerValue nameRev valueRev) 13 (.lineFeed 0)
        (.field (Decoder.trailerField nameRev valueRev))
  | octet (b : UInt8) {left : Nat} (hl : left ≠ 1) :
      Moves (.data left) b (.data (left - 1)) (.octet b)
  | lastOctet (b : UInt8) : Moves (.data 1) b .dataReturn (.octet b)
  | dataReturn : Moves .dataReturn 13 .dataLineFeed .nothing
  | dataLineFeed : Moves .dataLineFeed 10 .sizeStart .nothing
  | lastLineFeed : Moves .lastLineFeed 10 .finished .nothing

theorem isTextByte_iff {b : UInt8} : Decoder.isTextByte b = true ↔ IsTextByte b := by
  simp [Decoder.isTextByte, IsTextByte, or_assoc]

/-- The field that the decoder makes of a trailer line is that of the line. -/
theorem field_of_token {name : Bytes} (h : ∀ b ∈ name, Text.isTokenByte b = true) (value : Bytes) :
    Decoder.trailerField name.reverse value.reverse = TrailerLine.field ⟨name, value⟩ := by
  have hn : ∀ b ∈ name, b < 0x80 := fun b hb => Text.isTokenByte_lt (h b hb)
  have hl : Text.lossy name = String.ofList (name.map fun b => Char.ofNat b.toNat) := by
    rw [Text.lossy, Text.lossyFrom_of_ascii hn]
  simp only [Decoder.trailerField, TrailerLine.field, List.reverse_reverse]
  rw [hl]

namespace Decoder

theorem eq_of_goto {d d' : Decoder} {p : Phase} {y : Yield} (h : d.goto p = (d', .ok y)) :
    d' = { d with phase := p } ∧ y = .nothing := by
  simp only [goto, Prod.mk.injEq, Except.ok.injEq] at h
  exact ⟨h.1.symm, h.2.symm⟩

theorem not_refuse {d d' : Decoder} {f : Fault} {y : Yield} : d.refuse f ≠ (d', .ok y) := by
  simp [refuse]

theorem not_unexpected {d d' : Decoder} {b : UInt8} {y : Yield} :
    d.unexpected b ≠ (d', .ok y) := not_refuse

/-- A byte that was counted is within the limit, and the rest of the step saw the new count. -/
theorem of_counted {d d' : Decoder} {next : Decoder → Stepped} {y : Yield}
    (h : d.counted next = (d', .ok y)) :
    d.trailerBytes + 1 ≤ d.maxTrailer ∧
      next { d with trailerBytes := d.trailerBytes + 1 } = (d', .ok y) := by
  simp only [counted] at h
  split at h
  · exact absurd h not_refuse
  · next hle => exact ⟨Nat.le_of_not_gt hle, h⟩

theorem eq_of_takeDigit {d d' : Decoder} {size digit : Nat} {y : Yield}
    (h : d.takeDigit size digit = (d', .ok y)) :
    d' = { d with phase := .size (size * 16 + digit) } ∧ y = .nothing ∧
      size * 16 + digit < Text.wordSize ∧ size * 16 + digit ≤ d.maxBody - d.total := by
  simp only [takeDigit, grow] at h
  split at h
  · next n hn =>
    split at hn
    · cases hn
    split at hn
    · cases hn
    · next h1 h2 =>
      cases hn
      obtain ⟨rfl, rfl⟩ := eq_of_goto h
      exact ⟨rfl, rfl, by omega, by omega⟩
  · exact absurd h not_refuse

end Decoder

section Step

variable {d d' : Decoder} {b : UInt8} {y : Yield}

theorem moves_of_goto {p q : Phase} (hm : Moves p b q .nothing) (h : d.goto q = (d', .ok y)) :
    Moves p b d'.phase y := by
  obtain ⟨rfl, rfl⟩ := Decoder.eq_of_goto h
  exact hm

theorem moves_of_afterSize {size : Nat} {r : Decoder.Stepped} {p : Phase}
    (hext : Moves p 59 (.extName size false) .nothing)
    (hblank : b = 32 ∨ b = 9 → Moves p b (.sizeBlank size) .nothing)
    (hret : Moves p 13 (.lineFeed size) .nothing) (ha : d.afterSize? size b = some r)
    (h : r = (d', .ok y)) : Moves p b d'.phase y := by
  subst h
  simp only [Decoder.afterSize?] at ha
  split_ifs at ha with h1 h2 h3
  · exact moves_of_goto (h1 ▸ hext) (Option.some.inj ha)
  · exact moves_of_goto (hblank h2) (Option.some.inj ha)
  · exact moves_of_goto (h3 ▸ hret) (Option.some.inj ha)

theorem moves_of_stepExtValue {size : Nat} {v : ExtValue}
    (h : d.stepExtValue size v b = (d', .ok y)) : Moves (.extValue size v) b d'.phase y := by
  cases v with
  | start =>
    simp only [Decoder.stepExtValue] at h
    split_ifs at h with h1 h2
    · exact moves_of_goto (h1 ▸ .openQuote size) h
    · exact moves_of_goto (.value size .start (Or.inl rfl) h2) h
    · exact absurd h Decoder.not_unexpected
  | inside =>
    simp only [Decoder.stepExtValue] at h
    split_ifs at h with h1 h2 h3
    · exact moves_of_goto (.value size .inside (Or.inr rfl) h1) h
    · exact moves_of_goto (h2 ▸ .valueExtension size) h
    · exact moves_of_goto (h3 ▸ .valueReturn size) h
    · exact absurd h Decoder.not_unexpected
  | quoted =>
    simp only [Decoder.stepExtValue] at h
    split_ifs at h with h1 h2 h3
    · exact moves_of_goto (h1 ▸ .escape size) h
    · exact moves_of_goto (h2 ▸ .closeQuote size) h
    · exact moves_of_goto (.quoted size ⟨isTextByte_iff.1 h3, h2, h1⟩) h
    · exact absurd h Decoder.not_unexpected
  | escaped =>
    obtain ⟨rfl, rfl⟩ := Decoder.eq_of_goto h
    exact .escaped b size

/-- A step that refuses nothing is a transition of the table. -/
theorem moves_of_step (hd : d.isFinished = false) (h : d.step b = (d', .ok y)) :
    Moves d.phase b d'.phase y := by
  rcases hp : d.phase with _ | size | ⟨size, begun⟩ | ⟨size, v⟩ | size | size | _ | _ | nameRev |
    ⟨nameRev, valueRev⟩ | left | _ | _ | _ <;> simp only [Decoder.step, hp] at h
  case sizeStart =>
    split at h
    · next n hn =>
      obtain ⟨rfl, rfl, -, -⟩ := Decoder.eq_of_takeDigit h
      rw [Nat.zero_mul, Nat.zero_add]
      exact .firstDigit hn
    · exact absurd h Decoder.not_unexpected
  case size =>
    split at h
    · next r hr =>
      exact moves_of_afterSize (.sizeExtension size) (.sizeBlank size) (.sizeReturn size) hr h
    · split at h
      · next n hn =>
        obtain ⟨rfl, rfl, -, -⟩ := Decoder.eq_of_takeDigit h
        exact .digit size hn
      · exact absurd h Decoder.not_unexpected
  case extName =>
    cases begun with
    | false =>
      simp only at h
      split_ifs at h with h1 h2
      · exact moves_of_goto (.nameBlank size h1) h
      · exact moves_of_goto (.name size false h2) h
      · exact absurd h Decoder.not_unexpected
    | true =>
      simp only at h
      split_ifs at h with h1 h2 h3 h4
      · exact moves_of_goto (.name size true h1) h
      · exact moves_of_goto (h2 ▸ .nameValue size) h
      · exact moves_of_goto (h3 ▸ .nameExtension size) h
      · exact moves_of_goto (h4 ▸ .nameReturn size) h
      · exact absurd h Decoder.not_unexpected
  case extValue => exact moves_of_stepExtValue h
  case sizeBlank =>
    rcases hr : d.afterSize? size b with _ | r <;> rw [hr] at h
    · exact absurd h Decoder.not_unexpected
    · exact moves_of_afterSize (.blankExtension size) (.blank size) (.blankReturn size) hr h
  case lineFeed =>
    split at h
    · next hb =>
      subst hb
      obtain ⟨rfl, rfl⟩ := Decoder.eq_of_goto h
      by_cases hs : 0 < size
      · simp only [gt_iff_lt, hs, if_true]
        exact .lineData hs
      · obtain rfl : size = 0 := by omega
        exact .lineLast
    · exact absurd h Decoder.not_unexpected
  case trailerStart =>
    split_ifs at h with h1 h2
    · exact moves_of_goto (h1 ▸ .lastReturn) h
    · exact moves_of_goto (.trailer h2) (Decoder.of_counted h).2
    · exact absurd h Decoder.not_unexpected
  case lastLineFeed =>
    split at h
    · next hb => exact moves_of_goto (hb ▸ .lastLineFeed) h
    · exact absurd h Decoder.not_unexpected
  case trailerName =>
    have h := (Decoder.of_counted h).2
    split_ifs at h with h1 h2
    · exact moves_of_goto (.trailerName nameRev h1) h
    · exact moves_of_goto (h2 ▸ .trailerColon nameRev) h
    · exact absurd h Decoder.not_unexpected
  case trailerValue =>
    have h := (Decoder.of_counted h).2
    split_ifs at h with h1 h2
    · simp only [Prod.mk.injEq, Except.ok.injEq] at h
      obtain ⟨rfl, rfl⟩ := h
      exact h1 ▸ .trailerReturn nameRev valueRev
    · exact moves_of_goto (.trailerValue nameRev valueRev (isTextByte_iff.1 h2)) h
    · exact absurd h Decoder.not_unexpected
  case data =>
    simp only [Prod.mk.injEq, Except.ok.injEq] at h
    obtain ⟨rfl, rfl⟩ := h
    by_cases hl : left = 1
    · subst hl
      exact .lastOctet b
    · simp only [hl, if_false]
      exact .octet b hl
  case dataReturn =>
    split at h
    · next hb => exact moves_of_goto (hb ▸ .dataReturn) h
    · exact absurd h Decoder.not_unexpected
  case dataLineFeed =>
    split at h
    · next hb => exact moves_of_goto (hb ▸ .dataLineFeed) h
    · exact absurd h Decoder.not_unexpected
  case finished => simp [Decoder.isFinished, hp] at hd

end Step

end Switchboard.Http.Chunk
