import Switchboard.Proofs.Http.Chunk.Bounds
import Switchboard.Proofs.Http.Chunk.Completeness
import Switchboard.Proofs.Http.Chunk.Machine

/-!
The limits of a machine in use. A machine is started, reset and fed in any order, and fed on after a byte was refused.
A refused byte leaves the decoder that it stands for where it is, but for the count of trailer bytes (`eq_of_refused`),
so what each accepted byte keeps within the limits (`Decoder.Within`) is within them after every call
(`calls_within_limits`): the data, the names and values of the trailer fields as they were sent, and the size that a
chunk may announce. The registers are sound all the while.
-/

namespace Switchboard.Http.Chunk

/-! ## Trailer lines -/

/-- The bytes of the name and of the value. -/
def TrailerLine.size (l : TrailerLine) : Nat := l.name.length + l.value.length

/-- The trailer line that is being read, as far as it has come. -/
def Phase.line : Phase → TrailerLine
  | .trailerName nameRev => ⟨nameRev.reverse, []⟩
  | .trailerValue nameRev valueRev => ⟨nameRev.reverse, valueRev.reverse⟩
  | _ => ⟨[], []⟩

/-- The trailer line that a byte completes. -/
def Phase.completed (p : Phase) : Yield → List TrailerLine
  | .field _ => [p.line]
  | _ => []

/-- The trailer lines that an input completes, as they were sent. -/
def Decoder.lines (d : Decoder) : Bytes → List TrailerLine
  | [] => []
  | b :: rest =>
    if d.isFinished then []
    else match d.step b with
      | (e, .ok y) => d.phase.completed y ++ e.lines rest
      | (_, .error _) => []

/-- The bytes of the names and the values of some trailer lines. -/
def sizes (ls : List TrailerLine) : Nat := (ls.map TrailerLine.size).sum

theorem sizes_append (ls ms : List TrailerLine) : sizes (ls ++ ms) = sizes ls + sizes ms := by
  rw [sizes, List.map_append, List.sum_append]
  rfl

/-! ## One byte -/

section Step

variable {d e : Decoder} {b : UInt8} {y : Yield} {f : Fault} {sent : Nat}

theorem eq_of_afterSize? {size : Nat} {r : Decoder.Stepped} (h : d.afterSize? size b = some r) :
    r.1.trailerBytes = d.trailerBytes ∧ r.2 = .ok .nothing := by
  simp only [Decoder.afterSize?] at h
  split_ifs at h <;> obtain rfl := Option.some.inj h <;> exact ⟨rfl, rfl⟩

/-- A byte is taken, or it leaves the decoder where it stands, but for the count of trailer bytes. -/
theorem taken_or_stands (d : Decoder) (b : UInt8) :
    (∃ y, (d.step b).2 = .ok y) ∨ (d.step b).1 = { d with trailerBytes := (d.step b).1.trailerBytes } := by
  simp only [Decoder.step, Decoder.counted, Decoder.takeDigit, Decoder.stepExtValue, Option.getD]
  repeat' split
  all_goals first
    | exact Or.inr rfl
    | exact Or.inl ⟨_, rfl⟩
    | exact Or.inl ⟨_, (eq_of_afterSize? ‹_›).2⟩

theorem eq_of_refused (h : d.step b = (e, .error f)) : e = { d with trailerBytes := e.trailerBytes } := by
  have hcases := taken_or_stands d b
  rw [h] at hcases
  exact hcases.resolve_left fun ⟨_, hy⟩ => absurd hy (by simp)

/-- No byte takes back what was counted. -/
theorem trailerBytes_le_of_step {r : Except Fault Yield} (h : d.step b = (e, r)) :
    d.trailerBytes ≤ e.trailerBytes := by
  have hle : d.trailerBytes ≤ (d.step b).1.trailerBytes := by
    simp only [Decoder.step, Decoder.counted, Decoder.takeDigit, Decoder.stepExtValue, Option.getD]
    repeat' split
    all_goals first
      | exact Nat.le_refl _
      | exact Nat.le_succ _
      | exact Nat.le_of_eq (eq_of_afterSize? ‹_›).1.symm
  rw [h] at hle
  exact hle

/-- A byte that counts against the limit on trailers. -/
def Phase.Counts (p : Phase) (b : UInt8) : Prop :=
  p = .trailerStart ∧ b ≠ 13 ∨ (∃ nameRev, p = .trailerName nameRev) ∨
    ∃ nameRev valueRev, p = .trailerValue nameRev valueRev

/-- A byte that counts is taken only within the limit. -/
theorem counted_of_step (hp : d.phase.Counts b) (h : d.step b = (e, .ok y)) :
    d.trailerBytes + 1 ≤ d.maxTrailer ∧ e.trailerBytes = d.trailerBytes + 1 := by
  rcases hp with ⟨hp, hb⟩ | ⟨nameRev, hp⟩ | ⟨nameRev, valueRev, hp⟩ <;> simp only [Decoder.step, hp] at h
  · rw [if_neg hb] at h
    split at h
    · obtain ⟨hle, h⟩ := Decoder.of_counted h
      obtain ⟨rfl, -⟩ := Decoder.eq_of_goto h
      exact ⟨hle, rfl⟩
    · exact absurd h Decoder.not_unexpected
  · obtain ⟨hle, h⟩ := Decoder.of_counted h
    split_ifs at h
    · obtain ⟨rfl, -⟩ := Decoder.eq_of_goto h
      exact ⟨hle, rfl⟩
    · obtain ⟨rfl, -⟩ := Decoder.eq_of_goto h
      exact ⟨hle, rfl⟩
    · exact absurd h Decoder.not_unexpected
  · obtain ⟨hle, h⟩ := Decoder.of_counted h
    split_ifs at h
    · obtain ⟨rfl, -⟩ := Prod.mk.inj h
      exact ⟨hle, rfl⟩
    · obtain ⟨rfl, -⟩ := Decoder.eq_of_goto h
      exact ⟨hle, rfl⟩
    · exact absurd h Decoder.not_unexpected

/-- So many bytes are counted, and within the limit on trailers. -/
structure Decoder.Affords (d : Decoder) (n : Nat) : Prop where
  counted : n ≤ d.trailerBytes
  within : n ≤ d.maxTrailer

/-- A byte that is taken makes room for one more if it counts. -/
theorem Decoder.Affords.taken {m n : Nat} (h : d.Affords m) (hs : d.step b = (e, .ok y))
    (hn : n ≤ m ∨ d.phase.Counts b ∧ n ≤ m + 1) : e.Affords n := by
  have hmax := (limits_of_step hs).2
  have hle := trailerBytes_le_of_step hs
  obtain ⟨hcounted, hwithin⟩ := h
  rcases hn with hn | ⟨hcounts, hn⟩
  · constructor <;> omega
  · obtain ⟨hfits, hbytes⟩ := counted_of_step hcounts hs
    constructor <;> omega

/-- A byte makes the trailer line longer only if it counts; a line that it completes comes out as its field. -/
theorem Moves.line {p q : Phase} (h : Moves p b q y) (hp : ∀ x ∈ p.line.name, Text.isTokenByte x = true) :
    (∀ x ∈ q.line.name, Text.isTokenByte x = true) ∧
      y.fields = (p.completed y).map TrailerLine.field ∧
      (q.line.size + sizes (p.completed y) ≤ p.line.size ∨
        p.Counts b ∧ q.line.size = p.line.size + 1 ∧ p.completed y = []) := by
  cases h with
  | trailer hb =>
    have h13 : b ≠ 13 := by
      rintro rfl
      exact absurd hb (by decide)
    exact ⟨by simpa [Phase.line] using hb, rfl, Or.inr ⟨Or.inl ⟨rfl, h13⟩, rfl, rfl⟩⟩
  | trailerName nameRev hb =>
    refine ⟨?_, rfl, Or.inr ⟨Or.inr (Or.inl ⟨nameRev, rfl⟩), ?_, rfl⟩⟩
    · intro x hx
      rcases List.mem_cons.1 (List.mem_reverse.1 hx) with rfl | hx
      · exact hb
      · exact hp x (List.mem_reverse.2 hx)
    · simp [Phase.line, TrailerLine.size]
  | trailerColon nameRev => exact ⟨hp, rfl, Or.inl (Nat.le_refl _)⟩
  | trailerValue nameRev valueRev hb =>
    refine ⟨hp, rfl, Or.inr ⟨Or.inr (Or.inr ⟨nameRev, valueRev, rfl⟩), ?_, rfl⟩⟩
    simp [Phase.line, TrailerLine.size, Nat.add_assoc]
  | trailerReturn nameRev valueRev =>
    have hfield := field_of_token hp valueRev.reverse
    rw [List.reverse_reverse] at hfield
    refine ⟨by simp [Phase.line], ?_, Or.inl ?_⟩
    · simpa [Yield.fields, Phase.completed, Phase.line] using hfield
    · simp [Phase.completed, Phase.line, sizes, TrailerLine.size]
  | _ => exact ⟨by simp [Phase.line], rfl, Or.inl (Nat.zero_le _)⟩

/-- A decoder within its limits, `sent` bytes of names and values of trailer fields having come out of it. What is read
of the next trailer line is counted and within the limit, and its name is of characters of a token. -/
structure Decoder.Within (d : Decoder) (sent : Nat) : Prop where
  body : d.InBounds
  counted : sent + d.phase.line.size ≤ d.trailerBytes
  trailers : sent + d.phase.line.size ≤ d.maxTrailer
  name : ∀ x ∈ d.phase.line.name, Text.isTokenByte x = true

theorem within_of_phase {p : Phase} (hb : d.InBounds) (hd : d.phase = p) (hp : p.line = ⟨[], []⟩)
    (hcounted : sent ≤ d.trailerBytes) (htrailers : sent ≤ d.maxTrailer) : d.Within sent := by
  refine ⟨hb, ?_, ?_, ?_⟩ <;> rw [hd, hp]
  · exact hcounted
  · exact htrailers
  · simp

theorem Decoder.Within.taken (h : d.Within sent) (hfin : d.isFinished = false) (hs : d.step b = (e, .ok y)) :
    e.Within (sent + sizes (d.phase.completed y)) := by
  have haffords : d.Affords (sent + d.phase.line.size) := ⟨h.counted, h.trailers⟩
  obtain ⟨hname, -, hsize⟩ := (moves_of_step hfin hs).line h.name
  have hnext : e.Affords (sent + sizes (d.phase.completed y) + e.phase.line.size) := by
    apply haffords.taken hs
    rcases hsize with hsize | ⟨hcounts, hsize, hnone⟩
    · exact Or.inl (by omega)
    · have hzero : sizes (d.phase.completed y) = 0 := by rw [hnone]; rfl
      exact Or.inr ⟨hcounts, by omega⟩
  exact ⟨inBounds_of_step h.body hfin hs, hnext.counted, hnext.within, hname⟩

theorem Decoder.Within.refused (h : d.Within sent) (hs : d.step b = (e, .error f)) : e.Within sent := by
  have hle := Nat.le_trans h.counted (trailerBytes_le_of_step hs)
  rw [eq_of_refused hs]
  exact ⟨⟨h.body.fits, h.body.unfinished⟩, hle, h.trailers, h.name⟩

end Step

/-! ## Inputs -/

/-- Whatever an input is, the decoder is within its limits after it, its count is that of the data that has come out, and
the fields that have come out are those of the lines that were completed. -/
theorem Decoder.Within.decode {d : Decoder} {sent : Nat} (h : d.Within sent) (input : Bytes) :
    (d.decode input).decoder.Within (sent + sizes (d.lines input)) ∧
      (d.decode input).decoder.total = d.total + (d.decode input).data.length ∧
      (d.decode input).trailers = (d.lines input).map TrailerLine.field := by
  induction input generalizing d sent with
  | nil => exact ⟨h, rfl, rfl⟩
  | cons b rest ih =>
    by_cases hd : d.isFinished = true
    · rw [decode_of_finished hd, Decoder.lines, if_pos hd]
      exact ⟨h, rfl, rfl⟩
    have hfin : d.isFinished = false := by simpa using hd
    rw [Decoder.lines, if_neg hd]
    rcases hs : d.step b with ⟨e, f | y⟩
    · rw [decode_of_refused hfin hs]
      exact ⟨h.refused hs, by rw [eq_of_refused hs]; rfl, rfl⟩
    · obtain ⟨hwithin, htotal, hfields⟩ := ih (h.taken hfin hs)
      have hmoves := (moves_of_step hfin hs).line h.name
      rw [decode_cons_of_step hfin hs]
      refine ⟨?_, ?_, ?_⟩
      · show (e.decode rest).decoder.Within _
        rw [sizes_append, ← Nat.add_assoc]
        exact hwithin
      · show (e.decode rest).decoder.total = _
        rw [htotal, Progress.data_before, data_ran, List.length_append, (counts_of_step hs).total, Nat.add_assoc]
      · rw [Progress.trailers_before, trailers_ran, hfields, hmoves.2.1, List.map_append]

/-! ## Sizes -/

/-- The number that the digits of a size denote so far, where another digit may come. -/
def Phase.sizeSoFar? : Phase → Option Nat
  | .sizeStart => some 0
  | .size n => some n
  | _ => none

section Sizes

variable {d : Decoder} {sofar size : Nat} {digits : Bytes}

/-- A size that is within what is left of the limit is taken. -/
theorem decode_size (hp : d.phase.sizeSoFar? = some sofar) (hne : digits ≠ [])
    (h : readHex? sofar digits = some size) (hw : d.maxBody < Text.wordSize) (hl : size ≤ d.maxBody - d.total) :
    d.decode digits = ran { d with phase := .size size } digits [] [] := by
  apply decode_eq_ran
  rcases d with ⟨phase, armed, total, trailerBytes, maxBody, maxTrailer⟩
  cases phase with
  | sizeStart =>
    obtain rfl := Option.some.inj hp
    exact runs_size ⟨hne, h⟩ (by omega) hl
  | size n =>
    obtain rfl := Option.some.inj hp
    exact runs_digits h (by omega) hl
  | _ => exact absurd hp (by simp [Phase.sizeSoFar?])

theorem takeDigit_of_gt {k : Nat} (h : d.maxBody - d.total < sofar * 16 + k) :
    ∃ f, d.takeDigit sofar k = (d, .error f) ∧ (f = .chunkSizeOverflow ∨ f = .bodyTooLarge d.maxBody) := by
  unfold Decoder.takeDigit Decoder.grow
  by_cases hover : sofar * 16 + k ≥ Text.wordSize
  · simp only [if_pos hover]
    exact ⟨_, rfl, Or.inl rfl⟩
  · simp only [if_neg hover, if_pos h]
    exact ⟨_, rfl, Or.inr rfl⟩

theorem step_digit {b : UInt8} {k : Nat} (hp : d.phase.sizeSoFar? = some sofar) (hk : Text.hexValue? b = some k) :
    d.isFinished = false ∧ d.step b = d.takeDigit sofar k := by
  rcases d with ⟨phase, armed, total, trailerBytes, maxBody, maxTrailer⟩
  cases phase with
  | sizeStart =>
    obtain rfl := Option.some.inj hp
    refine ⟨rfl, ?_⟩
    simp only [Decoder.step, hk]
  | size n =>
    obtain rfl := Option.some.inj hp
    refine ⟨rfl, ?_⟩
    simp only [Decoder.step, afterSize?_of_hex n hk, hk]
  | _ => exact absurd hp (by simp [Phase.sizeSoFar?])

/-- A size beyond what is left of the limit is refused, at the digit that takes it there. -/
theorem decode_size_refused (hp : d.phase.sizeSoFar? = some sofar) (hne : digits ≠ [])
    (h : readHex? sofar digits = some size) (hw : d.maxBody < Text.wordSize) (hl : d.maxBody - d.total < size) :
    ∃ f, (d.decode digits).fault = some f ∧ (f = .chunkSizeOverflow ∨ f = .bodyTooLarge d.maxBody) := by
  induction digits generalizing d sofar with
  | nil => exact absurd rfl hne
  | cons b rest ih =>
    rw [readHex?] at h
    split at h
    · next k hk =>
      obtain ⟨hfin, hstep⟩ := step_digit hp hk
      by_cases hle : sofar * 16 + k ≤ d.maxBody - d.total
      · rw [takeDigit_of_le (by omega) hle] at hstep
        have hrest : rest ≠ [] := by
          rintro rfl
          rw [readHex?, Option.some.injEq] at h
          omega
        rw [decode_cons_of_step hfin hstep]
        exact ih (d := { d with phase := .size (sofar * 16 + k) }) rfl hrest h hw hl
      · obtain ⟨f, hf, hkind⟩ := takeDigit_of_gt (Nat.lt_of_not_le hle)
        rw [decode_of_refused hfin (hstep.trans hf)]
        exact ⟨f, rfl, hkind⟩
    · exact absurd h (by simp)

end Sizes

/-! ## Calls -/

/-- A call on a machine. -/
inductive Call where
  | start
  | reset
  | decode (input : Bytes)

/-- A machine in use, with what has come out of it since it was last started or reset. -/
structure Usage where
  machine : Machine
  data : Bytes := []
  /-- The trailer lines as they were sent. -/
  lines : List TrailerLine := []
  fields : List Field := []

namespace Usage

/-- A call, and what comes out of it. A refused byte ends the call, and not the use. -/
def after (u : Usage) : Call → Usage
  | .start => { machine := u.machine.start }
  | .reset => { machine := u.machine.reset }
  | .decode input =>
    let r := u.machine.decode input
    { machine := r.machine
      data := u.data ++ r.data.toList
      lines := u.lines ++ u.machine.view.lines input
      fields := u.fields ++ r.fields.toList }

/-- What every call keeps. -/
structure Kept (maxBody maxTrailer : Nat) (u : Usage) : Prop where
  sound : u.machine.Sound
  maxBody : u.machine.maxBody = maxBody
  maxTrailer : u.machine.maxTrailer = maxTrailer
  within : u.machine.view.Within (sizes u.lines)
  total : u.machine.total = u.data.length
  fields : u.fields = u.lines.map TrailerLine.field

variable {maxBody maxTrailer : Nat} {u : Usage}

theorem kept_of_sizeStart {m : Machine} (hm : m.Sound) (hp : m.view.phase = .sizeStart) (ht : m.total = 0) :
    Kept m.maxBody m.maxTrailer { machine := m } where
  sound := hm
  maxBody := rfl
  maxTrailer := rfl
  within := by
    have htotal : m.view.total = 0 := ht
    exact within_of_phase ⟨by simp [hp, htotal, Phase.announced], by simp [hp]⟩ hp rfl (Nat.zero_le _) (Nat.zero_le _)
  total := ht
  fields := rfl

theorem Kept.after (h : u.Kept maxBody maxTrailer) (c : Call) : (u.after c).Kept maxBody maxTrailer := by
  obtain ⟨hsound, rfl, rfl, hwithin, htotal, hfields⟩ := h
  cases c with
  | start => exact kept_of_sizeStart u.machine.sound_start rfl rfl
  | reset => exact kept_of_sizeStart u.machine.sound_reset rfl rfl
  | decode input =>
    have hagrees := Machine.decode_view hsound input
    obtain ⟨hbody, htrailer⟩ := limits_decode u.machine.view input
    obtain ⟨hwithin', htotal', hfields'⟩ := hwithin.decode input
    rw [← hagrees.decoder] at hbody htrailer hwithin' htotal'
    refine ⟨hagrees.sound, hbody, htrailer, ?_, ?_, ?_⟩
    · show (u.machine.decode input).machine.view.Within (sizes (u.lines ++ _))
      rw [sizes_append]
      exact hwithin'
    · show (u.machine.decode input).machine.view.total = (u.data ++ _).length
      rw [htotal', List.length_append, ← htotal, hagrees.data]
      rfl
    · show u.fields ++ _ = List.map _ (u.lines ++ _)
      rw [hagrees.fields, hfields', hfields, List.map_append]

theorem Kept.foldl (h : u.Kept maxBody maxTrailer) (calls : List Call) :
    (calls.foldl Usage.after u).Kept maxBody maxTrailer := by
  induction calls generalizing u with
  | nil => exact h
  | cons c calls ih => exact ih (h.after c)

/-- The limits on the data, on the trailer fields and on the size of a chunk hold. -/
structure InLimits (maxBody maxTrailer : Nat) (u : Usage) : Prop where
  total : u.machine.total = u.data.length
  body : u.data.length ≤ maxBody
  chunk : u.machine.state = .data → 0 < u.machine.chunkLeft ∧ u.data.length + u.machine.chunkLeft ≤ maxBody
  /-- The fields are those of the lines, of which the limit is on the names and values. -/
  fields : u.fields = u.lines.map TrailerLine.field
  trailers : sizes u.lines ≤ maxTrailer
  finished : u.machine.finished = true ↔ u.machine.state = .finished
  /-- Digits are taken for the number that they denote, if so much is left of the limit. -/
  size : ∀ sofar digits n, u.machine.phase.sizeSoFar? = some sofar → digits ≠ [] →
    readHex? sofar digits = some n → n ≤ maxBody - u.data.length →
      (u.machine.decode digits).result = .ok digits.length ∧ (u.machine.decode digits).machine.state = .size ∧
        (u.machine.decode digits).machine.chunkSize = n
  /-- Digits that denote more are refused. -/
  excess : ∀ sofar digits n, u.machine.phase.sizeSoFar? = some sofar → digits ≠ [] →
    readHex? sofar digits = some n → maxBody - u.data.length < n →
      ∃ f, (u.machine.decode digits).result = .error f ∧ (f = .chunkSizeOverflow ∨ f = .bodyTooLarge maxBody)

theorem Kept.inLimits (h : u.Kept maxBody maxTrailer) (hw : maxBody < Text.wordSize) :
    u.InLimits maxBody maxTrailer := by
  obtain ⟨hsound, rfl, rfl, hwithin, htotal, hfields⟩ := h
  have hfits : u.machine.total + u.machine.phase.announced ≤ u.machine.maxBody := hwithin.body.fits
  have htrailers : sizes u.lines + _ ≤ u.machine.maxTrailer := hwithin.trailers
  rw [htotal] at hfits
  have hleft : u.machine.view.maxBody - u.machine.view.total = u.machine.maxBody - u.data.length := by
    rw [← htotal]
    rfl
  refine ⟨htotal, by omega, fun hs => ?_, hfields, by omega, hsound.finished, ?_, ?_⟩
  · have hphase : u.machine.phase = .data u.machine.chunkLeft := by simp only [Machine.phase, hs]
    rw [hphase] at hfits
    exact ⟨hsound.missing hs, hfits⟩
  · intro sofar digits n hp hne hread hle
    have hagrees := Machine.decode_view hsound digits
    have hran := decode_size hp hne hread hw (hleft ▸ hle)
    rw [hran] at hagrees
    have hphase : (u.machine.decode digits).machine.phase = .size n := congrArg Decoder.phase hagrees.decoder
    exact ⟨hagrees.result, Machine.registers_of_size hphase⟩
  · intro sofar digits n hp hne hread hlt
    obtain ⟨f, hf, hkind⟩ := decode_size_refused hp hne hread hw (hleft ▸ hlt)
    refine ⟨f, ?_, hkind⟩
    rw [(Machine.decode_view hsound digits).result, Progress.result, hf]

end Usage

/-- The limits of a machine hold after any calls on it, also where it was fed on after a byte was refused. -/
theorem calls_within_limits (maxBody maxTrailer : UInt64) (calls : List Call) :
    (calls.foldl Usage.after { machine := .new maxBody.toNat maxTrailer.toNat }).InLimits
      maxBody.toNat maxTrailer.toNat :=
  ((Usage.kept_of_sizeStart (Machine.sound_new maxBody.toNat maxTrailer.toNat) rfl rfl).foldl calls).inLimits
    maxBody.toNat_lt

/-- A machine that is fed on after it has refused two digits and a byte of the name of a trailer field. -/
def refusedCalls : List Call :=
  [.start, .decode (Text.utf8 "5"), .decode (Text.utf8 "4"), .decode (Text.utf8 "0"),
    .decode (Text.utf8 "\r\nWiki\r\n0\r\nA?"), .decode (Text.utf8 "BC: d\r\n")]

theorem refusedCalls_within_limits :
    let u := refusedCalls.foldl Usage.after { machine := .new 4 8 }
    u.data = Text.utf8 "Wiki" ∧ u.fields = [⟨"ABC", "d"⟩] ∧ sizes u.lines = 5 ∧
      u.machine.trailerBytes = 8 ∧ u.InLimits 4 8 := by
  intro u
  exact ⟨by decide +kernel, by decide +kernel, by decide +kernel, by decide +kernel,
    calls_within_limits 4 8 refusedCalls⟩

end Switchboard.Http.Chunk
