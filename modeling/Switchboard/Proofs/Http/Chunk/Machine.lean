import Switchboard.Http.Chunk.Machine
import Switchboard.Proofs.Http.Chunk.Runs

/-!
The machine is the decoder. Between the calls on it the registers of a machine are sound (`Machine.Sound`): the flag for
the end says what the state says, and what the last size line has left behind is what the state needs. A byte moves a
sound machine as it moves the decoder that the machine stands for (`step_view`), and keeps it sound; so does all input,
though the machine copies data in one go where the decoder takes it octet by octet (`decode_view`). How an input is cut
does not matter to any machine, sound or not, and not to any of its registers (`decode_cut`).
-/

namespace Switchboard.Http.Chunk

namespace Machine

/-! ## Sound registers -/

/-- The states in which the last size line has announced no data. -/
def State.isTrailing : State → Bool
  | .trailerStart | .trailerName | .trailerValue => true
  | _ => false

/-- What the registers of a machine hold besides what the state asks of them. -/
structure Sound (m : Machine) : Prop where
  finished : m.finished = true ↔ m.state = .finished
  /-- Before the line feed of a size line, the octets that it announces are missing. -/
  announced : m.state = .lineFeed → 0 < m.chunkSize → m.chunkLeft = m.chunkSize
  /-- In data, some is missing. -/
  missing : m.state = .data → 0 < m.chunkLeft
  /-- After the last chunk, its size stays. -/
  last : State.isTrailing m.state = true → m.chunkSize = 0
  /-- A quoted value has its quote. -/
  quoted : m.state = .extValue → m.extQuoted = true → 0 < m.extLen
  /-- Nothing is escaped outside of quotes. -/
  unescaped : m.state = .extValue → m.extQuoted = false → m.extEscaped = false

theorem sound_new (maxBody maxTrailer : Nat) : (new maxBody maxTrailer).Sound := by
  constructor <;> simp [new, State.isTrailing]

theorem sound_reset (m : Machine) : m.reset.Sound := sound_new m.maxBody m.maxTrailer

theorem sound_start (m : Machine) : m.start.Sound := by
  constructor <;> simp [start, reset, State.isTrailing]

theorem view_new (maxBody maxTrailer : Nat) : (new maxBody maxTrailer).view = .new maxBody maxTrailer := rfl

/-- Whatever the registers held, after a reset they stand for a decoder before its first message. -/
theorem view_reset (m : Machine) : m.reset.view = m.view.reset := rfl

theorem view_start (m : Machine) : m.start.view = m.view.start := rfl

/-- All registers but the limits are written by a reset. -/
theorem reset_eq (m : Machine) : m.reset = new m.maxBody m.maxTrailer := rfl

theorem view_ofDecoder (d : Decoder) : (ofDecoder d).view = d := by
  rcases d with ⟨phase, armed, total, trailerBytes, maxBody, maxTrailer⟩
  cases phase with
  | extName size named => cases named <;> rfl
  | extValue size v => cases v <;> rfl
  | trailerName nameRev => simp [ofDecoder, view, Machine.phase, new]
  | trailerValue nameRev valueRev => simp [ofDecoder, view, Machine.phase, new]
  | _ => rfl

theorem isFinished_view (m : Machine) : m.view.isFinished = true ↔ m.state = .finished := by
  rw [Decoder.isFinished, beq_iff_eq]
  show m.phase = .finished ↔ _
  unfold phase
  cases m.state <;> simp

theorem Sound.isFinished {m : Machine} (h : m.Sound) : m.view.isFinished = m.finished := by
  rw [Bool.eq_iff_iff, isFinished_view, h.finished]

theorem registers_of_size {m : Machine} {size : Nat} (h : m.phase = .size size) :
    m.state = .size ∧ m.chunkSize = size := by
  unfold phase at h
  cases hs : m.state <;> simp_all

/-! ## Single bytes -/

/-- What a field completes. -/
def yieldOf : Option Field → Yield
  | none => .nothing
  | some f => .field f

/-- A step of the machine is one of the decoder, and leaves the registers sound. -/
structure Follows (r : Stepped) (d : Decoder.Stepped) : Prop where
  sound : r.1.Sound
  same : d = (r.1.view, r.2.map yieldOf)

variable {m : Machine} {b : UInt8} {d : Decoder}

theorem follows_proceed {p : Phase} (hm : m.Sound) (hd : { d with phase := p } = m.view) :
    Follows m.proceed (d.goto p) := ⟨hm, by rw [Decoder.goto, hd]; rfl⟩

theorem follows_stay {p : Phase} (hm : m.Sound) (hp : m.view.phase = p) : Follows m.proceed (m.view.goto p) :=
  follows_proceed hm (by rw [← hp])

theorem follows_refuse (hm : m.Sound) (f : Fault) : Follows (m.refuse f) (m.view.refuse f) := ⟨hm, rfl⟩

theorem follows_unexpected (hm : m.Sound) (b : UInt8) : Follows (m.unexpected b) (m.view.unexpected b) := ⟨hm, rfl⟩

theorem follows_ite {c c' : Prop} [Decidable c] [Decidable c'] {r r' : Stepped} {d d' : Decoder.Stepped}
    (hc : c ↔ c') (h : c → Follows r d) (h' : ¬ c → Follows r' d') :
    Follows (if c then r else r') (if c' then d else d') := by
  by_cases hcond : c
  · rw [if_pos hcond, if_pos (hc.1 hcond)]
    exact h hcond
  · rw [if_neg hcond, if_neg (mt hc.2 hcond)]
    exact h' hcond

/-- A state that asks nothing of the registers. -/
def State.isPlain : State → Bool
  | .sizeStart | .size | .extName | .sizeBlank | .lastLineFeed | .dataReturn | .dataLineFeed => true
  | _ => false

theorem sound_of_plain (hm : m.finished = false) (hs : State.isPlain m.state = true) : m.Sound := by
  constructor <;> cases hstate : m.state <;> simp_all [State.isPlain, State.isTrailing]

theorem Sound.unfinished (hm : m.Sound) (h : m.state ≠ .finished) : m.finished = false := by
  cases hf : m.finished
  · rfl
  · exact absurd (hm.finished.1 hf) h

theorem follows_pushDigit (hm : m.Sound) (hopen : m.finished = false) (digit : Nat) :
    Follows (m.pushDigit digit) (m.view.takeDigit m.chunkSize digit) := by
  unfold pushDigit Decoder.takeDigit Decoder.grow
  by_cases hover : m.chunkSize * 16 + digit ≥ Text.wordSize
  · simp only [if_pos hover]
    exact follows_refuse hm _
  simp only [if_neg hover]
  by_cases hroom : m.chunkSize * 16 + digit > m.maxBody - m.total
  · simp only [if_pos hroom, if_pos (show _ > m.view.maxBody - m.view.total from hroom)]
    exact follows_refuse hm _
  · simp only [if_neg hroom, if_neg (show ¬ _ > m.view.maxBody - m.view.total from hroom)]
    exact follows_proceed (sound_of_plain hopen rfl) rfl

theorem follows_beginExtension (hopen : m.finished = false) :
    Follows m.beginExtension (m.view.goto (.extName m.chunkSize false)) :=
  follows_proceed (sound_of_plain hopen rfl) rfl

theorem follows_endSizeLine (hopen : m.finished = false) :
    Follows m.endSizeLine (m.view.goto (.lineFeed m.chunkSize)) := by
  refine follows_proceed ⟨?_, fun _ _ => rfl, ?_, ?_, ?_, ?_⟩ rfl <;> simp [hopen, State.isTrailing]

/-- A byte that is counted moves both on from the same count. -/
theorem follows_counted {next : Machine → Stepped} {next' : Decoder → Decoder.Stepped}
    (hm : { m with trailerBytes := m.trailerBytes + 1 }.Sound)
    (h : Follows (next { m with trailerBytes := m.trailerBytes + 1 })
      (next' { m with trailerBytes := m.trailerBytes + 1 }.view)) :
    Follows (m.counted next) (m.view.counted next') :=
  follows_ite Iff.rfl (fun _ => follows_refuse hm _) (fun _ => h)

/-! ### Size lines -/

theorem follows_stepSizeStart (hs : m.state = .sizeStart) (hopen : m.finished = false) (b : UInt8) :
    Follows (m.stepSizeStart b) (m.view.step b) := by
  have hplain : State.isPlain m.state = true := by rw [hs]; rfl
  have hview : { m with chunkSize := 0 }.view = m.view := by simp only [view, phase, hs]
  have hp : m.view.phase = .sizeStart := by simp only [view, phase, hs]
  simp only [stepSizeStart, Decoder.step, hp]
  cases Text.hexValue? b with
  | none => exact follows_unexpected (sound_of_plain hopen hplain) b
  | some digit =>
    have hdigit := follows_pushDigit (m := { m with chunkSize := 0 }) (sound_of_plain hopen hplain) hopen digit
    rwa [hview] at hdigit

theorem follows_stepSize (hs : m.state = .size) (hopen : m.finished = false) (b : UInt8) :
    Follows (m.stepSize b) (m.view.step b) := by
  have hm : m.Sound := sound_of_plain hopen (by rw [hs]; rfl)
  have hp : m.view.phase = .size m.chunkSize := by simp only [view, phase, hs]
  simp only [stepSize, Decoder.step, hp, Decoder.afterSize?]
  by_cases hsemi : b = 59
  · simp only [if_pos hsemi]
    exact follows_beginExtension hopen
  by_cases hblank : b = 32 ∨ b = 9
  · simp only [if_neg hsemi, if_pos hblank]
    exact follows_proceed (sound_of_plain hopen rfl) rfl
  by_cases hreturn : b = 13
  · simp only [if_neg hsemi, if_neg hblank, if_pos hreturn]
    exact follows_endSizeLine hopen
  simp only [if_neg hsemi, if_neg hblank, if_neg hreturn]
  cases Text.hexValue? b with
  | none => exact follows_unexpected hm b
  | some digit => exact follows_pushDigit hm hopen digit

theorem follows_stepSizeBlank (hs : m.state = .sizeBlank) (hopen : m.finished = false) (b : UInt8) :
    Follows (m.stepSizeBlank b) (m.view.step b) := by
  have hm : m.Sound := sound_of_plain hopen (by rw [hs]; rfl)
  have hp : m.view.phase = .sizeBlank m.chunkSize := by simp only [view, phase, hs]
  simp only [stepSizeBlank, Decoder.step, hp, Decoder.afterSize?]
  by_cases hblank : b = 32 ∨ b = 9
  · have hsemi : b ≠ 59 := by rintro rfl; exact absurd hblank (by decide)
    simp only [if_pos hblank, if_neg hsemi, Option.getD_some]
    exact follows_stay hm hp
  simp only [if_neg hblank]
  by_cases hsemi : b = 59
  · simp only [if_pos hsemi, Option.getD_some]
    exact follows_beginExtension hopen
  by_cases hreturn : b = 13
  · simp only [if_neg hsemi, if_pos hreturn, Option.getD_some]
    exact follows_endSizeLine hopen
  · simp only [if_neg hsemi, if_neg hreturn, Option.getD_none]
    exact follows_unexpected hm b

/-! ### Extensions -/

theorem follows_stepExtName (hs : m.state = .extName) (hopen : m.finished = false) (b : UInt8) :
    Follows (m.stepExtName b) (m.view.step b) := by
  have hm : m.Sound := sound_of_plain hopen (by rw [hs]; rfl)
  have hp : m.view.phase = .extName m.chunkSize (0 < m.extLen) := by simp only [view, phase, hs]
  have hname : ∀ n, Follows (proceed { m with extLen := n }) (m.view.goto (.extName m.chunkSize (0 < n))) := by
    intro n
    refine follows_proceed (sound_of_plain hopen (by rw [hs]; rfl)) ?_
    simp only [view, phase, hs]
  rcases Nat.eq_zero_or_pos m.extLen with hlen | hlen
  · have hempty : decide (0 < m.extLen) = false := by simp [hlen]
    rw [hempty] at hp
    simp only [stepExtName, Decoder.step, hp, hlen, Nat.lt_irrefl, and_true, and_false, if_false]
    refine follows_ite Iff.rfl (fun _ => follows_stay hm hp) fun _ => ?_
    exact follows_ite Iff.rfl (fun _ => hname 1) fun _ => follows_unexpected hm b
  · have hsome : decide (0 < m.extLen) = true := by simp [hlen]
    rw [hsome] at hp
    simp only [stepExtName, Decoder.step, hp, Nat.ne_of_gt hlen, hlen, and_true, and_false, if_false]
    refine follows_ite Iff.rfl (fun _ => ?_) fun _ => ?_
    · have htoken := hname (m.extLen + 1)
      rwa [show decide (0 < m.extLen + 1) = true from rfl] at htoken
    refine follows_ite Iff.rfl (fun _ => ?_) fun _ => ?_
    · exact follows_proceed ⟨by simp [hopen], by simp, by simp, by simp [State.isTrailing], by simp, by simp⟩ rfl
    refine follows_ite Iff.rfl (fun _ => hname 0) fun _ => ?_
    exact follows_ite Iff.rfl (fun _ => follows_endSizeLine hopen) fun _ => follows_unexpected hm b

/-- The registers inside the value of an extension, which has no demands on them but those of its quotes. -/
theorem sound_of_value (hs : m.state = .extValue) (hopen : m.finished = false)
    (hquoted : m.extQuoted = true → 0 < m.extLen) (hescaped : m.extQuoted = false → m.extEscaped = false) : m.Sound where
  finished := by simp [hs, hopen]
  announced := by simp [hs]
  missing := by simp [hs]
  last := by simp [hs, State.isTrailing]
  quoted _ := hquoted
  unescaped _ := hescaped

theorem follows_stepQuoted (hs : m.state = .extValue) (hopen : m.finished = false) (hm : m.Sound)
    (hq : m.extQuoted = true) (b : UInt8) : Follows (m.stepQuoted b) (m.view.step b) := by
  cases he : m.extEscaped with
  | true =>
    have hp : m.view.phase = .extValue m.chunkSize .escaped := by simp only [view, phase, hs, hq, he, if_true]
    simp only [stepQuoted, Decoder.step, hp, Decoder.stepExtValue, he, if_true]
    refine follows_proceed (sound_of_value hs hopen (fun _ => Nat.succ_pos _) (by simp [hq])) ?_
    simp [view, phase, hs, hq]
  | false =>
    have hp : m.view.phase = .extValue m.chunkSize .quoted := by
      simp only [view, phase, hs, hq, he, if_true, Bool.false_eq_true, if_false]
    simp only [stepQuoted, Decoder.step, hp, Decoder.stepExtValue, he, Bool.false_eq_true, if_false]
    refine follows_ite Iff.rfl (fun _ => ?_) fun _ => follows_ite Iff.rfl (fun _ => ?_) fun _ =>
      follows_ite Iff.rfl (fun _ => ?_) fun _ => follows_unexpected hm b
    · refine follows_proceed (sound_of_value hs hopen (fun _ => Nat.succ_pos _) (by simp [hq])) ?_
      simp [view, phase, hs, hq]
    · refine follows_proceed (sound_of_value hs hopen (fun _ => Nat.succ_pos _) (by simp)) ?_
      simp [view, phase, hs]
    · refine follows_proceed (sound_of_value hs hopen (fun _ => Nat.succ_pos _) (by simp)) ?_
      simp [view, phase, hs, hq, he]

theorem follows_stepValue (hs : m.state = .extValue) (hopen : m.finished = false) (hm : m.Sound)
    (hq : m.extQuoted = false) (b : UInt8) : Follows (m.stepValue b) (m.view.step b) := by
  have hinside : Follows (proceed { m with extLen := m.extLen + 1 }) (m.view.goto (.extValue m.chunkSize .inside)) := by
    refine follows_proceed (sound_of_value hs hopen (fun _ => Nat.succ_pos _) (fun _ => hm.unescaped hs hq)) ?_
    simp [view, phase, hs, hq]
  rcases Nat.eq_zero_or_pos m.extLen with hlen | hlen
  · have hp : m.view.phase = .extValue m.chunkSize .start := by simp [view, phase, hs, hq, hlen]
    simp only [stepValue, Decoder.step, hp, Decoder.stepExtValue, hlen, Nat.lt_irrefl, and_true, and_false, if_false]
    rw [hlen] at hinside
    refine follows_ite Iff.rfl (fun _ => ?_) fun _ =>
      follows_ite Iff.rfl (fun _ => hinside) fun _ => follows_unexpected hm b
    have hescaped : m.extEscaped = false := hm.unescaped hs hq
    refine follows_proceed (sound_of_value hs hopen (fun _ => Nat.succ_pos _) (by simp)) ?_
    simp [view, phase, hs, hescaped]
  · have hp : m.view.phase = .extValue m.chunkSize .inside := by simp [view, phase, hs, hq, hlen]
    simp only [stepValue, Decoder.step, hp, Decoder.stepExtValue, Nat.ne_of_gt hlen, hlen, and_true, and_false, if_false]
    refine follows_ite Iff.rfl (fun _ => hinside) fun _ => follows_ite Iff.rfl (fun _ => ?_) fun _ => ?_
    · exact follows_beginExtension hopen
    · exact follows_ite Iff.rfl (fun _ => follows_endSizeLine hopen) fun _ => follows_unexpected hm b

/-! ### Line ends -/

theorem follows_expect {m' : Machine} {byte : UInt8} {p : Phase} {d : Decoder.Stepped} (hm : m.Sound)
    (hm' : m'.Sound) (hp : { m.view with phase := p } = m'.view)
    (hd : d = if b = byte then m.view.goto p else m.view.unexpected b) : Follows (m.expect byte m' b) d := by
  rw [hd]
  exact follows_ite Iff.rfl (fun _ => follows_proceed hm' hp) fun _ => follows_unexpected hm b

theorem follows_lineFeed (hs : m.state = .lineFeed) (hopen : m.finished = false) (hm : m.Sound) (b : UInt8) :
    Follows (m.expect 10 { m with state := if 0 < m.chunkSize then .data else .trailerStart } b) (m.view.step b) := by
  have hp : m.view.phase = .lineFeed m.chunkSize := by simp only [view, phase, hs]
  refine follows_expect (p := if 0 < m.chunkSize then .data m.chunkSize else .trailerStart) hm ?_ ?_
    (by simp only [Decoder.step, hp, gt_iff_lt])
  · by_cases hsize : 0 < m.chunkSize
    · have hleft : 0 < m.chunkLeft := hm.announced hs hsize ▸ hsize
      rw [if_pos hsize]
      exact ⟨by simp [hopen], by simp, fun _ => hleft, by simp [State.isTrailing], by simp, by simp⟩
    · rw [if_neg hsize]
      exact ⟨by simp [hopen], by simp, by simp, fun _ => Nat.eq_zero_of_not_pos hsize, by simp, by simp⟩
  · by_cases hsize : 0 < m.chunkSize
    · simp [view, phase, hsize, hm.announced hs hsize]
    · simp [view, phase, hsize]

theorem follows_lastLineFeed (hs : m.state = .lastLineFeed) (hopen : m.finished = false) (b : UInt8) :
    Follows (m.expect 10 { m with state := .finished, finished := true } b) (m.view.step b) := by
  have hp : m.view.phase = .lastLineFeed := by simp only [view, phase, hs]
  refine follows_expect (p := .finished) (sound_of_plain hopen (by rw [hs]; rfl)) ?_ rfl
    (by simp only [Decoder.step, hp])
  exact ⟨by simp, by simp, by simp, by simp [State.isTrailing], by simp, by simp⟩

theorem follows_dataReturn (hs : m.state = .dataReturn) (hopen : m.finished = false) (b : UInt8) :
    Follows (m.expect 13 { m with state := .dataLineFeed } b) (m.view.step b) := by
  have hp : m.view.phase = .dataReturn := by simp only [view, phase, hs]
  exact follows_expect (p := .dataLineFeed) (sound_of_plain hopen (by rw [hs]; rfl)) (sound_of_plain hopen rfl) rfl
    (by simp only [Decoder.step, hp])

theorem follows_dataLineFeed (hs : m.state = .dataLineFeed) (hopen : m.finished = false) (b : UInt8) :
    Follows (m.expect 10 { m with state := .sizeStart } b) (m.view.step b) := by
  have hp : m.view.phase = .dataLineFeed := by simp only [view, phase, hs]
  exact follows_expect (p := .sizeStart) (sound_of_plain hopen (by rw [hs]; rfl)) (sound_of_plain hopen rfl) rfl
    (by simp only [Decoder.step, hp])

/-! ### Trailers -/

/-- The registers in a trailer line, where the last size is zero. -/
theorem sound_of_trailing (hs : State.isTrailing m.state = true) (hopen : m.finished = false)
    (hsize : m.chunkSize = 0) : m.Sound := by
  constructor <;> cases hstate : m.state <;> simp_all [State.isTrailing]

theorem follows_stepTrailerStart (hs : m.state = .trailerStart) (hopen : m.finished = false)
    (hsize : m.chunkSize = 0) (b : UInt8) : Follows (m.stepTrailerStart b) (m.view.step b) := by
  have htrailing : State.isTrailing m.state = true := by rw [hs]; rfl
  have hp : m.view.phase = .trailerStart := by simp only [view, phase, hs]
  simp only [stepTrailerStart, Decoder.step, hp]
  refine follows_ite Iff.rfl (fun _ => ?_) fun _ => follows_ite Iff.rfl (fun _ => ?_) fun _ => ?_
  · exact follows_proceed (sound_of_plain hopen rfl) rfl
  · exact follows_counted (sound_of_trailing htrailing hopen hsize)
      (follows_proceed (sound_of_trailing rfl hopen hsize) rfl)
  · exact follows_unexpected (sound_of_trailing htrailing hopen hsize) b

theorem follows_stepTrailerName (hs : m.state = .trailerName) (hopen : m.finished = false)
    (hsize : m.chunkSize = 0) (b : UInt8) : Follows (m.stepTrailerName b) (m.view.step b) := by
  have htrailing : State.isTrailing m.state = true := by rw [hs]; rfl
  have hp : m.view.phase = .trailerName m.trailerName.toList.reverse := by simp only [view, phase, hs]
  have hcounted : { m with trailerBytes := m.trailerBytes + 1 }.Sound := sound_of_trailing htrailing hopen hsize
  simp only [stepTrailerName, Decoder.step, hp]
  refine follows_counted hcounted ?_
  refine follows_ite Iff.rfl (fun _ => ?_) fun _ => follows_ite Iff.rfl (fun _ => ?_) fun _ => ?_
  · refine follows_proceed (sound_of_trailing htrailing hopen hsize) ?_
    simp [view, phase, hs]
  · exact follows_proceed (sound_of_trailing rfl hopen hsize) rfl
  · exact follows_unexpected hcounted b

theorem follows_stepTrailerValue (hs : m.state = .trailerValue) (hopen : m.finished = false)
    (hsize : m.chunkSize = 0) (b : UInt8) : Follows (m.stepTrailerValue b) (m.view.step b) := by
  have htrailing : State.isTrailing m.state = true := by rw [hs]; rfl
  have hp : m.view.phase = .trailerValue m.trailerName.toList.reverse m.trailerValue.toList.reverse := by
    simp only [view, phase, hs]
  have hcounted : { m with trailerBytes := m.trailerBytes + 1 }.Sound := sound_of_trailing htrailing hopen hsize
  simp only [stepTrailerValue, Decoder.step, hp]
  refine follows_counted hcounted ?_
  refine follows_ite Iff.rfl (fun _ => ?_) fun _ => follows_ite Iff.rfl (fun _ => ?_) fun _ => ?_
  · refine ⟨⟨by simp [hopen], fun _ hpos => absurd hsize (Nat.ne_of_gt hpos), ?_, ?_, ?_, ?_⟩, ?_⟩
    · simp
    · simp [State.isTrailing]
    · simp
    · simp
    · simp [view, phase, hsize, Except.map, yieldOf, trailerField]
  · refine follows_proceed (sound_of_trailing htrailing hopen hsize) ?_
    simp [view, phase, hs]
  · exact follows_unexpected hcounted b

/-- A byte outside of data moves a sound machine as it moves the decoder that the machine stands for. -/
theorem step_view (hm : m.Sound) (hdata : m.state ≠ .data) (hfin : m.state ≠ .finished) (b : UInt8) :
    Follows (m.step b) (m.view.step b) := by
  have hopen := hm.unfinished hfin
  cases hs : m.state with
  | sizeStart => simpa only [step, hs] using follows_stepSizeStart hs hopen b
  | size => simpa only [step, hs] using follows_stepSize hs hopen b
  | extName => simpa only [step, hs] using follows_stepExtName hs hopen b
  | extValue =>
    cases hq : m.extQuoted with
    | true => simpa only [step, hs, hq, if_true] using follows_stepQuoted hs hopen hm hq b
    | false => simpa only [step, hs, hq, Bool.false_eq_true, if_false] using follows_stepValue hs hopen hm hq b
  | sizeBlank => simpa only [step, hs] using follows_stepSizeBlank hs hopen b
  | lineFeed => simpa only [step, hs] using follows_lineFeed hs hopen hm b
  | trailerStart => simpa only [step, hs] using follows_stepTrailerStart hs hopen (hm.last (by rw [hs]; rfl)) b
  | lastLineFeed => simpa only [step, hs] using follows_lastLineFeed hs hopen b
  | trailerName => simpa only [step, hs] using follows_stepTrailerName hs hopen (hm.last (by rw [hs]; rfl)) b
  | trailerValue => simpa only [step, hs] using follows_stepTrailerValue hs hopen (hm.last (by rw [hs]; rfl)) b
  | data => exact absurd hs hdata
  | dataReturn => simpa only [step, hs] using follows_dataReturn hs hopen b
  | dataLineFeed => simpa only [step, hs] using follows_dataLineFeed hs hopen b
  | finished => exact absurd hs hfin

/-! ## Input -/

theorem before_before (p q s : Progress) : (p.before q).before s = p.before (q.before s) := by
  simp [Progress.before, Nat.add_assoc]

/-- What has come of an input is the progress of the decoder that the machine stands for. -/
structure Agrees (r : Decoded) (p : Progress) : Prop where
  sound : r.machine.Sound
  decoder : r.machine.view = p.decoder
  data : r.data.toList = p.data
  fields : r.fields.toList = p.trailers
  consumed : r.consumed = p.consumed
  fault : r.fault = p.fault

theorem Agrees.result {r : Decoded} {p : Progress} (h : Agrees r p) : r.result = p.result := by
  unfold Decoded.result Progress.result
  rcases hp : p.fault with _ | f <;> simp only [h.fault.trans hp, h.consumed]

/-- A copy of data is a run of the decoder over it. -/
theorem runs_copied (hm : m.Sound) (hs : m.state = .data) (input : Bytes) :
    let octets := input.take (min m.chunkLeft input.length)
    Runs m.view octets (m.copied octets.length).view octets [] := by
  intro octets
  have hp : m.view.phase = .data m.chunkLeft := by simp only [view, phase, hs]
  have htake : octets = input.take m.chunkLeft := by
    simp only [octets, Nat.min_def]
    split
    · rfl
    · rw [List.take_length, List.take_of_length_le (by omega)]
  have hlen : octets.length = min m.chunkLeft input.length := by rw [htake, List.length_take]
  have hafter : (m.copied octets.length).view = m.view.afterData m.chunkLeft input.length := by
    rw [hlen]
    by_cases hn : input.length < m.chunkLeft
    · have hmin : min m.chunkLeft input.length = input.length := Nat.min_eq_right (Nat.le_of_lt hn)
      have hpos : ¬ m.chunkLeft - input.length = 0 := by omega
      simp only [view, phase, copied, Decoder.afterData, hmin, if_neg hpos, if_pos hn]
    · have hmin : min m.chunkLeft input.length = m.chunkLeft := Nat.min_eq_left (Nat.le_of_not_lt hn)
      simp only [view, phase, copied, Decoder.afterData, hmin, Nat.sub_self, if_true, if_neg hn]
  rw [hafter, htake]
  exact runs_of_data hp (hm.missing hs) input

theorem sound_copied (hm : m.Sound) (hs : m.state = .data) (n : Nat) : (m.copied n).Sound := by
  have hopen : m.finished = false := hm.unfinished (by simp [hs])
  unfold copied
  split
  · exact sound_of_plain hopen rfl
  · exact ⟨by simp [hopen], by simp, fun _ => Nat.pos_of_ne_zero ‹_›, by simp [State.isTrailing], by simp, by simp⟩

/-- A copy of data adds what the run over it completes. -/
theorem Agrees.copy {r : Decoded} {p : Progress} (h : Agrees r p) (hf : r.fault = none) (hs : r.machine.state = .data)
    (octets : Bytes) :
    Agrees (r.copy octets) (p.before (ran (r.machine.copied octets.length).view octets octets [])) where
  sound := sound_copied h.sound hs octets.length
  decoder := rfl
  data := by simp [Decoded.copy, Progress.before, Progress.data, ran, h.data]
  fields := by simp [Decoded.copy, Progress.before, Progress.trailers, ran, h.fields]
  consumed := by simp [Decoded.copy, Progress.before, ran, h.consumed]
  fault := hf

/-- A byte adds what it completes. -/
theorem Agrees.take {r : Decoded} {p : Progress} (h : Agrees r p) (hf : r.fault = none) (hm : m.Sound)
    (field : Option Field) (b : UInt8) :
    Agrees (r.take m field) (p.before (ran m.view [b] (yieldOf field).octets (yieldOf field).fields)) where
  sound := hm
  decoder := rfl
  data := by cases field <;> simp [Decoded.take, Progress.before, Progress.data, ran, yieldOf, Yield.octets, h.data]
  fields := by
    cases field <;> simp [Decoded.take, Progress.before, Progress.trailers, ran, yieldOf, Yield.fields, h.fields]
  consumed := by simp [Decoded.take, Progress.before, ran, h.consumed]
  fault := hf

/-- Decoding on, the machine makes the progress of its decoder. -/
theorem decodeOn_view (r : Decoded) (input : Bytes) (p : Progress) (h : Agrees r p) (hf : r.fault = none) :
    Agrees (decodeOn r input) (p.before (r.machine.view.decode input)) := by
  induction r, input using decodeOn.induct generalizing p with
  | case1 r =>
    rw [decodeOn, h.decoder]
    rwa [show p.decoder.decode [] = { decoder := p.decoder } from rfl, Progress.before_start (h.fault ▸ hf)]
  | case2 r b rest hfin =>
    rw [decodeOn, if_pos hfin, decode_of_finished ((isFinished_view r.machine).2 hfin), h.decoder,
      Progress.before_start (h.fault ▸ hf)]
    exact h
  | case3 r b rest hfin hdata n ih =>
    have hruns : Runs r.machine.view ((b :: rest).take n) (r.copy ((b :: rest).take n)).machine.view _ [] :=
      runs_copied h.sound hdata (b :: rest)
    have hcut := decode_append hruns ((b :: rest).drop n)
    rw [List.take_append_drop] at hcut
    rw [decodeOn, if_neg hfin, if_pos hdata, hcut, ← before_before]
    exact ih _ (h.copy hf hdata _) hf
  | case4 r b rest hfin hdata m f hs =>
    have hunfinished : r.machine.view.isFinished = false := by
      rw [h.sound.isFinished]
      exact h.sound.unfinished hfin
    obtain ⟨hsound, hstep⟩ := step_view h.sound hdata hfin b
    rw [hs] at hsound hstep
    rw [decodeOn, if_neg hfin, if_neg hdata, hs, decode_of_refused hunfinished hstep]
    have hdata : r.data.toList = (p.before { decoder := m.view, fault := some f }).data := h.data
    have hfields : r.fields.toList = (p.before { decoder := m.view, fault := some f }).trailers := h.fields
    exact ⟨hsound, rfl, hdata, hfields, h.consumed, rfl⟩
  | case5 r b rest hfin hdata m field hs ih =>
    have hunfinished : r.machine.view.isFinished = false := by
      rw [h.sound.isFinished]
      exact h.sound.unfinished hfin
    obtain ⟨hsound, hstep⟩ := step_view h.sound hdata hfin b
    rw [hs] at hsound hstep
    rw [decodeOn, if_neg hfin, if_neg hdata, hs, decode_cons_of_step hunfinished hstep, ← before_before]
    exact ih _ (h.take hf hsound field b) hf

/-- On all input a sound machine makes the progress of the decoder that it stands for. -/
theorem decode_view (hm : m.Sound) (input : Bytes) : Agrees (m.decode input) (m.view.decode input) := by
  have h := decodeOn_view { machine := m } input { decoder := m.view } ⟨hm, rfl, rfl, rfl, rfl, rfl⟩ rfl
  have hbegun : ∀ p : Progress, Progress.before { decoder := m.view } p = p := fun p => by simp [Progress.before]
  rwa [hbegun] at h

end Machine

/-! ## Input in parts -/

namespace Decoded

/-- What has come of two inputs, the second from where the first has ended. -/
def before (r s : Decoded) : Decoded where
  machine := s.machine
  data := r.data ++ s.data
  fields := r.fields ++ s.fields
  consumed := r.consumed + s.consumed
  fault := s.fault

/-- Nothing comes after what has only begun. -/
theorem before_start {r : Decoded} (h : r.fault = none) : r.before { machine := r.machine } = r := by
  simp [before, ← h]

theorem append_list {α : Type} (a b : Array α) (l : List α) : a ++ b ++ l = a ++ (b ++ l) := by
  apply Array.ext'
  simp

theorem before_copy (r s : Decoded) (octets : Bytes) : (r.before s).copy octets = r.before (s.copy octets) := by
  simp only [before, copy, Nat.add_assoc, append_list]

theorem before_take (r s : Decoded) (m : Machine) (field : Option Field) :
    (r.before s).take m field = r.before (s.take m field) := by
  simp only [before, take, Nat.add_assoc, append_list]

/-- Two copies of data are one. -/
theorem copy_copy (r : Decoded) (octets more : Bytes) : (r.copy octets).copy more = r.copy (octets ++ more) := by
  have hdata : r.data ++ octets ++ more = r.data ++ (octets ++ more) := by
    apply Array.ext'
    simp
  simp only [copy, Machine.copied, List.length_append, Nat.sub_sub, Nat.add_assoc, hdata]

end Decoded

namespace Machine

theorem decodeOn_before (r s : Decoded) (input : Bytes) : decodeOn (r.before s) input = r.before (decodeOn s input) := by
  induction s, input using decodeOn.induct with
  | case1 s => rw [decodeOn, decodeOn]
  | case2 s b rest hfin => rw [decodeOn, decodeOn, if_pos hfin, if_pos (show (r.before s).machine.state = .finished from hfin)]
  | case3 s b rest hfin hdata n ih =>
    rw [decodeOn, decodeOn, if_neg hfin, if_pos hdata, if_neg (show ¬ (r.before s).machine.state = .finished from hfin),
      if_pos (show (r.before s).machine.state = .data from hdata)]
    show decodeOn ((r.before s).copy _) _ = _
    rw [Decoded.before_copy]
    exact ih
  | case4 s b rest hfin hdata m f hs => 
    rw [decodeOn, decodeOn, if_neg hfin, if_neg hdata, if_neg (show ¬ (r.before s).machine.state = .finished from hfin),
      if_neg (show ¬ (r.before s).machine.state = .data from hdata), hs, show (r.before s).machine.step b = _ from hs]
    rfl
  | case5 s b rest hfin hdata m field hs ih =>
    rw [decodeOn, decodeOn, if_neg hfin, if_neg hdata, if_neg (show ¬ (r.before s).machine.state = .finished from hfin),
      if_neg (show ¬ (r.before s).machine.state = .data from hdata), hs, show (r.before s).machine.step b = _ from hs]
    dsimp only
    rw [Decoded.before_take]
    exact ih

theorem decodeOn_data (r : Decoded) (hs : r.machine.state = .data) {input : Bytes} (hne : input ≠ []) :
    decodeOn r input = decodeOn (r.copy (input.take r.machine.chunkLeft)) (input.drop r.machine.chunkLeft) := by
  obtain ⟨b, rest, rfl⟩ := List.exists_cons_of_ne_nil hne
  rw [decodeOn, if_neg (by simp [hs]), if_pos hs]
  dsimp only
  rcases Nat.le_total r.machine.chunkLeft (rest.length + 1) with hle | hle
  · rw [Nat.min_eq_left hle]
  · rw [Nat.min_eq_right hle, ← List.length_cons (a := b), List.take_length, List.drop_length,
      List.take_of_length_le hle, List.drop_of_length_le hle]

/-- Decoding on from where an input was decoded without a fault. -/
theorem decodeOn_append (r : Decoded) (hf : r.fault = none) (a b : Bytes) :
    decodeOn r (a ++ b) = if (decodeOn r a).fault.isSome then decodeOn r a else decodeOn (decodeOn r a) b := by
  induction r, a using decodeOn.induct with
  | case1 r =>
    rw [show decodeOn r [] = r from by rw [decodeOn], hf]
    rfl
  | case2 r x rest hfin =>
    have hstop : ∀ input, decodeOn r input = r := by
      intro input
      cases input <;> rw [decodeOn]
      rw [if_pos hfin]
    rw [hstop, hstop, hstop, hf]
    rfl
  | case3 r x rest hfin hdata n ih =>
    have ha : x :: rest ≠ [] := List.cons_ne_nil x rest
    have hn : n = min r.machine.chunkLeft (x :: rest).length := rfl
    generalize x :: rest = a at ha hn ih ⊢
    rw [decodeOn_data r hdata ha, decodeOn_data r hdata (List.append_ne_nil_of_left_ne_nil ha b)]
    rcases Nat.lt_or_ge a.length r.machine.chunkLeft with hlt | hle
    · -- the chunk goes on in what comes after `a`
      rw [List.take_of_length_le (Nat.le_of_lt hlt), List.drop_of_length_le (Nat.le_of_lt hlt), List.take_append,
        List.take_of_length_le (Nat.le_of_lt hlt), List.drop_append, List.drop_of_length_le (Nat.le_of_lt hlt),
        List.nil_append, ← Decoded.copy_copy]
      have hleft : (r.copy a).machine.chunkLeft = r.machine.chunkLeft - a.length := rfl
      have hstate : (r.copy a).machine.state = .data := if_neg (by omega)
      have hend : decodeOn (r.copy a) [] = r.copy a := by rw [decodeOn]
      rw [hend, show (r.copy a).fault = none from hf, ← hleft]
      cases b with
      | nil =>
        rw [List.take_nil, List.drop_nil, Decoded.copy_copy, List.append_nil]
        rfl
      | cons y more => exact (decodeOn_data (r.copy a) hstate (List.cons_ne_nil y more)).symm
    · rw [hn, Nat.min_eq_left hle] at ih
      rw [List.take_append_of_le_length hle, List.drop_append_of_le_length hle]
      exact ih hf
  | case4 r x rest hfin hdata m f hs =>
    rw [List.cons_append, decodeOn, decodeOn, if_neg hfin, if_neg hdata, if_neg hfin, if_neg hdata, hs]
    rfl
  | case5 r x rest hfin hdata m field hs ih =>
    rw [List.cons_append, decodeOn, decodeOn, if_neg hfin, if_neg hdata, if_neg hfin, if_neg hdata, hs]
    exact ih hf

/-- Whatever is in the registers, more input is decoded after some input as it is by the machine that this left; and
nothing is decoded after a byte that was refused. -/
theorem decode_cut (m : Machine) (a b : Bytes) :
    m.decode (a ++ b) =
      if (m.decode a).fault.isSome then m.decode a else (m.decode a).before ((m.decode a).machine.decode b) := by
  have hcut := decodeOn_append { machine := m } rfl a b
  unfold decode at hcut ⊢
  rw [hcut]
  split
  · rfl
  · next hf =>
    have hnone : (decodeOn { machine := m } a).fault = none := by simpa using hf
    rw [← decodeOn_before, Decoded.before_start hnone]

end Machine
end Switchboard.Http.Chunk
