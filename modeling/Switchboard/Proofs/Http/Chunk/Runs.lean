import Switchboard.Http.Chunk.Decoder

/-!
Runs of the decoder of the chunked coding. `Runs d w e data fields` says that the decoder goes from `d` to `e`
on the bytes `w`, refuses none of them, and completes `data` and `fields` on the way. Decoding an input is a
run over the part that is consumed (`runs_of_decode`), and decoding goes on after a run as it would from
scratch (`decode_append`). The octets of data that are there make up one run (`runs_of_data`).
-/

namespace Switchboard.Http.Chunk

/-- The octets of data that a step completes. -/
def Yield.octets : Yield → Bytes
  | .octet b => [b]
  | _ => []

/-- The trailer fields that a step completes. -/
def Yield.fields : Yield → List Field
  | .field f => [f]
  | _ => []

/-- A run of the decoder, one byte after the other. -/
inductive Runs : Decoder → Bytes → Decoder → Bytes → List Field → Prop where
  | refl (d : Decoder) : Runs d [] d [] []
  | cons {d d' e : Decoder} {b : UInt8} {w data : Bytes} {y : Yield} {fields : List Field}
      (hd : d.isFinished = false) (hs : d.step b = (d', .ok y)) (hr : Runs d' w e data fields) :
      Runs d (b :: w) e (y.octets ++ data) (y.fields ++ fields)

namespace Runs

variable {d e f : Decoder} {v w data data' : Bytes} {fields fields' : List Field}

theorem append (h : Runs d v e data fields) (h' : Runs e w f data' fields') :
    Runs d (v ++ w) f (data ++ data') (fields ++ fields') := by
  induction h with
  | refl => exact h'
  | cons hd hs _ ih =>
    rw [List.cons_append, List.append_assoc, List.append_assoc]
    exact cons hd hs (ih h')

/-- One step that completes nothing, then a run. -/
theorem step {d' : Decoder} {b : UInt8} (hd : d.isFinished = false)
    (hs : d.step b = (d', .ok .nothing)) (h : Runs d' w e data fields) :
    Runs d (b :: w) e data fields :=
  cons hd hs h

end Runs

/-! ## The limits of a decoder -/

theorem reset_afterSize? {d : Decoder} {size : Nat} {b : UInt8} {r : Decoder.Stepped}
    (h : d.afterSize? size b = some r) : r.1.reset = d.reset := by
  simp only [Decoder.afterSize?] at h
  repeat' split at h
  · rw [← Option.some.inj h]; rfl
  · rw [← Option.some.inj h]; rfl
  · rw [← Option.some.inj h]; rfl
  · exact absurd h (by simp)

/-- A step leaves the limits as they are. -/
theorem reset_step (d : Decoder) (b : UInt8) : (d.step b).1.reset = d.reset := by
  simp only [Decoder.step, Decoder.counted, Decoder.takeDigit, Decoder.stepExtValue, Option.getD]
  repeat' split
  all_goals first | rfl | exact reset_afterSize? ‹_›

theorem limits_of_reset {d e : Decoder} (h : e.reset = d.reset) :
    e.maxBody = d.maxBody ∧ e.maxTrailer = d.maxTrailer := by
  have hbody := congrArg Decoder.maxBody h
  have htrailer := congrArg Decoder.maxTrailer h
  exact ⟨hbody, htrailer⟩

theorem limits_of_step {d e : Decoder} {b : UInt8} {r : Except Fault Yield} (h : d.step b = (e, r)) :
    e.maxBody = d.maxBody ∧ e.maxTrailer = d.maxTrailer := by
  apply limits_of_reset
  rw [← reset_step d b, h]

/-! ## The faults of a decoder -/

/-- A byte is refused for what the other side has sent. -/
theorem category_of_step {d e : Decoder} {b : UInt8} {f : Fault} (h : d.step b = (e, .error f)) :
    f.category = .clientData := by
  simp only [Decoder.step, Decoder.counted, Decoder.takeDigit, Decoder.grow, Decoder.afterSize?, Decoder.stepExtValue,
    Decoder.goto, Decoder.unexpected, Decoder.refuse, Option.getD] at h
  -- each branch that refuses names its fault
  grind [Fault.category, Fault.isTransport, Fault.isCrash, Fault.family]

/-! ## The progress of a run -/

namespace Progress

/-- The progress through two parts of the input, the second from where the first has ended. -/
def before (p q : Progress) : Progress where
  decoder := q.decoder
  dataRev := q.dataRev ++ p.dataRev
  trailersRev := q.trailersRev ++ p.trailersRev
  consumed := p.consumed + q.consumed
  fault := q.fault

/-- Nothing comes after a progress that has only begun. -/
theorem before_start {p : Progress} (h : p.fault = none) : p.before { decoder := p.decoder } = p := by
  simp [before, ← h]

theorem data_before (p q : Progress) : (p.before q).data = p.data ++ q.data :=
  List.reverse_append

theorem trailers_before (p q : Progress) : (p.before q).trailers = p.trailers ++ q.trailers :=
  List.reverse_append

theorem reset_absorb (p : Progress) (b : UInt8) : (p.absorb b).decoder.reset = p.decoder.reset := by
  by_cases h : (p.fault.isSome || p.decoder.isFinished) = true
  · rw [absorb, if_pos h]
  · have hs := reset_step p.decoder b
    rw [absorb, if_neg h]
    rcases he : p.decoder.step b with ⟨d, f | y⟩ <;> rw [he] at hs
    · exact hs
    · cases y <;> exact hs

theorem before_absorb (p q : Progress) (b : UInt8) : (p.before q).absorb b = p.before (q.absorb b) := by
  by_cases h : (q.fault.isSome || q.decoder.isFinished) = true
  · rw [absorb, absorb, if_pos h]
    exact if_pos h
  · rw [absorb, absorb, if_neg h]
    refine (if_neg h).trans ?_
    rcases hs : q.decoder.step b with ⟨d, f | y⟩
    · simp only [before, hs]
    · cases y <;> simp [before, hs, record, Nat.add_assoc]

theorem before_foldl (p q : Progress) (w : Bytes) :
    w.foldl absorb (p.before q) = p.before (w.foldl absorb q) := by
  induction w generalizing q with
  | nil => rfl
  | cons b w ih => rw [List.foldl_cons, List.foldl_cons, before_absorb, ih]

/-- A progress that has come to a stop: the body has ended, or a byte was refused. -/
theorem foldl_of_stopped {p : Progress} (h : p.fault.isSome ∨ p.decoder.isFinished) (w : Bytes) :
    w.foldl absorb p = p := by
  induction w with
  | nil => rfl
  | cons b w ih =>
    have : p.absorb b = p := by
      rw [absorb, if_pos]
      rcases h with h | h <;> simp [h]
    rw [List.foldl_cons, this, ih]

end Progress

/-- The progress that a run makes. -/
def ran (e : Decoder) (w data : Bytes) (fields : List Field) : Progress where
  decoder := e
  dataRev := data.reverse
  trailersRev := fields.reverse
  consumed := w.length

theorem absorb_of_step {d d' : Decoder} {b : UInt8} {y : Yield} (hd : d.isFinished = false)
    (hs : d.step b = (d', .ok y)) :
    Progress.absorb { decoder := d } b = ran d' [b] y.octets y.fields := by
  simp only [Progress.absorb, hd, hs]
  cases y <;> rfl

/-- Decoding goes on after a byte that is taken. -/
theorem decode_cons_of_step {d d' : Decoder} {b : UInt8} {y : Yield} (hd : d.isFinished = false)
    (hs : d.step b = (d', .ok y)) (rest : Bytes) :
    d.decode (b :: rest) = (ran d' [b] y.octets y.fields).before (d'.decode rest) := by
  have hb : ran d' [b] y.octets y.fields = (ran d' [b] y.octets y.fields).before { decoder := d' } := by
    simp [ran, Progress.before]
  rw [Decoder.decode, List.foldl_cons, absorb_of_step hd hs, hb, Progress.before_foldl, ← hb]
  rfl

/-- A byte of the name of a chunk extension leaves the decoder there. -/
theorem decode_extName {d : Decoder} {size : Nat} {b : UInt8} (hd : d.phase = .extName size true)
    (hb : Text.isTokenByte b = true) :
    (d.decode [b]).fault = none ∧ (d.decode [b]).decoder.phase = .extName size true := by
  have hstep : d.step b = d.goto (.extName size true) := by
    rw [Decoder.step, hd]
    exact if_pos hb
  have hgoes : d.isFinished = false := by
    rw [Decoder.isFinished, hd]
    rfl
  have hdecode : d.decode [b] = ran (d.goto (.extName size true)).1 [b] [] [] :=
    absorb_of_step hgoes hstep
  rw [hdecode]
  exact ⟨rfl, rfl⟩

/-- Decoding goes on after a run as it would from where the run has ended. -/
theorem decode_append {d e : Decoder} {w data : Bytes} {fields : List Field}
    (h : Runs d w e data fields) (rest : Bytes) :
    d.decode (w ++ rest) = (ran e w data fields).before (e.decode rest) := by
  induction h with
  | refl d => simp [ran, Progress.before, Decoder.decode]
  | @cons d d' e b w data y fields hd hs _ ih =>
    calc d.decode (b :: (w ++ rest))
        = (ran d' [b] y.octets y.fields).before (d'.decode (w ++ rest)) := decode_cons_of_step hd hs (w ++ rest)
      _ = (ran e (b :: w) (y.octets ++ data) (y.fields ++ fields)).before (e.decode rest) := by
          rw [ih]
          simp only [ran, Progress.before, List.reverse_append, List.append_assoc, List.length_cons,
            List.length_nil]
          congr 1
          omega

/-- The bytes of a run are decoded as the run has it. -/
theorem decode_eq_ran {d e : Decoder} {w data : Bytes} {fields : List Field} (h : Runs d w e data fields) :
    d.decode w = ran e w data fields := by
  have hdecode := decode_append h []
  rw [List.append_nil] at hdecode
  exact hdecode.trans (Progress.before_start rfl)

/-- A decoder that has finished consumes nothing. -/
theorem decode_of_finished {d : Decoder} (h : d.isFinished) (w : Bytes) :
    d.decode w = { decoder := d } :=
  Progress.foldl_of_stopped (Or.inr h) w

/-- A run that ends the body is all that is decoded, whatever comes after its bytes. -/
theorem decode_of_runs {d e : Decoder} {w data : Bytes} {fields : List Field} (h : Runs d w e data fields)
    (he : e.isFinished = true) (more : Bytes) : d.decode (w ++ more) = ran e w data fields := by
  rw [decode_append h, decode_of_finished he]
  rfl

/-- A byte that is refused ends the decoding of an input. -/
theorem decode_of_refused {d e : Decoder} {b : UInt8} {f : Fault} (hd : d.isFinished = false)
    (hs : d.step b = (e, .error f)) (rest : Bytes) :
    d.decode (b :: rest) = { decoder := e, fault := some f } := by
  have habsorb : Progress.absorb { decoder := d } b = { decoder := e, fault := some f } := by
    simp only [Progress.absorb, hd, hs]
    rfl
  rw [Decoder.decode, List.foldl_cons, habsorb, Progress.foldl_of_stopped (Or.inl rfl)]

theorem reset_decode (d : Decoder) (input : Bytes) : (d.decode input).decoder.reset = d.reset := by
  have h : ∀ (w : Bytes) (p : Progress), (w.foldl Progress.absorb p).decoder.reset = p.decoder.reset := by
    intro w
    induction w with
    | nil => exact fun p => rfl
    | cons b w ih =>
      intro p
      rw [List.foldl_cons, ih, Progress.reset_absorb]
  exact h input { decoder := d }

theorem limits_decode (d : Decoder) (input : Bytes) :
    (d.decode input).decoder.maxBody = d.maxBody ∧ (d.decode input).decoder.maxTrailer = d.maxTrailer :=
  limits_of_reset (reset_decode d input)

/-! ## Data in one go -/

/-- Octets that do not complete the data of a chunk. -/
theorem runs_data {d : Decoder} {w : Bytes} {left : Nat} (h : w.length < left) :
    Runs { d with phase := .data left } w
      { d with phase := .data (left - w.length), total := d.total + w.length } w [] := by
  induction w generalizing d left with
  | nil => exact .refl _
  | cons b w ih =>
    rw [List.length_cons] at h
    have hs : Decoder.step { d with phase := .data left } b =
        ({ d with phase := .data (left - 1), total := d.total + 1 }, .ok (.octet b)) := by
      simp only [Decoder.step, if_neg (show ¬ left = 1 by omega)]
    have hlen : w.length < left - 1 := by omega
    have hr := ih (d := { d with total := d.total + 1 }) hlen
    rw [Nat.sub_sub, Nat.add_assoc, Nat.add_comm 1] at hr
    exact Runs.cons (y := .octet b) rfl hs hr

/-- Octets that complete the data of a chunk. -/
theorem runs_octets {d : Decoder} {octets : Bytes} (h : octets ≠ []) :
    Runs { d with phase := .data octets.length } octets
      { d with phase := .dataReturn, total := d.total + octets.length } octets [] := by
  induction octets generalizing d with
  | nil => exact absurd rfl h
  | cons b octets ih =>
    cases octets with
    | nil => exact Runs.cons (y := .octet b) rfl rfl (.refl _)
    | cons b' octets =>
      have := ih (d := { d with total := d.total + 1 }) (List.cons_ne_nil _ _)
      rw [Nat.add_assoc, Nat.add_comm 1] at this
      exact Runs.cons (y := .octet b) rfl rfl this

/-- The decoder after `n` octets of data, of which `left` complete the chunk. -/
def Decoder.afterData (d : Decoder) (left n : Nat) : Decoder :=
  { d with phase := if n < left then .data (left - n) else .dataReturn, total := d.total + min left n }

/-- In the data of a chunk, all that is there of it is taken as if in one go. -/
theorem runs_of_data {d : Decoder} {left : Nat} (hd : d.phase = .data left) (hl : 0 < left) (input : Bytes) :
    Runs d (input.take left) (d.afterData left input.length) (input.take left) [] := by
  rw [show d = { d with phase := .data left } by rw [← hd], Decoder.afterData]
  by_cases hn : input.length < left
  · rw [if_pos hn, List.take_of_length_le (Nat.le_of_lt hn), Nat.min_eq_right (Nat.le_of_lt hn)]
    exact runs_data hn
  · have hlen : (input.take left).length = left := List.length_take_of_le (Nat.le_of_not_lt hn)
    have hne : input.take left ≠ [] := List.ne_nil_of_length_pos (hlen.symm ▸ hl)
    rw [if_neg hn, Nat.min_eq_left (Nat.le_of_not_lt hn)]
    have := runs_octets (d := d) hne
    rwa [hlen] at this

/-! ## Input in pieces -/

/-- Decodes an input piece by piece, until a byte is refused. -/
def Decoder.decodePieces (d : Decoder) : List Bytes → Progress
  | [] => { decoder := d }
  | piece :: rest =>
    let p := d.decode piece
    if p.fault.isSome then p else p.before (p.decoder.decodePieces rest)

theorem decode_cut (d : Decoder) (a b : Bytes) :
    d.decode (a ++ b) =
      if (d.decode a).fault.isSome then d.decode a
      else (d.decode a).before ((d.decode a).decoder.decode b) := by
  have h : d.decode (a ++ b) = b.foldl Progress.absorb (d.decode a) := List.foldl_append
  rw [h]
  split
  · next hf => exact Progress.foldl_of_stopped (Or.inl hf) b
  · next hf =>
    have hb := Progress.before_start (p := d.decode a) (by simpa using hf)
    rw [Decoder.decode, Decoder.decode, ← Progress.before_foldl]
    exact congrArg (b.foldl Progress.absorb) hb.symm

/-- Nothing after the end of the body, or after a byte that was refused, changes anything. -/
theorem decode_append_of_stopped {d : Decoder} {a : Bytes}
    (h : (d.decode a).fault.isSome ∨ (d.decode a).decoder.isFinished) (b : Bytes) :
    d.decode (a ++ b) = d.decode a := by
  have := Progress.foldl_of_stopped h b
  rw [Decoder.decode, ← List.foldl_append] at this
  exact this

/-- How an input is cut into pieces does not matter. -/
theorem decodePieces_eq (d : Decoder) (pieces : List Bytes) :
    d.decodePieces pieces = d.decode pieces.flatten := by
  induction pieces generalizing d with
  | nil => rfl
  | cons piece rest ih =>
    rw [List.flatten_cons, decode_cut, ← ih]
    rfl

/-! ## Decoding as a run -/

/-- An input falls into the bytes of a run and a rest that is empty, comes after the end of the body, or
starts with a byte that is refused. -/
theorem exists_runs (d : Decoder) (input : Bytes) :
    ∃ w rest e data fields, input = w ++ rest ∧ Runs d w e data fields ∧
      (rest = [] ∨ e.isFinished = true ∨
        ∃ b r e' f, rest = b :: r ∧ e.isFinished = false ∧ e.step b = (e', .error f)) := by
  induction input generalizing d with
  | nil => exact ⟨[], [], d, [], [], rfl, .refl d, Or.inl rfl⟩
  | cons b input ih =>
    by_cases hd : d.isFinished = true
    · exact ⟨[], b :: input, d, [], [], rfl, .refl d, Or.inr (Or.inl hd)⟩
    have hd : d.isFinished = false := by simpa using hd
    rcases hs : d.step b with ⟨d', f | y⟩
    · exact ⟨[], b :: input, d, [], [], rfl, .refl d, Or.inr (Or.inr ⟨b, input, d', f, rfl, hd, hs⟩)⟩
    · obtain ⟨w, rest, e, data, fields, rfl, hr, hstop⟩ := ih d'
      exact ⟨b :: w, rest, e, _, _, rfl, .cons hd hs hr, hstop⟩

/-- What decoding an input comes to: the progress of a run over the input, or up to the end of the body, or up
to a byte that is refused. -/
theorem decode_cases (d : Decoder) (input : Bytes) :
    ∃ w rest e data fields, input = w ++ rest ∧ Runs d w e data fields ∧
      (((rest = [] ∨ e.isFinished = true) ∧ d.decode input = ran e w data fields) ∨
        ∃ e' f, d.decode input = { ran e w data fields with decoder := e', fault := some f }) := by
  obtain ⟨w, rest, e, data, fields, rfl, hr, hstop⟩ := exists_runs d input
  refine ⟨w, rest, e, data, fields, rfl, hr, ?_⟩
  rw [decode_append hr]
  rcases hstop with rfl | hfin | ⟨b, r, e', f, rfl, hfin, hs⟩
  · exact Or.inl ⟨Or.inl rfl, by simp [ran, Progress.before, Decoder.decode]⟩
  · exact Or.inl ⟨Or.inr hfin, by simp [decode_of_finished hfin, ran, Progress.before]⟩
  · refine Or.inr ⟨e', f, ?_⟩
    rw [decode_of_refused hfin hs]
    simp [ran, Progress.before]

/-- What an input is refused for is what the other side has sent. -/
theorem category_of_decode {d : Decoder} {input : Bytes} {f : Fault} (h : (d.decode input).fault = some f) :
    f.category = .clientData := by
  obtain ⟨w, rest, e, data, fields, rfl, hr, hstop⟩ := exists_runs d input
  rw [decode_append hr] at h
  rcases hstop with rfl | hfin | ⟨b, r, e', g, rfl, hfin, hs⟩
  · exact absurd h (by simp [Progress.before, ran, Decoder.decode])
  · rw [decode_of_finished hfin] at h
    exact absurd h (by simp [Progress.before, ran])
  · rw [decode_of_refused hfin hs] at h
    obtain rfl : g = f := by simpa [Progress.before] using h
    exact category_of_step hs

theorem result_ran (e : Decoder) (w data : Bytes) (fields : List Field) :
    (ran e w data fields).result = .ok w.length := rfl

@[simp] theorem data_ran (e : Decoder) (w data : Bytes) (fields : List Field) :
    (ran e w data fields).data = data := List.reverse_reverse _

@[simp] theorem trailers_ran (e : Decoder) (w data : Bytes) (fields : List Field) :
    (ran e w data fields).trailers = fields := List.reverse_reverse _

/-- Decoding without a fault is a run over the bytes that it consumes, which are all there are unless the body
has ended. -/
theorem runs_of_decode {d : Decoder} {input : Bytes} {n : Nat} (h : (d.decode input).result = .ok n) :
    n ≤ input.length ∧
      Runs d (input.take n) (d.decode input).decoder (d.decode input).data (d.decode input).trailers ∧
      (n = input.length ∨ (d.decode input).decoder.isFinished = true) := by
  obtain ⟨w, rest, e, data, fields, rfl, hr, ⟨hstop, hdec⟩ | ⟨e', f, hdec⟩⟩ := decode_cases d input
  · rw [hdec, result_ran, Except.ok.injEq] at h
    subst h
    rw [hdec, data_ran, trailers_ran, List.take_left]
    refine ⟨by simp, hr, ?_⟩
    rcases hstop with rfl | hfin
    · exact Or.inl (by simp)
    · exact Or.inr hfin
  · rw [hdec] at h
    simp [Progress.result] at h

theorem result_of_fault {p : Progress} (h : p.fault = none) : p.result = .ok p.consumed := by
  rw [Progress.result, h]

theorem consumed_le {d : Decoder} {input : Bytes} (h : (d.decode input).fault = none) :
    (d.decode input).consumed ≤ input.length :=
  (runs_of_decode (result_of_fault h)).1

theorem consumed_of_not_finished {d : Decoder} {input : Bytes} (h : (d.decode input).fault = none)
    (hfin : (d.decode input).decoder.isFinished = false) :
    (d.decode input).consumed = input.length := by
  obtain ⟨-, -, hall | hall⟩ := runs_of_decode (result_of_fault h)
  · exact hall
  · rw [hfin] at hall
    exact absurd hall (by simp)

end Switchboard.Http.Chunk
