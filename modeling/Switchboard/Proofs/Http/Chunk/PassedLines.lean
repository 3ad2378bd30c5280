import Switchboard.Proofs.Http.Chunk.Calls

/-!
What the decoder makes of the line before a chunk. `EndsLine p w size` says that the bytes `w` take the decoder from the
phase `p` to the end of the line, with the size announced then. A line with a byte out of place is refused
(`endsLine_or_refused`), and so is one with too large a size; all others are passed (`sizeLine_passed_iff`). The lines
that are passed and are not as RFC 7230 has them are those whose parts are not strict.
-/

namespace Switchboard.Http.Chunk

/-! ## Bytes of a line -/

/-- A phase before the end of the line. -/
def InLine : Phase → Prop
  | .sizeStart | .size _ | .extName .. | .extValue .. | .sizeBlank _ => True
  | _ => False

/-- What may follow a phase up to the end of the line, for a size. -/
def EndsLine : Phase → Bytes → Nat → Prop
  | .sizeStart, w, size => ∃ l : SizeLine, l.Follows size ∧ w = l.text
  | .size n, w, size =>
    ∃ digits blanks v, readHex? n digits = some size ∧ (∀ b ∈ blanks, IsBlankByte b) ∧ AreExtensions v ∧
      w = digits ++ (blanks ++ v)
  | .sizeBlank n, w, size =>
    n = size ∧ ∃ blanks v, (∀ b ∈ blanks, IsBlankByte b) ∧ AreExtensions v ∧ w = blanks ++ v
  | .extName n false, w, size =>
    n = size ∧ ∃ (e : ExtensionPart) (v : Bytes), e.Follows ∧ AreExtensions v ∧ 59 :: w = e.wire ++ v
  | .extName n true, w, size =>
    n = size ∧ ∃ (more : Bytes) (value : NameEnd) (v : Bytes), (∀ b ∈ more, Text.isTokenByte b = true) ∧
      value.Follows ∧ AreExtensions v ∧ w = more ++ (value.wire ++ v)
  | .extValue n .start, w, size =>
    n = size ∧ ∃ (value : NameEnd) (v : Bytes), value.Follows ∧ AreExtensions v ∧ 61 :: w = value.wire ++ v
  | .extValue n .inside, w, size =>
    n = size ∧ ∃ more v, (∀ b ∈ more, Text.isTokenByte b = true) ∧ AreExtensions v ∧ w = more ++ v
  | .extValue n .quoted, w, size =>
    n = size ∧ ∃ (items : List QuotedItem) (after v : Bytes), (∀ i ∈ items, i.Follows) ∧
      (∀ b ∈ after, Text.isTokenByte b = true) ∧ AreExtensions v ∧
      w = items.flatMap QuotedItem.wire ++ 34 :: (after ++ v)
  | .extValue n .escaped, w, size =>
    n = size ∧ ∃ (b : UInt8) (items : List QuotedItem) (after v : Bytes), (∀ i ∈ items, i.Follows) ∧
      (∀ b ∈ after, Text.isTokenByte b = true) ∧ AreExtensions v ∧
      w = b :: (items.flatMap QuotedItem.wire ++ 34 :: (after ++ v))
  | _, _, _ => False

/-- What may follow a byte, with the byte before it, may follow the phase in which the byte was taken. -/
theorem endsLine_of_moves {p q : Phase} {b : UInt8} {y : Yield} {w : Bytes} {size : Nat} (hp : InLine p)
    (hm : Moves p b q y) (h : EndsLine q w size) : EndsLine p (b :: w) size := by
  cases hm with
  | firstDigit hb =>
    obtain ⟨digits, blanks, v, hr, hblanks, ⟨es, hes, rfl⟩, rfl⟩ := h
    have hd : readHex? 0 (b :: digits) = some size := by
      rw [readHex?, hb]
      simpa using hr
    exact ⟨⟨b :: digits, blanks, es⟩, ⟨⟨List.cons_ne_nil _ _, hd⟩, hblanks, hes⟩, rfl⟩
  | digit n hb =>
    obtain ⟨digits, blanks, v, hr, hblanks, hv, rfl⟩ := h
    refine ⟨b :: digits, blanks, v, ?_, hblanks, hv, rfl⟩
    rw [readHex?, hb]
    exact hr
  | sizeExtension n =>
    obtain ⟨rfl, e, v, he, hv, hw⟩ := h
    exact ⟨[], [], e.wire ++ v, rfl, by simp, areExtensions_cons he hv, hw⟩
  | sizeBlank n hb =>
    obtain ⟨rfl, blanks, v, hblanks, hv, rfl⟩ := h
    exact ⟨[], b :: blanks, v, rfl, List.forall_mem_cons.2 ⟨hb, hblanks⟩, hv, rfl⟩
  | blankExtension n =>
    obtain ⟨rfl, e, v, he, hv, hw⟩ := h
    exact ⟨rfl, [], e.wire ++ v, by simp, areExtensions_cons he hv, hw⟩
  | blank n hb =>
    obtain ⟨rfl, blanks, v, hblanks, hv, rfl⟩ := h
    exact ⟨rfl, b :: blanks, v, List.forall_mem_cons.2 ⟨hb, hblanks⟩, hv, rfl⟩
  | nameBlank n hb =>
    obtain ⟨rfl, e, v, he, hv, hw⟩ := h
    have hblanks : ∀ x ∈ b :: e.blanks, x = 32 ∨ x = 9 := List.forall_mem_cons.2 ⟨hb, he.blanks⟩
    refine ⟨rfl, ⟨b :: e.blanks, e.name, e.value⟩, v, ⟨hblanks, he.name, he.value⟩, hv, ?_⟩
    rw [(List.cons.inj hw).2]
    rfl
  | name n begun hb =>
    obtain ⟨rfl, more, value, v, hmore, hvalue, hv, rfl⟩ := h
    have hname : ∀ x ∈ b :: more, Text.isTokenByte x = true := List.forall_mem_cons.2 ⟨hb, hmore⟩
    cases begun with
    | false =>
      refine ⟨rfl, ⟨[], b :: more, value⟩, v, ⟨by simp, ⟨List.cons_ne_nil _ _, hname⟩, hvalue⟩, hv, ?_⟩
      simp [ExtensionPart.wire]
    | true => exact ⟨rfl, b :: more, value, v, hname, hvalue, hv, rfl⟩
  | nameValue n =>
    obtain ⟨rfl, value, v, hvalue, hv, hw⟩ := h
    exact ⟨rfl, [], value, v, by simp, hvalue, hv, hw⟩
  | nameExtension n =>
    obtain ⟨rfl, e, v, he, hv, hw⟩ := h
    exact ⟨rfl, [], .bare, e.wire ++ v, by simp, trivial, areExtensions_cons he hv, hw⟩
  | openQuote n =>
    obtain ⟨rfl, items, after, v, hitems, hafter, hv, rfl⟩ := h
    refine ⟨rfl, .quoted items after, v, ⟨hitems, hafter⟩, hv, ?_⟩
    simp [NameEnd.wire]
  | value n u hu hb =>
    obtain ⟨rfl, more, v, hmore, hv, rfl⟩ := h
    have hvalue : ∀ x ∈ b :: more, Text.isTokenByte x = true := List.forall_mem_cons.2 ⟨hb, hmore⟩
    rcases hu with rfl | rfl
    · exact ⟨rfl, .token (b :: more), v, ⟨List.cons_ne_nil _ _, hvalue⟩, hv, rfl⟩
    · exact ⟨rfl, b :: more, v, hvalue, hv, rfl⟩
  | valueExtension n =>
    obtain ⟨rfl, e, v, he, hv, hw⟩ := h
    exact ⟨rfl, [], e.wire ++ v, by simp, areExtensions_cons he hv, hw⟩
  | escape n =>
    obtain ⟨rfl, x, items, after, v, hitems, hafter, hv, rfl⟩ := h
    exact ⟨rfl, .pair x :: items, after, v, List.forall_mem_cons.2 ⟨trivial, hitems⟩, hafter, hv, rfl⟩
  | closeQuote n =>
    obtain ⟨rfl, more, v, hmore, hv, rfl⟩ := h
    exact ⟨rfl, [], more, v, by simp, hmore, hv, rfl⟩
  | quoted n hb =>
    obtain ⟨rfl, items, after, v, hitems, hafter, hv, rfl⟩ := h
    exact ⟨rfl, .plain b :: items, after, v, List.forall_mem_cons.2 ⟨hb, hitems⟩, hafter, hv, rfl⟩
  | escaped n =>
    obtain ⟨rfl, items, after, v, hitems, hafter, hv, rfl⟩ := h
    exact ⟨rfl, _, items, after, v, hitems, hafter, hv, rfl⟩
  | _ => first | exact h.elim | exact hp.elim

/-- A byte of the line goes on in the line, or it is the carriage return after it. -/
theorem inLine_of_moves {p q : Phase} {b : UInt8} {y : Yield} (hp : InLine p) (hm : Moves p b q y) :
    InLine q ∨ b = 13 ∧ ∃ n, q = .lineFeed n ∧ EndsLine p [] n := by
  cases hm with
  | sizeReturn n => exact Or.inr ⟨rfl, n, rfl, [], [], [], rfl, by simp, areExtensions_nil, rfl⟩
  | blankReturn n => exact Or.inr ⟨rfl, n, rfl, rfl, [], [], by simp, areExtensions_nil, rfl⟩
  | nameReturn n => exact Or.inr ⟨rfl, n, rfl, rfl, [], .bare, [], by simp, trivial, areExtensions_nil, rfl⟩
  | valueReturn n => exact Or.inr ⟨rfl, n, rfl, rfl, [], [], by simp, areExtensions_nil, rfl⟩
  | _ => first | exact Or.inl trivial | exact hp.elim

/-! ## Refused lines -/

/-- The faults of a line: a byte out of place, or a size that is too large. -/
def LineFault (d : Decoder) (f : Fault) : Prop := f.family = .invalidChunk ∨ f = .bodyTooLarge d.maxBody

section Line

variable {d e : Decoder} {b : UInt8} {f : Fault} {line : Bytes} {size : Nat}

theorem lineFault_of_unexpected (h : d.unexpected b = (e, .error f)) : LineFault d f := by
  obtain ⟨-, h⟩ := Prod.mk.inj h
  obtain rfl := Except.error.inj h
  exact Or.inl rfl

theorem not_goto {p : Phase} : d.goto p ≠ (e, .error f) := by simp [Decoder.goto]

theorem lineFault_of_takeDigit {n k : Nat} (h : d.takeDigit n k = (e, .error f)) : LineFault d f := by
  rw [Decoder.takeDigit] at h
  split at h
  · exact absurd h not_goto
  · next f' hg =>
    obtain rfl := Except.error.inj (Prod.mk.inj h).2
    simp only [Decoder.grow] at hg
    split_ifs at hg
    · obtain rfl := Except.error.inj hg
      exact Or.inl rfl
    · obtain rfl := Except.error.inj hg
      exact Or.inr rfl

theorem lineFault_of_step (hp : InLine d.phase) (h : d.step b = (e, .error f)) : LineFault d f := by
  have hafter : ∀ {n r}, d.afterSize? n b = some r → r ≠ (e, .error f) := by
    intro n r hr he
    have hok := (eq_of_afterSize? hr).2
    rw [he] at hok
    exact absurd hok (by simp)
  rcases hphase : d.phase with _ | n | ⟨n, begun⟩ | ⟨n, v⟩ | n | _ | _ | _ | _ | _ | _ | _ | _ | _
  case sizeStart =>
    simp only [Decoder.step, hphase] at h
    split at h
    · exact lineFault_of_takeDigit h
    · exact lineFault_of_unexpected h
  case size =>
    simp only [Decoder.step, hphase] at h
    split at h
    · next r hr => exact absurd h (hafter hr)
    · split at h
      · exact lineFault_of_takeDigit h
      · exact lineFault_of_unexpected h
  case sizeBlank =>
    simp only [Decoder.step, hphase] at h
    rcases hr : d.afterSize? n b with _ | r <;> rw [hr] at h
    · exact lineFault_of_unexpected h
    · exact absurd h (hafter hr)
  case extName =>
    cases begun <;> simp only [Decoder.step, hphase] at h <;> split_ifs at h <;>
      first | exact absurd h not_goto | exact lineFault_of_unexpected h
  case extValue =>
    cases v <;> simp only [Decoder.step, hphase, Decoder.stepExtValue] at h <;> (try split_ifs at h) <;>
      first | exact absurd h not_goto | exact lineFault_of_unexpected h
  all_goals
    rw [hphase] at hp
    exact hp.elim

theorem lineFault_of_lineFeed {n : Nat} (hp : d.phase = .lineFeed n) (h : d.step b = (e, .error f)) :
    LineFault d f := by
  simp only [Decoder.step, hp] at h
  split at h
  · exact absurd h not_goto
  · exact lineFault_of_unexpected h

/-- A byte that is taken leaves what is said of the bytes after it. -/
theorem refused_after {y : Yield} {w : Bytes} (hfin : d.isFinished = false) (hs : d.step b = (e, .ok y))
    (h : ∃ f, (e.decode w).fault = some f ∧ LineFault e f) :
    ∃ f, (d.decode (b :: w)).fault = some f ∧ LineFault d f := by
  obtain ⟨f, hf, hkind⟩ := h
  refine ⟨f, ?_, ?_⟩
  · rw [decode_cons_of_step hfin hs]
    exact hf
  · exact hkind.imp_right fun h => h.trans (congrArg Fault.bodyTooLarge (limits_of_step hs).1)

theorem refused_here {w : Bytes} (hfin : d.isFinished = false) (hs : d.step b = (e, .error f)) (hf : LineFault d f) :
    ∃ f, (d.decode (b :: w)).fault = some f ∧ LineFault d f := by
  refine ⟨f, ?_, hf⟩
  rw [decode_of_refused hfin hs]

theorem InLine.isFinished (hp : InLine d.phase) : d.isFinished = false := by
  rw [Decoder.isFinished, beq_eq_false_iff_ne]
  intro hphase
  rw [hphase] at hp
  exact hp

theorem isFinished_of_lineFeed {n : Nat} (hp : d.phase = .lineFeed n) : d.isFinished = false := by
  rw [Decoder.isFinished, hp]
  rfl

/-- A carriage return ends the line, or comes after a backslash, and a line feed does not go on in a quoted string. -/
theorem lineFeed_of_moves {p q r : Phase} {y z : Yield} (hp : InLine p) (hm : Moves p 13 q y) (hn : Moves q 10 r z) :
    ∃ n, q = .lineFeed n ∧ EndsLine p [] n := by
  rcases inLine_of_moves hp hm with hq | ⟨-, hq⟩
  · exfalso
    cases hm with
    | firstDigit hb | digit _ hb =>
      rw [show Text.hexValue? 13 = none by decide] at hb
      cases hb
    | sizeBlank _ hb | blank _ hb | nameBlank _ hb => exact absurd hb (by decide)
    | name _ _ hb => exact absurd hb (by decide)
    | value _ _ _ hb => exact absurd hb (by decide)
    | quoted _ hb => exact absurd hb (by decide)
    | escaped =>
      cases hn with
      | quoted _ hb => exact absurd hb (by decide)
      | value _ _ hv => exact absurd hv (by simp)
    | _ => exact hq.elim
  · exact hq

/-- A line is refused, or it is what may follow the phase for some size. -/
theorem endsLine_or_refused (hp : InLine d.phase) (hline : ¬ Text.crlf <:+: line) :
    (∃ size, EndsLine d.phase line size) ∨
      ∃ f, (d.decode (line ++ Text.crlf)).fault = some f ∧ LineFault d f := by
  induction line generalizing d with
  | nil =>
    rcases hs : d.step 13 with ⟨e, f | y⟩
    · exact Or.inr (refused_here hp.isFinished hs (lineFault_of_step hp hs))
    have hm := moves_of_step hp.isFinished hs
    have hfin : e.isFinished = false := by
      rcases inLine_of_moves hp hm with hq | ⟨-, n, hq, -⟩
      · exact hq.isFinished
      · exact isFinished_of_lineFeed hq
    rcases hs' : e.step 10 with ⟨e', f | z⟩
    · refine Or.inr (refused_after hp.isFinished hs (refused_here hfin hs' ?_))
      rcases inLine_of_moves hp hm with hq | ⟨-, n, hq, -⟩
      · exact lineFault_of_step hq hs'
      · exact lineFault_of_lineFeed hq hs'
    · obtain ⟨n, -, hends⟩ := lineFeed_of_moves hp hm (moves_of_step hfin hs')
      exact Or.inl ⟨n, hends⟩
  | cons b line ih =>
    rcases hs : d.step b with ⟨e, f | y⟩
    · exact Or.inr (refused_here hp.isFinished hs (lineFault_of_step hp hs))
    have hm := moves_of_step hp.isFinished hs
    rcases inLine_of_moves hp hm with hq | ⟨rfl, n, hq, -⟩
    · rcases ih hq fun hi => hline (List.infix_cons hi) with ⟨size, hends⟩ | hrefused
      · exact Or.inl ⟨size, endsLine_of_moves hp hm hends⟩
      · exact Or.inr (refused_after hp.isFinished hs hrefused)
    -- a carriage return with another byte than a line feed after it
    · obtain ⟨c, w, hw⟩ := List.exists_cons_of_ne_nil (l := line ++ Text.crlf) (by simp [Text.crlf])
      have hc : c ≠ 10 := by
        rintro rfl
        cases line with
        | nil => exact absurd (List.cons.inj hw).1 (by decide)
        | cons x line =>
          obtain ⟨rfl, -⟩ := List.cons.inj hw
          exact hline ⟨[], line, rfl⟩
      have hstep : e.step c = (e, .error (.chunkByte c e.phase)) := by
        simp only [Decoder.step, hq, if_neg hc]
        rw [← hq]
        rfl
      rw [List.cons_append, hw]
      exact Or.inr (refused_after hp.isFinished hs (refused_here (isFinished_of_lineFeed hq) hstep (Or.inl rfl)))

end Line

/-! ## Lines that are passed -/

/-- The decoder past a line: at the data of a chunk, or at the trailer lines. -/
def Decoder.past (d : Decoder) (size : Nat) : Decoder :=
  { d with phase := if 0 < size then .data size else .trailerStart }

/-- A line with its line end is taken as one, and announces the size. -/
def Decoder.Passes (d : Decoder) (line : Bytes) (size : Nat) : Prop :=
  d.decode (line ++ Text.crlf) = ran (d.past size) (line ++ Text.crlf) [] []

section Passed

variable {d : Decoder} {l : SizeLine} {size : Nat}

theorem passes_unique {line : Bytes} {m n : Nat} (hm : d.Passes line m) (hn : d.Passes line n) : m = n := by
  have hpast : (d.past m).phase = (d.past n).phase :=
    congrArg (fun p : Progress => p.decoder.phase) (hm.symm.trans hn)
  simp only [Decoder.past] at hpast
  split_ifs at hpast
  · exact Phase.data.inj hpast
  · omega

theorem fault_of_passes {line : Bytes} (h : d.Passes line size) : (d.decode (line ++ Text.crlf)).fault = none := by
  rw [h]
  rfl

/-- A line is passed if its size is within what is left of the limit. -/
theorem passes_of_follows (hphase : d.phase = .sizeStart) (hl : l.Follows size) (hw : d.maxBody < Text.wordSize)
    (hle : size ≤ d.maxBody - d.total) : d.Passes l.text size := by
  have hd : { d with phase := .sizeStart } = d := by rw [← hphase]
  have hend : Runs { d with phase := .lineFeed size } [10] (d.past size) [] [] := Runs.step rfl rfl (.refl _)
  have hruns := (runs_line hl (by omega) hle).append hend
  rw [hd, List.append_assoc] at hruns
  exact decode_eq_ran hruns

/-- A line is refused if its size is beyond what is left of the limit. -/
theorem refused_of_excess (hphase : d.phase = .sizeStart) (hl : l.Follows size) (hw : d.maxBody < Text.wordSize)
    (hgt : d.maxBody - d.total < size) (rest : Bytes) :
    ∃ f, (d.decode (l.text ++ rest)).fault = some f ∧ LineFault d f := by
  have hsofar : d.phase.sizeSoFar? = some 0 := by
    rw [hphase]
    rfl
  obtain ⟨f, hf, hkind⟩ := decode_size_refused hsofar hl.digits.1 hl.digits.2 hw hgt
  have hstop := decode_append_of_stopped (Or.inl (by rw [hf]; rfl))
    (l.blanks ++ l.extensions.flatMap ExtensionPart.wire ++ rest)
  rw [← List.append_assoc, ← SizeLine.text] at hstop
  refine ⟨f, by rw [hstop, hf], ?_⟩
  rcases hkind with rfl | rfl
  · exact Or.inl rfl
  · exact Or.inr rfl

end Passed

/-- Which lines are passed before a chunk, what they say, and what becomes of the others. A line is passed just if it
has the parts that the decoder asks for, and if so, it is as RFC 7230 has it just if its parts are strict. -/
theorem sizeLine_passed_iff (maxBody : UInt64) {d : Decoder} (hbody : d.maxBody = maxBody.toNat)
    (hphase : d.phase = .sizeStart) {line : Bytes} (hline : ¬ Text.crlf <:+: line) :
    (∀ size, d.Passes line size ↔
      ∃ l : SizeLine, l.Follows size ∧ line = l.text ∧ size ≤ d.maxBody - d.total) ∧
    (∀ l : SizeLine, ∀ size, l.Follows size → line = l.text →
      ((∃ (m : SizeLine) (n : Nat), m.Follows n ∧ m.Strict ∧ line = m.text) ↔ l.Strict)) ∧
    ((¬ ∃ size, d.Passes line size) → ∀ rest, ∃ f,
      (d.decode (line ++ (Text.crlf ++ rest))).fault = some f ∧ LineFault d f) := by
  have hw : d.maxBody < Text.wordSize := by
    rw [hbody]
    exact maxBody.toNat_lt
  have hin : InLine d.phase := by
    rw [hphase]
    trivial
  have hends := endsLine_or_refused hin hline
  rw [hphase] at hends
  refine ⟨?_, ?_, ?_⟩
  · intro size
    constructor
    · intro hpasses
      rcases hends with ⟨n, l, hl, rfl⟩ | ⟨f, hf, -⟩
      · by_cases hle : n ≤ d.maxBody - d.total
        · obtain rfl := passes_unique hpasses (passes_of_follows hphase hl hw hle)
          exact ⟨l, hl, rfl, hle⟩
        · obtain ⟨f, hf, -⟩ := refused_of_excess hphase hl hw (Nat.lt_of_not_le hle) Text.crlf
          rw [fault_of_passes hpasses] at hf
          exact absurd hf (by simp)
      · rw [fault_of_passes hpasses] at hf
        exact absurd hf (by simp)
    · rintro ⟨l, hl, rfl, hle⟩
      exact passes_of_follows hphase hl hw hle
  · rintro l size hl rfl
    constructor
    · rintro ⟨m, n, hm, hstrict, htext⟩
      rw [SizeLine.text_inj hl hm htext]
      exact hstrict
    · intro hstrict
      exact ⟨l, size, hl, hstrict, rfl⟩
  · intro hnot rest
    rcases hends with ⟨n, l, hl, rfl⟩ | ⟨f, hf, hkind⟩
    · refine refused_of_excess hphase hl hw (Nat.lt_of_not_le fun hle => hnot ⟨n, ?_⟩) _
      exact passes_of_follows hphase hl hw hle
    · have hstop := decode_append_of_stopped (Or.inl (by rw [hf]; rfl)) rest
      rw [List.append_assoc] at hstop
      exact ⟨f, by rw [hstop, hf], hkind⟩

/-- A quoted string with a byte after a backslash that is not one of running text. -/
def escapedNul : SizeLine := ⟨Text.utf8 "5", [], [⟨[], Text.utf8 "a", .quoted [.pair 0] []⟩]⟩

/-- A quoted string with a token right after it. -/
def quotedWithTail : SizeLine := ⟨Text.utf8 "5", [], [⟨[], Text.utf8 "a", .quoted [.plain 98] (Text.utf8 "c")⟩]⟩

theorem looseLines_passed :
    let d := (Decoder.new 16 0).start
    ∀ l ∈ [escapedNul, quotedWithTail], d.Passes l.text 5 ∧
      ¬ ∃ (m : SizeLine) (n : Nat), m.Follows n ∧ m.Strict ∧ l.text = m.text := by
  intro d
  have hlines : ∀ l : SizeLine, l.Follows 5 → ¬ l.Strict → ¬ Text.crlf <:+: l.text → d.Passes l.text 5 ∧
      ¬ ∃ (m : SizeLine) (n : Nat), m.Follows n ∧ m.Strict ∧ l.text = m.text := by
    intro l hl hstrict hline
    obtain ⟨hpassed, hunique, -⟩ := sizeLine_passed_iff 16 (d := d) rfl rfl hline
    exact ⟨(hpassed 5).2 ⟨l, hl, rfl, by decide⟩, mt (hunique l 5 hl rfl).1 hstrict⟩
  have hname : IsToken (Text.utf8 "a") := by decide +kernel
  have hsize : IsSize (Text.utf8 "5") 5 := by decide +kernel
  intro l hl
  simp only [List.mem_cons, List.not_mem_nil, or_false] at hl
  rcases hl with rfl | rfl
  · refine hlines escapedNul ⟨hsize, by simp [escapedNul], ?_⟩ ?_ (by decide +kernel)
    · simp only [escapedNul, List.forall_mem_singleton]
      exact ⟨by simp, hname, by simp [QuotedItem.Follows], by simp⟩
    · intro hstrict
      have hvalue := hstrict _ (List.mem_singleton_self _)
      exact absurd (hvalue.1 (.pair 0) (List.mem_singleton_self _)) (show ¬ IsTextByte 0 by decide)
  · refine hlines quotedWithTail ⟨hsize, by simp [quotedWithTail], ?_⟩ ?_ (by decide +kernel)
    · simp only [quotedWithTail, List.forall_mem_singleton]
      refine ⟨by simp, hname, ?_, by decide +kernel⟩
      simp only [List.forall_mem_singleton]
      exact show IsQuotable 98 by decide
    · intro hstrict
      have hvalue := hstrict _ (List.mem_singleton_self _)
      exact absurd hvalue.2 (by decide +kernel)

end Switchboard.Http.Chunk
