import Switchboard.Proofs.Http.Chunk.Moves
import Switchboard.Proofs.Http.Chunk.Runs
import Switchboard.Proofs.Http.Chunk.SizeLine

/-!
The decoder of the chunked coding accepts every chunked body within its limits. Each part of a body has a run:
the digits of a size (`runs_digits`), its extensions (`runs_extensions`), the octets of a chunk (`runs_octets`),
a trailer line (`runs_trailerLine`). They are put together in the order in which a body has them, and the
counters of the decoder say how much of the limits is used up at each joint (`runs_framed`).
-/

namespace Switchboard.Http.Chunk

variable {d : Decoder} {size : Nat}

/-! ## The size -/

theorem readHex?_le {n size : Nat} {digits : Bytes} (h : readHex? n digits = some size) : n ≤ size := by
  induction digits generalizing n with
  | nil =>
    rw [readHex?, Option.some.injEq] at h
    omega
  | cons b digits ih =>
    rw [readHex?] at h
    split at h
    · have := ih h
      omega
    · exact absurd h (by simp)

theorem takeDigit_of_le {n k : Nat} (hw : n * 16 + k < Text.wordSize)
    (hl : n * 16 + k ≤ d.maxBody - d.total) :
    d.takeDigit n k = ({ d with phase := .size (n * 16 + k) }, .ok .nothing) := by
  have hg : d.grow n k = .ok (n * 16 + k) := by
    simp only [Decoder.grow]
    rw [if_neg (by omega), if_neg (by omega)]
  rw [Decoder.takeDigit, hg]
  rfl

theorem afterSize?_of_hex {b : UInt8} {k : Nat} (n : Nat) (h : Text.hexValue? b = some k) :
    d.afterSize? n b = none := by
  have hne : ∀ c : UInt8, Text.hexValue? c = none → b ≠ c := by
    rintro c hc rfl
    rw [hc] at h
    exact absurd h (by simp)
  have hblank : ¬ (b = 32 ∨ b = 9) := not_or.2 ⟨hne 32 (by decide), hne 9 (by decide)⟩
  rw [Decoder.afterSize?, if_neg (hne 59 (by decide)), if_neg hblank, if_neg (hne 13 (by decide))]

/-- Digits are taken as long as the number that they denote is within the limits. -/
theorem runs_digits {n : Nat} {digits : Bytes} (h : readHex? n digits = some size)
    (hw : size < Text.wordSize) (hl : size ≤ d.maxBody - d.total) :
    Runs { d with phase := .size n } digits { d with phase := .size size } [] [] := by
  induction digits generalizing n with
  | nil =>
    rw [readHex?, Option.some.injEq] at h
    rw [h]
    exact .refl _
  | cons b digits ih =>
    rw [readHex?] at h
    split at h
    · next k hk =>
      have hle := readHex?_le h
      refine Runs.step rfl ?_ (ih h)
      simp only [Decoder.step, afterSize?_of_hex n hk, hk]
      exact takeDigit_of_le (by omega) (by simp only; omega)
    · exact absurd h (by simp)

theorem runs_size {digits : Bytes} (h : IsSize digits size) (hw : size < Text.wordSize)
    (hl : size ≤ d.maxBody - d.total) :
    Runs { d with phase := .sizeStart } digits { d with phase := .size size } [] [] := by
  obtain ⟨hne, h⟩ := h
  cases digits with
  | nil => exact absurd rfl hne
  | cons b digits =>
    rw [readHex?] at h
    split at h
    · next k hk =>
      have hle := readHex?_le h
      refine Runs.step rfl ?_ (runs_digits h hw hl)
      simp only [Decoder.step, hk]
      exact takeDigit_of_le (by omega) (by simp only; omega)
    · exact absurd h (by simp)

/-! ## Extensions -/

/-- A phase in which a size line may end. -/
def AtEnd (size : Nat) (p : Phase) : Prop :=
  p = .size size ∨ p = .extName size true ∨ p = .extValue size .inside

theorem step_semicolon {p : Phase} (hp : AtEnd size p) :
    Decoder.step { d with phase := p } 59 =
      ({ d with phase := .extName size false }, .ok .nothing) := by
  rcases hp with rfl | rfl | rfl <;> rfl

theorem step_return {p : Phase} (hp : AtEnd size p) :
    Decoder.step { d with phase := p } 13 = ({ d with phase := .lineFeed size }, .ok .nothing) := by
  rcases hp with rfl | rfl | rfl <;> rfl

theorem AtEnd.isFinished {p : Phase} (hp : AtEnd size p) :
    Decoder.isFinished { d with phase := p } = false := by
  rcases hp with rfl | rfl | rfl <;> rfl

/-- The name of an extension. -/
theorem runs_extName {name : Bytes} (h : IsToken name) :
    Runs { d with phase := .extName size false } name { d with phase := .extName size true } [] [] := by
  obtain ⟨hne, h⟩ := h
  have more : ∀ w : Bytes, (∀ b ∈ w, Text.isTokenByte b = true) →
      Runs { d with phase := .extName size true } w { d with phase := .extName size true } [] [] := by
    intro w hw
    induction w with
    | nil => exact .refl _
    | cons b w ih =>
      refine Runs.step rfl ?_ (ih fun x hx => hw x (List.mem_cons_of_mem b hx))
      simp only [Decoder.step]
      rw [if_pos (hw b List.mem_cons_self)]
      rfl
  cases name with
  | nil => exact absurd rfl hne
  | cons b name =>
    have hb := h b List.mem_cons_self
    refine Runs.step rfl ?_ (more name fun x hx => h x (List.mem_cons_of_mem b hx))
    simp only [Decoder.step]
    rw [if_neg (not_blank_of_token hb), if_pos hb]
    rfl

/-- The value of an extension that is a token. -/
theorem runs_extToken {v : ExtValue} (hv : v = .start ∨ v = .inside) {w : Bytes} (h : IsToken w) :
    Runs { d with phase := .extValue size v } w { d with phase := .extValue size .inside } [] [] := by
  obtain ⟨hne, h⟩ := h
  induction w generalizing v with
  | nil => exact absurd rfl hne
  | cons b w ih =>
    have hb := h b List.mem_cons_self
    have hs : Decoder.step { d with phase := .extValue size v } b =
        ({ d with phase := .extValue size .inside }, .ok .nothing) := by
      have h34 : b ≠ 34 := by rintro rfl; exact absurd hb (by decide)
      rcases hv with rfl | rfl
      · simp only [Decoder.step, Decoder.stepExtValue]
        rw [if_neg h34, if_pos hb]
        rfl
      · simp only [Decoder.step, Decoder.stepExtValue]
        rw [if_pos hb]
        rfl
    refine Runs.step rfl hs ?_
    by_cases hw : w = []
    · rw [hw]
      exact .refl _
    · exact ih (Or.inr rfl) hw fun x hx => h x (List.mem_cons_of_mem b hx)

/-- A phase in which the line may end. -/
def MayEnd (n : Nat) (p : Phase) : Prop := AtEnd n p ∨ p = .sizeBlank n

theorem MayEnd.step_semicolon {n : Nat} {p : Phase} (hp : MayEnd n p) :
    Decoder.isFinished { d with phase := p } = false ∧
      Decoder.step { d with phase := p } 59 = ({ d with phase := .extName n false }, .ok .nothing) := by
  rcases hp with hp | rfl
  · exact ⟨hp.isFinished, Chunk.step_semicolon hp⟩
  · exact ⟨rfl, rfl⟩

theorem MayEnd.step_return {n : Nat} {p : Phase} (hp : MayEnd n p) :
    Decoder.isFinished { d with phase := p } = false ∧
      Decoder.step { d with phase := p } 13 = ({ d with phase := .lineFeed n }, .ok .nothing) := by
  rcases hp with hp | rfl
  · exact ⟨hp.isFinished, Chunk.step_return hp⟩
  · exact ⟨rfl, rfl⟩

/-- Blanks after the digits. -/
theorem runs_blanks {n : Nat} {p : Phase} {blanks : Bytes} (hp : p = .size n ∨ p = .sizeBlank n)
    (h : ∀ b ∈ blanks, IsBlankByte b) :
    ∃ q, MayEnd n q ∧ Runs { d with phase := p } blanks { d with phase := q } [] [] := by
  induction blanks generalizing p with
  | nil =>
    refine ⟨p, ?_, .refl _⟩
    rcases hp with rfl | rfl
    · exact Or.inl (Or.inl rfl)
    · exact Or.inr rfl
  | cons b blanks ih =>
    obtain ⟨q, hq, hruns⟩ := ih (Or.inr rfl) fun x hx => h x (List.mem_cons_of_mem b hx)
    have hstep : Decoder.isFinished { d with phase := p } = false ∧
        Decoder.step { d with phase := p } b = ({ d with phase := .sizeBlank n }, .ok .nothing) := by
      rcases h b List.mem_cons_self with rfl | rfl <;> rcases hp with rfl | rfl <;> exact ⟨rfl, rfl⟩
    exact ⟨q, hq, Runs.step hstep.1 hstep.2 hruns⟩

/-- Blanks before the name of an extension. -/
theorem runs_nameBlanks {n : Nat} {blanks : Bytes} (h : ∀ b ∈ blanks, IsBlankByte b) :
    Runs { d with phase := .extName n false } blanks { d with phase := .extName n false } [] [] := by
  induction blanks with
  | nil => exact .refl _
  | cons b blanks ih =>
    refine Runs.step rfl ?_ (ih fun x hx => h x (List.mem_cons_of_mem b hx))
    rcases h b List.mem_cons_self with rfl | rfl <;> rfl

/-- The inside of a quoted string and the quote that closes it. -/
theorem runs_items {n : Nat} {items : List QuotedItem} (h : ∀ i ∈ items, i.Follows) :
    Runs { d with phase := .extValue n .quoted } (items.flatMap QuotedItem.wire ++ [34])
      { d with phase := .extValue n .inside } [] [] := by
  induction items with
  | nil => exact Runs.step rfl rfl (.refl _)
  | cons i items ih =>
    have ih := ih fun x hx => h x (List.mem_cons_of_mem i hx)
    have hi := h i List.mem_cons_self
    cases i with
    | pair b => exact Runs.step rfl rfl (Runs.step rfl rfl ih)
    | plain b =>
      obtain ⟨ht, h34, h92⟩ : IsQuotable b := hi
      refine Runs.step rfl ?_ ih
      simp only [Decoder.step, Decoder.stepExtValue]
      rw [if_neg h92, if_neg h34, if_pos (isTextByte_iff.2 ht)]
      rfl

theorem runs_afterQuote {n : Nat} {after : Bytes} (h : ∀ b ∈ after, Text.isTokenByte b = true) :
    Runs { d with phase := .extValue n .inside } after { d with phase := .extValue n .inside } [] [] := by
  by_cases hne : after = []
  · rw [hne]
    exact .refl _
  · exact runs_extToken (Or.inr rfl) ⟨hne, h⟩

/-- What comes after the name of an extension. -/
theorem runs_nameEnd {n : Nat} {v : NameEnd} (h : v.Follows) :
    ∃ q, MayEnd n q ∧ Runs { d with phase := .extName n true } v.wire { d with phase := q } [] [] := by
  cases v with
  | bare => exact ⟨_, Or.inl (Or.inr (Or.inl rfl)), .refl _⟩
  | token w =>
    exact ⟨_, Or.inl (Or.inr (Or.inr rfl)), Runs.step rfl rfl (runs_extToken (Or.inl rfl) h)⟩
  | quoted items after =>
    have hruns := (runs_items (d := d) (n := n) h.1).append (runs_afterQuote h.2)
    rw [List.append_assoc] at hruns
    exact ⟨_, Or.inl (Or.inr (Or.inr rfl)), Runs.step rfl rfl (Runs.step rfl rfl hruns)⟩

/-- Extensions go from where the line may end to where it may end. -/
theorem runs_extensions {n : Nat} {p : Phase} {es : List ExtensionPart} (hp : MayEnd n p) (h : ∀ e ∈ es, e.Follows) :
    ∃ q, MayEnd n q ∧
      Runs { d with phase := p } (es.flatMap ExtensionPart.wire) { d with phase := q } [] [] := by
  induction es generalizing p with
  | nil => exact ⟨p, hp, .refl _⟩
  | cons e es ih =>
    have he := h e List.mem_cons_self
    obtain ⟨q, hq, hvalue⟩ := runs_nameEnd (d := d) (n := n) he.value
    obtain ⟨r, hr, hrest⟩ := ih hq fun x hx => h x (List.mem_cons_of_mem e hx)
    obtain ⟨hfin, hstep⟩ := hp.step_semicolon (d := d)
    have hruns := (runs_nameBlanks (d := d) (n := n) he.blanks).append
      ((runs_extName he.name).append (hvalue.append hrest))
    refine ⟨r, hr, ?_⟩
    have := Runs.step hfin hstep hruns
    simpa [ExtensionPart.wire] using this

/-- A line up to its line feed. -/
theorem runs_line {l : SizeLine} (hl : l.Follows size) (hw : size < Text.wordSize)
    (hle : size ≤ d.maxBody - d.total) :
    Runs { d with phase := .sizeStart } (l.text ++ [13]) { d with phase := .lineFeed size } [] [] := by
  obtain ⟨p, hp, hblanks⟩ := runs_blanks (d := d) (n := size) (Or.inl rfl) hl.blanks
  obtain ⟨q, hq, hextensions⟩ := runs_extensions (d := d) hp hl.extensions
  obtain ⟨hfin, hreturn⟩ := hq.step_return (d := d)
  exact ((runs_size hl.digits hw hle).append (hblanks.append hextensions)).append (Runs.step hfin hreturn (.refl _))

/-- A size line up to its line feed. -/
theorem runs_sizeLine {digits ext : Bytes} (hd : IsSize digits size) (he : Extension ext)
    (hw : size < Text.wordSize) (hl : size ≤ d.maxBody - d.total) :
    Runs { d with phase := .sizeStart } (digits ++ (ext ++ [13])) { d with phase := .lineFeed size }
      [] [] := by
  obtain ⟨es, hes, rfl⟩ := areExtensions_of_extension he
  have hruns := runs_line (l := ⟨digits, [], es⟩) ⟨hd, by simp, hes⟩ hw hl
  rw [SizeLine.text, List.append_assoc] at hruns
  exact hruns

/-! ## Chunks -/

/-- A chunk within what is left of the limit. -/
theorem runs_part {c : Part} (h : c.Follows Extension) (hw : d.maxBody < Text.wordSize)
    (hl : c.octets.length ≤ d.maxBody - d.total) :
    Runs { d with phase := .sizeStart } c.wire
      { d with phase := .sizeStart, total := d.total + c.octets.length } c.octets [] := by
  have hline := runs_sizeLine h.size h.extension (by omega) hl
  have hlf : Decoder.step { d with phase := .lineFeed c.octets.length } 10 =
      ({ d with phase := .data c.octets.length }, .ok .nothing) := by
    have : 0 < c.octets.length := List.length_pos_iff.2 h.nonempty
    simp only [Decoder.step, if_true, gt_iff_lt, this]
    rfl
  have hend : Runs { d with phase := .dataReturn, total := d.total + c.octets.length } Text.crlf
      { d with phase := .sizeStart, total := d.total + c.octets.length } [] [] :=
    Runs.step rfl rfl (Runs.step rfl rfl (.refl _))
  have := hline.append (Runs.step rfl hlf ((runs_octets h.nonempty).append hend))
  simpa [Part.wire, Text.crlf] using this

theorem runs_parts {cs : List Part} (h : ∀ c ∈ cs, c.Follows Extension)
    (hw : d.maxBody < Text.wordSize)
    (hl : (cs.flatMap Part.octets).length ≤ d.maxBody - d.total) :
    Runs { d with phase := .sizeStart } (cs.flatMap Part.wire)
      { d with phase := .sizeStart, total := d.total + (cs.flatMap Part.octets).length }
      (cs.flatMap Part.octets) [] := by
  induction cs generalizing d with
  | nil => exact .refl _
  | cons c cs ih =>
    rw [List.flatMap_cons, List.length_append] at hl
    have hc := runs_part (h c List.mem_cons_self) hw (by omega)
    have hcs := ih (d := { d with total := d.total + c.octets.length })
      (fun x hx => h x (List.mem_cons_of_mem c hx)) hw (by simp only; omega)
    rw [List.flatMap_cons, List.flatMap_cons, List.length_append, ← Nat.add_assoc]
    exact hc.append hcs

/-! ## Trailer lines -/

theorem counted_of_le {next : Decoder → Decoder.Stepped} (h : d.trailerBytes + 1 ≤ d.maxTrailer) :
    d.counted next = next { d with trailerBytes := d.trailerBytes + 1 } := by
  simp only [Decoder.counted]
  rw [if_neg (by omega)]

theorem runs_trailerName (nameRev : Bytes) {name : Bytes} (h : ∀ b ∈ name, Text.isTokenByte b = true)
    (hl : d.trailerBytes + name.length ≤ d.maxTrailer) :
    Runs { d with phase := .trailerName nameRev } name
      { d with
        phase := .trailerName (name.reverse ++ nameRev)
        trailerBytes := d.trailerBytes + name.length } [] [] := by
  induction name generalizing d nameRev with
  | nil => exact .refl _
  | cons b name ih =>
    rw [List.length_cons] at hl
    have hb := h b List.mem_cons_self
    have hs : Decoder.step { d with phase := .trailerName nameRev } b =
        ({ d with phase := .trailerName (b :: nameRev), trailerBytes := d.trailerBytes + 1 },
          .ok .nothing) := by
      simp only [Decoder.step]
      rw [counted_of_le (by simp only; omega), if_pos hb]
      rfl
    have := ih (d := { d with trailerBytes := d.trailerBytes + 1 }) (b :: nameRev)
      (fun x hx => h x (List.mem_cons_of_mem b hx)) (by simp only; omega)
    rw [List.reverse_cons, List.append_assoc, List.length_cons, Nat.add_comm name.length,
      ← Nat.add_assoc]
    exact Runs.step rfl hs this

theorem runs_trailerValue (nameRev valueRev : Bytes) {value : Bytes} (h : ∀ b ∈ value, IsTextByte b)
    (hl : d.trailerBytes + value.length ≤ d.maxTrailer) :
    Runs { d with phase := .trailerValue nameRev valueRev } value
      { d with
        phase := .trailerValue nameRev (value.reverse ++ valueRev)
        trailerBytes := d.trailerBytes + value.length } [] [] := by
  induction value generalizing d valueRev with
  | nil => exact .refl _
  | cons b value ih =>
    rw [List.length_cons] at hl
    have hb := h b List.mem_cons_self
    have h13 : b ≠ 13 := by
      rintro rfl
      exact absurd (isTextByte_iff.2 hb) (by decide)
    have hs : Decoder.step { d with phase := .trailerValue nameRev valueRev } b =
        ({ d with
            phase := .trailerValue nameRev (b :: valueRev)
            trailerBytes := d.trailerBytes + 1 }, .ok .nothing) := by
      simp only [Decoder.step]
      rw [counted_of_le (by simp only; omega), if_neg h13, if_pos (isTextByte_iff.2 hb)]
      rfl
    have := ih (d := { d with trailerBytes := d.trailerBytes + 1 }) (b :: valueRev)
      (fun x hx => h x (List.mem_cons_of_mem b hx)) (by simp only; omega)
    rw [List.reverse_cons, List.append_assoc, List.length_cons, Nat.add_comm value.length,
      ← Nat.add_assoc]
    exact Runs.step rfl hs this

theorem step_trailerStart {b : UInt8} (hb : Text.isTokenByte b = true)
    (hl : d.trailerBytes + 1 ≤ d.maxTrailer) :
    Decoder.step { d with phase := .trailerStart } b =
      ({ d with phase := .trailerName [b], trailerBytes := d.trailerBytes + 1 }, .ok .nothing) := by
  have h13 : b ≠ 13 := by
    rintro rfl
    exact absurd hb (by decide)
  simp only [Decoder.step]
  rw [if_neg h13, if_pos hb, counted_of_le (by exact hl)]
  rfl

theorem step_colon (nameRev : Bytes) (hl : d.trailerBytes + 1 ≤ d.maxTrailer) :
    Decoder.step { d with phase := .trailerName nameRev } 58 =
      ({ d with phase := .trailerValue nameRev [], trailerBytes := d.trailerBytes + 1 },
        .ok .nothing) := by
  have h58 : ¬ Text.isTokenByte 58 = true := by decide
  simp only [Decoder.step]
  rw [counted_of_le (by exact hl), if_neg h58, if_pos trivial]
  rfl

theorem step_trailerReturn (nameRev valueRev : Bytes) (hl : d.trailerBytes + 1 ≤ d.maxTrailer) :
    Decoder.step { d with phase := .trailerValue nameRev valueRev } 13 =
      ({ d with phase := .lineFeed 0, trailerBytes := d.trailerBytes + 1 },
        .ok (.field (Decoder.trailerField nameRev valueRev))) := by
  simp only [Decoder.step]
  rw [counted_of_le (by exact hl), if_pos trivial]

/-- A trailer line within what is left of the limit. -/
theorem runs_trailerLine {l : TrailerLine} (h : l.Follows)
    (hl : d.trailerBytes + l.weight ≤ d.maxTrailer) :
    Runs { d with phase := .trailerStart } l.wire
      { d with phase := .trailerStart, trailerBytes := d.trailerBytes + l.weight } [] [l.field] := by
  obtain ⟨name, value⟩ := l
  obtain ⟨⟨hne, hname⟩, hvalue⟩ := h
  rw [← field_of_token hname]
  cases name with
  | nil => exact absurd rfl hne
  | cons b name =>
    simp only [TrailerLine.weight, List.length_cons] at hl ⊢
    -- the bytes counted before the colon, after it, and before the carriage return
    have hfirst := step_trailerStart (d := d) (hname b List.mem_cons_self) (by omega)
    have hn := runs_trailerName (d := { d with trailerBytes := d.trailerBytes + 1 }) [b]
      (fun x hx => hname x (List.mem_cons_of_mem b hx)) (by simp only; omega)
    have hcolon := step_colon (name.reverse ++ [b])
      (d := { d with trailerBytes := d.trailerBytes + 1 + name.length }) (by simp only; omega)
    have hv := runs_trailerValue (name.reverse ++ [b]) []
      (d := { d with trailerBytes := d.trailerBytes + 1 + name.length + 1 }) hvalue
      (by simp only; omega)
    have hret := step_trailerReturn (name.reverse ++ [b]) (value.reverse ++ [])
      (d := { d with trailerBytes := d.trailerBytes + 1 + name.length + 1 + value.length })
      (by simp only; omega)
    have hend := Runs.cons rfl hret (Runs.step (b := 10) rfl rfl (.refl _))
    have := Runs.step rfl hfirst (hn.append (Runs.step rfl hcolon (hv.append hend)))
    have hcount : d.trailerBytes + 1 + name.length + 1 + value.length + 1 =
        d.trailerBytes + (name.length + 1 + value.length + 2) := by omega
    simpa [TrailerLine.wire, Text.crlf, Yield.octets, Yield.fields, hcount] using this

theorem runs_trailerLines {ls : List TrailerLine} (h : ∀ l ∈ ls, l.Follows)
    (hl : d.trailerBytes + (ls.map TrailerLine.weight).sum ≤ d.maxTrailer) :
    Runs { d with phase := .trailerStart } (ls.flatMap TrailerLine.wire)
      { d with
        phase := .trailerStart
        trailerBytes := d.trailerBytes + (ls.map TrailerLine.weight).sum }
      [] (ls.map TrailerLine.field) := by
  induction ls generalizing d with
  | nil => exact .refl _
  | cons l ls ih =>
    rw [List.map_cons, List.sum_cons] at hl
    have hfirst := runs_trailerLine (h l List.mem_cons_self) (d := d) (by omega)
    have hrest := ih (d := { d with trailerBytes := d.trailerBytes + l.weight })
      (fun x hx => h x (List.mem_cons_of_mem l hx)) (by simp only; omega)
    rw [List.flatMap_cons, List.map_cons, List.map_cons, List.sum_cons, ← Nat.add_assoc]
    exact hfirst.append hrest

/-! ## Bodies -/

/-- A body within the limits has a run from the start to the end. -/
theorem runs_framed {f : Framed} (h : f.Follows Extension) (hw : d.maxBody < Text.wordSize)
    (hb : f.data.length ≤ d.maxBody - d.total)
    (ht : d.trailerBytes + f.trailerWeight ≤ d.maxTrailer) :
    ∃ e : Decoder, e.isFinished = true ∧
      Runs { d with phase := .sizeStart } f.wire e f.data f.fields := by
  have hchunks := runs_parts h.chunks hw hb
  have hlast := runs_sizeLine (d := { d with total := d.total + f.data.length }) h.lastSize
    h.lastExtension (by decide) (Nat.zero_le _)
  have htrailers := runs_trailerLines (d := { d with total := d.total + f.data.length })
    h.trailers ht
  have hlf : Decoder.step { d with phase := .lineFeed 0, total := d.total + f.data.length } 10 =
      ({ d with phase := .trailerStart, total := d.total + f.data.length }, .ok .nothing) := rfl
  have hend : Runs { d with
        phase := .trailerStart
        total := d.total + f.data.length
        trailerBytes := d.trailerBytes + f.trailerWeight } Text.crlf
      { d with
        phase := .finished
        total := d.total + f.data.length
        trailerBytes := d.trailerBytes + f.trailerWeight } [] [] :=
    Runs.step rfl rfl (Runs.step rfl rfl (.refl _))
  have := hchunks.append (hlast.append (Runs.step rfl hlf (htrailers.append hend)))
  exact ⟨_, rfl, by
    simpa [Framed.wire, Framed.data, Framed.fields, Framed.trailerWire, Text.crlf, Text.cr, Text.lf] using this⟩

end Switchboard.Http.Chunk
