import Switchboard.Proofs.Http.Chunk.Moves
import Switchboard.Proofs.Http.Chunk.Runs

/-!
What the decoder of the chunked coding accepts is a chunked body. `Completes p w data fields` says what may
follow a phase `p`: the bytes `w` that take the decoder from there to the end of the body, with the data and
the fields in them. A transition goes from what may follow a byte to what may follow the phase before it
(`completes_of_moves`); by induction, a run that ends the body is over bytes that may follow its first phase
(`completes_of_runs`), and what may follow the first of all phases is a body (`framed_of_runs`).
-/

namespace Switchboard.Http.Chunk

/-! ## What may follow a phase -/

/-- A body, whatever its extensions say. -/
def IsBody (w data : Bytes) (fields : List Field) : Prop :=
  ∃ f : Framed, f.Follows LooseExtension ∧ w = f.wire ∧ data = f.data ∧ fields = f.fields

/-- Trailer lines up to the end of the body. -/
def IsTrailerPart (w : Bytes) (fields : List Field) : Prop :=
  ∃ ls : List TrailerLine, (∀ l ∈ ls, l.Follows) ∧ w = Framed.trailerWire ls ∧
    fields = ls.map TrailerLine.field

/-- The octets of a chunk, so many, and the rest of the body. -/
def IsData (left : Nat) (w data : Bytes) (fields : List Field) : Prop :=
  ∃ octets rest data', octets.length = left ∧ w = octets ++ (Text.crlf ++ rest) ∧
    data = octets ++ data' ∧ IsBody rest data' fields

/-- What comes after a size line: the data of the chunk, or the trailer lines if this was the last. -/
def AfterLine (size : Nat) (w data : Bytes) (fields : List Field) : Prop :=
  if size = 0 then data = [] ∧ IsTrailerPart w fields else IsData size w data fields

/-- What comes after the size: some bytes of extension, and the end of the line. -/
def AfterSize (size : Nat) (w data : Bytes) (fields : List Field) : Prop :=
  ∃ ext rest, w = ext ++ (Text.crlf ++ rest) ∧ AfterLine size rest data fields

/-- What may follow a phase, with the data and the fields in it. -/
def Completes : Phase → Bytes → Bytes → List Field → Prop
  | .sizeStart, w, data, fields => IsBody w data fields
  | .size n, w, data, fields =>
    ∃ digits ext rest size, readHex? n digits = some size ∧ LooseExtension ext ∧
      w = digits ++ (ext ++ (Text.crlf ++ rest)) ∧ AfterLine size rest data fields
  | .extName size _, w, data, fields => AfterSize size w data fields
  | .extValue size _, w, data, fields => AfterSize size w data fields
  | .sizeBlank size, w, data, fields => AfterSize size w data fields
  | .lineFeed size, w, data, fields => ∃ rest, w = 10 :: rest ∧ AfterLine size rest data fields
  | .trailerStart, w, data, fields => data = [] ∧ IsTrailerPart w fields
  | .lastLineFeed, w, data, fields => w = [10] ∧ data = [] ∧ fields = []
  | .trailerName nameRev, w, data, fields =>
    data = [] ∧ ∃ (more value : Bytes) (ls : List TrailerLine),
      (∀ b ∈ more, Text.isTokenByte b = true) ∧ (∀ b ∈ value, IsTextByte b) ∧
      (∀ l ∈ ls, l.Follows) ∧ w = more ++ 58 :: (value ++ (Text.crlf ++ Framed.trailerWire ls)) ∧
      fields = Decoder.trailerField (more.reverse ++ nameRev) value.reverse ::
        ls.map TrailerLine.field
  | .trailerValue nameRev valueRev, w, data, fields =>
    data = [] ∧ ∃ (value : Bytes) (ls : List TrailerLine),
      (∀ b ∈ value, IsTextByte b) ∧ (∀ l ∈ ls, l.Follows) ∧
      w = value ++ (Text.crlf ++ Framed.trailerWire ls) ∧
      fields = Decoder.trailerField nameRev (value.reverse ++ valueRev) ::
        ls.map TrailerLine.field
  | .data left, w, data, fields => left = 0 ∨ IsData left w data fields
  | .dataReturn, w, data, fields => ∃ rest, w = Text.crlf ++ rest ∧ IsBody rest data fields
  | .dataLineFeed, w, data, fields => ∃ rest, w = 10 :: rest ∧ IsBody rest data fields
  | .finished, w, data, fields => w = [] ∧ data = [] ∧ fields = []

/-! ## Parts put together -/

theorem isTrailerPart_nil : IsTrailerPart Text.crlf [] :=
  ⟨[], by simp, by simp [Framed.trailerWire], rfl⟩

theorem isTrailerPart_cons {name value w : Bytes} {fields : List Field} (hn : IsToken name)
    (hv : ∀ b ∈ value, IsTextByte b) (h : IsTrailerPart w fields) :
    IsTrailerPart (name ++ 58 :: (value ++ (Text.crlf ++ w)))
      (TrailerLine.field ⟨name, value⟩ :: fields) := by
  obtain ⟨ls, hls, rfl, rfl⟩ := h
  refine ⟨⟨name, value⟩ :: ls, ?_, ?_, rfl⟩
  · intro l hl
    rcases List.mem_cons.1 hl with rfl | hl
    · exact ⟨hn, hv⟩
    · exact hls l hl
  · simp [Framed.trailerWire, TrailerLine.wire]

/-- A size line and what comes after it make up a body. -/
theorem isBody_of_line {digits ext w data : Bytes} {size : Nat} {fields : List Field}
    (hd : IsSize digits size) (he : LooseExtension ext) (h : AfterLine size w data fields) :
    IsBody (digits ++ (ext ++ (Text.crlf ++ w))) data fields := by
  unfold AfterLine at h
  split at h
  · next h0 =>
    subst h0
    obtain ⟨rfl, ls, hls, rfl, rfl⟩ := h
    exact ⟨⟨[], digits, ext, ls⟩, ⟨by simp, hd, he, hls⟩, by simp [Framed.wire], rfl, rfl⟩
  · next h0 =>
    obtain ⟨octets, rest, data', rfl, rfl, rfl, f, hf, rfl, rfl, rfl⟩ := h
    have hne : octets ≠ [] := fun h => h0 (by rw [h]; rfl)
    refine ⟨⟨⟨digits, ext, octets⟩ :: f.chunks, f.lastDigits, f.lastExtension, f.trailers⟩, ⟨?_,
      hf.lastSize, hf.lastExtension, hf.trailers⟩, ?_, by simp [Framed.data], rfl⟩
    · intro c hc
      rcases List.mem_cons.1 hc with rfl | hc
      · exact ⟨hd, hne, he⟩
      · exact hf.chunks c hc
    · simp [Framed.wire, Part.wire]

theorem afterSize_cons {b : UInt8} {w data : Bytes} {size : Nat} {fields : List Field}
    (h : AfterSize size w data fields) : AfterSize size (b :: w) data fields := by
  obtain ⟨ext, rest, rfl, hr⟩ := h
  exact ⟨b :: ext, rest, rfl, hr⟩

theorem afterSize_return {w data : Bytes} {size : Nat} {fields : List Field}
    (h : Completes (.lineFeed size) w data fields) : AfterSize size (13 :: w) data fields := by
  obtain ⟨rest, rfl, hr⟩ := h
  exact ⟨[], rest, rfl, hr⟩

/-- A byte after the digits of a size begins the extension. -/
theorem completes_size_of_afterSize {b : UInt8} {w data : Bytes} {size : Nat} {fields : List Field}
    (hb : b = 32 ∨ b = 9 ∨ b = 59) (h : AfterSize size w data fields) :
    Completes (.size size) (b :: w) data fields := by
  obtain ⟨ext, rest, rfl, hr⟩ := h
  exact ⟨[], b :: ext, rest, size, rfl, by simpa [LooseExtension] using hb, rfl, hr⟩

/-! ## Steps and runs -/

/-- What may follow a byte, with the byte before it, may follow the phase in which the byte was taken. -/
theorem completes_of_moves {p q : Phase} {b : UInt8} {y : Yield} {w data : Bytes}
    {fields : List Field} (hm : Moves p b q y) (h : Completes q w data fields) :
    Completes p (b :: w) (y.octets ++ data) (y.fields ++ fields) := by
  cases hm with
  | firstDigit hb =>
    obtain ⟨digits, ext, rest, size, hr, he, rfl, ha⟩ := h
    have hd : readHex? 0 (b :: digits) = some size := by
      rw [readHex?, hb]
      simpa using hr
    exact isBody_of_line ⟨List.cons_ne_nil _ _, hd⟩ he ha
  | digit n hb =>
    obtain ⟨digits, ext, rest, size, hr, he, rfl, ha⟩ := h
    refine ⟨b :: digits, ext, rest, size, ?_, he, rfl, ha⟩
    rw [readHex?, hb]
    exact hr
  | sizeExtension n => exact completes_size_of_afterSize (Or.inr (Or.inr rfl)) h
  | sizeBlank n hb =>
    exact completes_size_of_afterSize (hb.elim Or.inl fun h => Or.inr (Or.inl h)) h
  | sizeReturn n =>
    obtain ⟨rest, rfl, hr⟩ := h
    exact ⟨[], [], rest, n, rfl, by simp [LooseExtension], rfl, hr⟩
  | blankReturn n => exact afterSize_return h
  | nameReturn n => exact afterSize_return h
  | valueReturn n => exact afterSize_return h
  | blankExtension | blank | nameBlank | name | nameValue | nameExtension | openQuote | value
  | valueExtension | escape | closeQuote | quoted | escaped => exact afterSize_cons h
  | @lineData n hs =>
    refine ⟨w, rfl, ?_⟩
    rw [AfterLine, if_neg (by omega)]
    exact h.resolve_left (by omega)
  | lineLast => exact ⟨w, rfl, h⟩
  | lastReturn =>
    obtain ⟨rfl, rfl, rfl⟩ := h
    exact ⟨rfl, isTrailerPart_nil⟩
  | trailer hb =>
    obtain ⟨rfl, more, value, ls, hmore, hvalue, hls, rfl, rfl⟩ := h
    have hname : ∀ x ∈ b :: more, Text.isTokenByte x = true := by
      intro x hx
      rcases List.mem_cons.1 hx with rfl | hx
      · exact hb
      · exact hmore x hx
    refine ⟨rfl, ?_⟩
    have h := isTrailerPart_cons ⟨List.cons_ne_nil _ _, hname⟩ hvalue ⟨ls, hls, rfl, rfl⟩
    rw [← field_of_token hname, List.reverse_cons] at h
    exact h
  | trailerName nameRev hb =>
    obtain ⟨rfl, more, value, ls, hmore, hvalue, hls, rfl, rfl⟩ := h
    refine ⟨rfl, b :: more, value, ls, ?_, hvalue, hls, rfl, by simp [Yield.fields]⟩
    intro x hx
    rcases List.mem_cons.1 hx with rfl | hx
    · exact hb
    · exact hmore x hx
  | trailerColon nameRev =>
    obtain ⟨rfl, value, ls, hvalue, hls, rfl, rfl⟩ := h
    exact ⟨rfl, [], value, ls, by simp, hvalue, hls, rfl, by simp [Yield.fields]⟩
  | trailerValue nameRev valueRev hb =>
    obtain ⟨rfl, value, ls, hvalue, hls, rfl, rfl⟩ := h
    refine ⟨rfl, b :: value, ls, ?_, hls, rfl, by simp [Yield.fields]⟩
    intro x hx
    rcases List.mem_cons.1 hx with rfl | hx
    · exact hb
    · exact hvalue x hx
  | trailerReturn nameRev valueRev =>
    obtain ⟨rest, rfl, rfl, ls, hls, rfl, rfl⟩ := h
    exact ⟨rfl, [], ls, by simp, hls, rfl, by simp [Yield.fields]⟩
  | @octet _ left hl =>
    rcases h with h | ⟨octets, rest, data', hlen, rfl, rfl, hr⟩
    · exact Or.inl (by omega)
    by_cases h0 : left = 0
    · exact Or.inl h0
    · exact Or.inr ⟨b :: octets, rest, data', by simp; omega, rfl, rfl, hr⟩
  | lastOctet =>
    obtain ⟨rest, rfl, hr⟩ := h
    exact Or.inr ⟨[b], rest, data, rfl, rfl, rfl, hr⟩
  | dataReturn =>
    obtain ⟨rest, rfl, hr⟩ := h
    exact ⟨rest, rfl, hr⟩
  | dataLineFeed => exact ⟨w, rfl, h⟩
  | lastLineFeed =>
    obtain ⟨rfl, rfl, rfl⟩ := h
    exact ⟨rfl, rfl, rfl⟩

/-- A run up to the end of the body is over bytes that may follow its first phase. -/
theorem completes_of_runs {d e : Decoder} {w data : Bytes} {fields : List Field}
    (h : Runs d w e data fields) (he : e.isFinished = true) : Completes d.phase w data fields := by
  induction h with
  | refl d =>
    have hp : d.phase = .finished := by simpa [Decoder.isFinished] using he
    rw [hp]
    exact ⟨rfl, rfl, rfl⟩
  | cons hd hs _ ih => exact completes_of_moves (moves_of_step hd hs) (ih he)

/-- A run from the start to the end of the body is over a body. -/
theorem framed_of_runs {d e : Decoder} {w data : Bytes} {fields : List Field}
    (h : Runs d w e data fields) (hd : d.phase = .sizeStart) (he : e.isFinished = true) :
    ∃ f : Framed, f.Follows LooseExtension ∧ w = f.wire ∧ data = f.data ∧ fields = f.fields := by
  have := completes_of_runs h he
  rw [hd] at this
  exact this

end Switchboard.Http.Chunk
