import Switchboard.Http.Chunk.Encoder
import Switchboard.Proofs.Http.Chunk.Completeness
import Switchboard.Proofs.Http.Fields

/-!
What the writer of the chunked coding writes is a chunked body. Chunks without data write nothing, the others are
written with their length in front (`encodeChunk_eq`), the digits of a length denote it (`readHex?_hex`), and a
trailer field is a trailer line with a space before the value (`wire_trailerLineOf`); so what is written has a run
of the decoder that gives data and fields back (`runs_encodeChunks`). A body of chunks of one size is the case in
which the chunks are the pieces of the data (`runs_encodeBody`).
-/

namespace Switchboard.Http.Chunk

/-! ## Sizes -/

theorem readHex?_append (acc : Nat) (a b : Bytes) :
    readHex? acc (a ++ b) = (readHex? acc a).bind fun n => readHex? n b := by
  induction a generalizing acc with
  | nil => rfl
  | cons x a ih =>
    rw [List.cons_append, readHex?, readHex?]
    split
    · exact ih _
    · rfl

theorem readHex?_digitChar (acc : Nat) {d : Nat} (h : d < 16) :
    readHex? acc (String.utf8EncodeChar d.digitChar) = some (acc * 16 + d) := by
  have hd : ∀ d < 16, (String.utf8EncodeChar (Nat.digitChar d)).length = 1 ∧
      (String.utf8EncodeChar (Nat.digitChar d)).head?.bind Text.hexValue? = some d := by
    decide
  obtain ⟨hlen, hval⟩ := hd d h
  obtain ⟨b, hb⟩ := List.length_eq_one_iff.1 hlen
  rw [hb] at hval ⊢
  rw [readHex?, show Text.hexValue? b = some d from hval]
  rfl

/-- The digits of a number denote it. -/
theorem readHex?_hex (n : Nat) : readHex? 0 (Text.utf8 (Text.hex n)) = some n := by
  rw [Text.utf8, Text.hex, String.toList_ofList]
  induction n using Nat.strongRecOn with
  | ind n ih =>
    by_cases hn : n < 16
    · rw [Nat.toDigits_of_lt_base hn, List.flatMap_singleton, readHex?_digitChar 0 hn]
      simp
    · have hdiv : n / 16 < n := Nat.div_lt_self (by omega) (by decide)
      rw [Nat.toDigits_of_base_le (by decide) (Nat.le_of_not_lt hn), List.flatMap_append,
        readHex?_append, ih (n / 16) hdiv, List.flatMap_singleton, Option.bind_some,
        readHex?_digitChar _ (Nat.mod_lt n (by decide)), Option.some.injEq]
      omega

theorem isSize_hex (n : Nat) : IsSize (Text.utf8 (Text.hex n)) n := by
  refine ⟨?_, readHex?_hex n⟩
  rw [Text.utf8, Text.hex, String.toList_ofList, ne_eq, List.flatMap_eq_nil_iff]
  intro h
  rcases hd : Nat.toDigits 16 n with _ | ⟨c, cs⟩
  · exact Nat.toDigits_ne_nil hd
  · have hc := congrArg List.length (h c (by rw [hd]; exact List.mem_cons_self))
    rw [String.length_utf8EncodeChar, List.length_nil] at hc
    exact absurd hc (Nat.ne_of_gt c.utf8Size_pos)

/-! ## Pieces -/

theorem flatten_piecesFrom (size room : Nat) (acc data : Bytes) :
    (piecesFrom size room acc data).flatten = acc.reverse ++ data := by
  fun_induction piecesFrom size room acc data <;> simp_all

/-- The pieces of some data make up the data. -/
theorem flatten_pieces (size : Nat) (data : Bytes) : (pieces size data).flatten = data :=
  flatten_piecesFrom _ _ _ _

/-! ## Chunks -/

/-- The extension of a chunk, with the semicolon before it. -/
def extensionOf (ext : String) : Bytes := if ext.isEmpty then [] else 59 :: Text.utf8 ext

/-- Some data with its length in front and an extension after that. -/
def partOf (c : Bytes × String) : Part := ⟨Text.utf8 (Text.hex c.1.length), extensionOf c.2, c.1⟩

/-- The chunks that are written, those with data. -/
def partsOf (chunks : List (Bytes × String)) : List Part :=
  (chunks.filter (!·.1.isEmpty)).map partOf

theorem partsOf_cons (c : Bytes × String) (chunks : List (Bytes × String)) :
    partsOf (c :: chunks) = (if c.1.isEmpty then [] else [partOf c]) ++ partsOf chunks := by
  unfold partsOf
  rw [List.filter_cons]
  cases c.1.isEmpty <;> rfl

theorem encodeChunk_eq (c : Bytes × String) :
    encodeChunk c.1 c.2 = if c.1.isEmpty then [] else (partOf c).wire := by
  have hsemicolon : Text.utf8 ";" = [59] := by decide
  unfold encodeChunk partOf extensionOf
  rw [hsemicolon]
  simp [Part.wire]

theorem flatMap_encodeChunk (chunks : List (Bytes × String)) :
    chunks.flatMap (fun c => encodeChunk c.1 c.2) = (partsOf chunks).flatMap Part.wire := by
  induction chunks with
  | nil => rfl
  | cons c chunks ih =>
    rw [List.flatMap_cons, ih, encodeChunk_eq, partsOf_cons, List.flatMap_append]
    cases c.1.isEmpty <;> simp

theorem flatMap_octets_partsOf (chunks : List (Bytes × String)) :
    (partsOf chunks).flatMap Part.octets = chunks.flatMap (·.1) := by
  induction chunks with
  | nil => rfl
  | cons c chunks ih =>
    rw [List.flatMap_cons, ← ih, partsOf_cons, List.flatMap_append]
    rcases hc : c.1 with _ | ⟨b, data⟩
    · rfl
    · simp [partOf, hc]

/-! ## Trailers -/

/-- The trailer line of a field, a space before its value. -/
def trailerLineOf (f : Field) : TrailerLine := ⟨Text.utf8 f.name, 32 :: Text.utf8 f.value⟩

theorem trailerLineOf_follows {f : Field} (h : f.Writable) : (trailerLineOf f).Follows := by
  have hne : Text.utf8 f.name ≠ [] := by
    intro hnil
    have hname := Text.lossy_utf8 f.name
    rw [hnil, Text.lossy_nil] at hname
    exact h.name_nonempty (by rw [← hname]; rfl)
  refine ⟨⟨hne, fun b hb => Text.isTokenByte_of_mem_utf8 h.name hb⟩, fun b hb => ?_⟩
  rcases List.mem_cons.1 hb with rfl | hb
  · exact (by decide : IsTextByte 32)
  · by_cases hascii : b < 0x80
    · have hchar := Text.mem_of_mem_utf8 hascii hb
      have hvalid : b.toNat.isValidChar := Or.inl (Nat.lt_trans b.toNat_lt (by decide))
      have hnat : (Char.ofNat b.toNat).toNat = b.toNat := Text.toNat_char_ofNat hvalid
      by_cases hcontrol : Text.isControl (Char.ofNat b.toNat) = true
      · have htab := congrArg Char.toNat (h.value _ hchar hcontrol)
        rw [hnat] at htab
        exact Or.inl (UInt8.toNat_inj.1 htab)
      · simp only [Text.isControl, hnat, Bool.or_eq_true, decide_eq_true_eq, beq_iff_eq] at hcontrol
        have hlt : b.toNat < 0x80 := UInt8.lt_iff_toNat_lt.1 hascii
        refine Or.inr (Or.inl ⟨UInt8.le_iff_toNat_le.2 ?_, UInt8.le_iff_toNat_le.2 ?_⟩)
        · show 32 ≤ b.toNat
          omega
        · show b.toNat ≤ 126
          omega
    · exact Or.inr (Or.inr (UInt8.not_lt.1 hascii))

theorem field_trailerLineOf (f : Field) : (trailerLineOf f).field = f.trimmed := by
  have hvalue : Text.lossy (32 :: Text.utf8 f.value) = String.ofList (' ' :: f.value.toList) := by
    have hread := Text.lossyFrom_flatMap_utf8EncodeChar f.value.toList []
    rw [List.append_nil] at hread
    rw [Text.lossy, Text.lossyFrom_ascii (by decide), Text.utf8, hread]
    simp [Text.lossyFrom, Text.Utf8State.finish]
  unfold TrailerLine.field trailerLineOf Field.trimmed
  rw [hvalue, Text.lossy_utf8]
  unfold Text.trimSpaceTab Text.trimBy
  rw [String.toList_ofList, Text.trimList_cons (by decide)]

theorem wire_trailerLineOf (f : Field) : (trailerLineOf f).wire = f.line ++ Text.crlf := by
  have hcolon : Text.utf8 ": " = [58, 32] := by decide
  unfold TrailerLine.wire trailerLineOf Field.line
  rw [hcolon]
  simp

/-- The bytes counted against the limit of a decoder for one field: its line and the carriage return. -/
theorem weight_trailerLineOf (f : Field) : (trailerLineOf f).weight = f.line.length + 1 := by
  have hlen := congrArg List.length (wire_trailerLineOf f)
  unfold TrailerLine.wire at hlen
  unfold TrailerLine.weight
  simp only [List.length_append, List.length_cons] at hlen
  have hcrlf : Text.crlf.length = 2 := rfl
  omega

/-! ## Bodies -/

/-- The chunks and the trailer fields as they are written. -/
def encodeChunks (chunks : List (Bytes × String)) (trailers : Fields) : Bytes :=
  chunks.flatMap (fun c => encodeChunk c.1 c.2) ++ encodeEnd trailers

/-- The parts of a body as it is written. -/
def framedOf (chunks : List (Bytes × String)) (trailers : Fields) : Framed where
  chunks := partsOf chunks
  lastDigits := Text.utf8 "0"
  lastExtension := []
  trailers := trailers.toList.map trailerLineOf

variable {chunks : List (Bytes × String)} {trailers : Fields}

theorem encodeChunks_eq (chunks : List (Bytes × String)) (trailers : Fields) :
    encodeChunks chunks trailers = (framedOf chunks trailers).wire := by
  have htrailers : trailers.wire = Framed.trailerWire (trailers.toList.map trailerLineOf) := by
    rw [Fields.wire_eq, Framed.trailerWire, List.flatMap_map]
    simp only [wire_trailerLineOf]
  rw [encodeChunks, encodeEnd, flatMap_encodeChunk, htrailers]
  simp [Framed.wire, framedOf]

/-- What is written is a chunked body, if the extensions are extensions and the trailer fields can be written. -/
theorem framedOf_follows (hext : ∀ c ∈ chunks, c.2 = "" ∨ Extension (59 :: Text.utf8 c.2))
    (htrailers : ∀ f ∈ trailers.toList, f.Writable) :
    (framedOf chunks trailers).Follows Extension where
  chunks := by
    intro p hp
    obtain ⟨c, hc, rfl⟩ := List.mem_map.1 hp
    obtain ⟨hmem, hfull⟩ := List.mem_filter.1 hc
    refine ⟨isSize_hex c.1.length, by simpa [partOf] using hfull, ?_⟩
    show Extension (extensionOf c.2)
    unfold extensionOf
    split
    · exact .nil
    next hne =>
      refine (hext c hmem).resolve_left fun hempty => hne ?_
      rw [hempty]
      rfl
  lastSize := (by decide : IsSize (Text.utf8 "0") 0)
  lastExtension := .nil
  trailers := by
    intro l hl
    obtain ⟨f, hf, rfl⟩ := List.mem_map.1 hl
    exact trailerLineOf_follows (htrailers f hf)

theorem data_framedOf (chunks : List (Bytes × String)) (trailers : Fields) :
    (framedOf chunks trailers).data = chunks.flatMap (·.1) := flatMap_octets_partsOf chunks

theorem fields_framedOf (chunks : List (Bytes × String)) (trailers : Fields) :
    (framedOf chunks trailers).fields = trailers.toList.map Field.trimmed := by
  unfold Framed.fields framedOf
  rw [List.map_map]
  exact List.map_congr_left fun f _ => field_trailerLineOf f

theorem trailerWeight_framedOf (chunks : List (Bytes × String)) (trailers : Fields) :
    (framedOf chunks trailers).trailerWeight =
      (trailers.toList.map fun f => f.line.length + 1).sum := by
  unfold Framed.trailerWeight framedOf
  rw [List.map_map]
  exact congrArg List.sum (List.map_congr_left fun f _ => weight_trailerLineOf f)

/-- A started decoder takes what is written within its limits, and gives back the data, and the trailer fields
without the blanks at their ends. -/
theorem runs_encodeChunks {d : Decoder} (hw : d.maxBody < Text.wordSize)
    (hext : ∀ c ∈ chunks, c.2 = "" ∨ Extension (59 :: Text.utf8 c.2))
    (htrailers : ∀ f ∈ trailers.toList, f.Writable)
    (hdata : (chunks.flatMap (·.1)).length ≤ d.maxBody)
    (hcount : (trailers.toList.map fun f => f.line.length + 1).sum ≤ d.maxTrailer) :
    ∃ e : Decoder, e.isFinished = true ∧
      Runs d.start (encodeChunks chunks trailers) e (chunks.flatMap (·.1))
        (trailers.toList.map Field.trimmed) := by
  have hb : (framedOf chunks trailers).data.length ≤ d.start.maxBody - d.start.total := by
    rw [data_framedOf]
    exact hdata
  have ht : d.start.trailerBytes + (framedOf chunks trailers).trailerWeight ≤ d.start.maxTrailer := by
    rw [trailerWeight_framedOf]
    exact (Nat.zero_add _).symm ▸ hcount
  obtain ⟨e, he, hr⟩ := runs_framed (d := d.start) (framedOf_follows hext htrailers) hw hb ht
  rw [data_framedOf, fields_framedOf, ← encodeChunks_eq] at hr
  exact ⟨e, he, hr⟩

/-! ## Bodies of chunks of one size -/

theorem encodeBody_eq (data : Bytes) (size : Nat) :
    encodeBody data size = encodeChunks ((pieces size data).map (·, "")) .empty := by
  unfold encodeBody encodeChunks
  rw [List.flatMap_map]

/-- A started decoder takes a body as it is written, and gives the data back. -/
theorem runs_encodeBody {d : Decoder} {data : Bytes} (hw : d.maxBody < Text.wordSize)
    (hl : data.length ≤ d.maxBody) (size : Nat) :
    ∃ e : Decoder, e.isFinished = true ∧ Runs d.start (encodeBody data size) e data [] := by
  have hdata : ((pieces size data).map (·, "")).flatMap (·.1) = data := by
    rw [List.flatMap_map]
    show (pieces size data).flatMap id = data
    rw [List.flatMap_id, flatten_pieces]
  have hext : ∀ c ∈ (pieces size data).map (·, ""), c.2 = "" ∨ Extension (59 :: Text.utf8 c.2) := by
    intro c hc
    obtain ⟨p, -, rfl⟩ := List.mem_map.1 hc
    exact Or.inl rfl
  have htrailers : ∀ f ∈ Fields.empty.toList, f.Writable := by simp
  obtain ⟨e, he, hr⟩ := runs_encodeChunks hw hext htrailers (by rw [hdata]; exact hl) (Nat.zero_le _)
  rw [hdata, ← encodeBody_eq] at hr
  exact ⟨e, he, hr⟩

/-- The decoder stops where the body ends, whatever comes after it. -/
theorem decode_encodeBody {d : Decoder} {data : Bytes} (hw : d.maxBody < Text.wordSize)
    (hl : data.length ≤ d.maxBody) (size : Nat) (more : Bytes) :
    ∃ e : Decoder, e.isFinished = true ∧
      d.start.decode (encodeBody data size ++ more) = ran e (encodeBody data size) data [] := by
  obtain ⟨e, he, hr⟩ := runs_encodeBody hw hl size
  exact ⟨e, he, decode_of_runs hr he more⟩

end Switchboard.Http.Chunk
