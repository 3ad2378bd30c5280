import Mathlib.Data.List.Forall2
import Mathlib.Tactic.TFAE
import Switchboard.Proofs.Http.Chunk.Completeness
import Switchboard.Proofs.Http.Chunk.Soundness
import Switchboard.Proofs.Http.Fields

/-!
The two readers of field lines. The head of a message is cut into lines; each of them is decoded to text, cut at its
first colon and trimmed. The trailer section of a chunked body is read byte by byte, and the text is decoded last.
Both take the same lines, for the same fields (`fieldReaders_agree`): to either, a line is a field just if its bytes
are a token, a colon and running text (`Chunk.TrailerLine.ofLine_eq_ok_iff`, `Chunk.follows_of_endsOn`).

The lines are any bytes without a line end in them: bytes that are no text, a carriage return or a line feed on its
own, and a line without a colon are all allowed for.
-/

namespace Switchboard

/-! ## Classes of bytes and of characters -/

namespace Text

/-- The characters of a text are those of a token just if its bytes are. -/
theorem tokenChars_iff {bytes : Bytes} :
    (∀ c ∈ lossyFrom .between bytes, isTokenChar c = true) ↔ ∀ b ∈ bytes, isTokenByte b = true := by
  have hmap : (∀ b ∈ bytes, b < 0x80) →
      ((∀ c ∈ lossyFrom .between bytes, isTokenChar c = true) ↔ ∀ b ∈ bytes, isTokenByte b = true) := by
    intro hascii
    rw [lossyFrom_of_ascii hascii, List.forall_mem_map]
    exact Iff.rfl
  constructor
  · intro h
    exact (hmap (ascii_of_lossyFrom fun c hc => isTokenChar_lt (h c hc))).1 h
  · intro h
    exact (hmap fun b hb => isTokenByte_lt (h b hb)).2 h

/-- A byte below `0x80` is one of running text just if it is no control character, or the tab. -/
theorem isTextByte_iff_of_ascii {b : UInt8} (hb : b < 0x80) :
    Http.Chunk.IsTextByte b ↔ (isControl (Char.ofNat b.toNat) = true → b = 9) := by
  rw [isControl, toNat_char_of_byte, Http.Chunk.IsTextByte]
  simp only [UInt8.lt_iff_toNat_lt, UInt8.le_iff_toNat_le, ← UInt8.toNat_inj, UInt8.reduceToNat, Bool.or_eq_true,
    decide_eq_true_eq, beq_iff_eq] at hb ⊢
  omega

/-- Bytes are running text just if the tab is the only control character of their text. -/
theorem textBytes_iff {bytes : Bytes} :
    (∀ b ∈ bytes, Http.Chunk.IsTextByte b) ↔
      ∀ c ∈ lossyFrom .between bytes, isControl c = true → c = '\t' := by
  constructor
  · intro h c hc hcontrol
    have hlt : c.toNat < 0x80 := by
      rw [isControl, Bool.or_eq_true, decide_eq_true_eq, beq_iff_eq] at hcontrol
      omega
    obtain ⟨b, hb, rfl⟩ : ∃ b : UInt8, b < 0x80 ∧ c = Char.ofNat b.toNat := by
      refine ⟨UInt8.ofNat c.toNat, ?_, ?_⟩
      · rw [UInt8.lt_iff_toNat_lt, toNat_ofNat_of_lt (by omega)]
        exact hlt
      · rw [toNat_ofNat_of_lt (by omega), Char.ofNat_toNat]
    have hm : b ∈ bytes := (mem_lossyFrom_iff sane_between hb bytes).1 hc
    rw [(isTextByte_iff_of_ascii hb).1 (h b hm) hcontrol]
    rfl
  · intro h b hm
    by_cases hb : b < 0x80
    · refine (isTextByte_iff_of_ascii hb).2 fun hcontrol => ?_
      have he := congrArg Char.toNat (h _ ((mem_lossyFrom_iff sane_between hb bytes).2 hm) hcontrol)
      rw [toNat_char_of_byte] at he
      exact UInt8.toNat_inj.1 he
    · exact Or.inr (Or.inr (UInt8.not_lt.1 hb))

end Text

namespace Http
namespace Chunk

/-! ## One line -/

namespace TrailerLine

/-- A trailer line without its line end. -/
def text (l : TrailerLine) : Bytes := l.name ++ 58 :: l.value

theorem wire_eq (l : TrailerLine) : l.wire = l.text ++ Text.crlf := by
  rw [wire, text, List.append_assoc, List.cons_append]

theorem weight_eq (l : TrailerLine) : l.weight = l.text.length + 1 := by
  rw [weight, text, List.length_append, List.length_cons]
  omega

theorem text_ne_nil (l : TrailerLine) : l.text ≠ [] := by simp [text]

theorem Follows.cr_not_mem_text {l : TrailerLine} (h : l.Follows) : 13 ∉ l.text := by
  intro hm
  rcases List.mem_append.1 hm with hm | hm
  · exact absurd (h.name.2 13 hm) (by decide)
  rcases List.mem_cons.1 hm with hm | hm
  · exact absurd hm (by decide)
  · exact absurd (h.value 13 hm) (by decide)

/-- A line cut at its first colon is read as text just if the name and the value are what they should be. -/
theorem ofLine_text {l : TrailerLine} (hcolon : 58 ∉ l.name) {f : Field} :
    Field.ofLine (Text.lossy l.text) = .ok f ↔ l.Follows ∧ f = l.field := by
  have hline : (Text.lossy l.text).toList =
      Text.lossyFrom .between l.name ++ ':' :: Text.lossyFrom .between l.value := by
    rw [Text.lossy, String.toList_ofList, text, Text.lossyFrom_append_ascii Text.sane_between (b := 58) (by decide)]
    rfl
  have hname : ':' ∉ Text.lossyFrom .between l.name :=
    mt (Text.mem_lossyFrom_iff Text.sane_between (b := 58) (by decide) l.name).1 hcolon
  have hfield : l.field = ⟨String.ofList (Text.lossyFrom .between l.name),
      String.ofList (Text.trimList Text.isSpaceTab (Text.lossyFrom .between l.value))⟩ := by
    rw [field, Text.trimSpaceTab, Text.trimBy, Text.lossy, Text.lossy, String.toList_ofList]
  rw [Field.ofLine_of_colon hline hname, Text.tokenChars_iff, ← Text.textBytes_iff, ← hfield, Ne,
    Text.lossyFrom_eq_nil_iff]
  constructor
  · rintro ⟨hne, hn, hv, hf⟩
    exact ⟨⟨⟨hne, hn⟩, hv⟩, hf⟩
  · rintro ⟨⟨⟨hne, hn⟩, hv⟩, hf⟩
    exact ⟨hne, hn, hv, hf⟩

/-- The lines that are read as text are those of the grammar of trailer lines, and give its fields. -/
theorem ofLine_eq_ok_iff {line : Bytes} {f : Field} :
    Field.ofLine (Text.lossy line) = .ok f ↔ ∃ l : TrailerLine, l.Follows ∧ line = l.text ∧ f = l.field := by
  constructor
  · intro h
    obtain ⟨name, value, hline, -⟩ := Field.ofLine_eq_ok_iff.1 h
    have hc : ':' ∈ Text.lossyFrom .between line := by
      rw [← String.toList_ofList (l := Text.lossyFrom .between line), ← Text.lossy, hline]
      simp
    have hm : 58 ∈ line := (Text.mem_lossyFrom_iff Text.sane_between (b := 58) (by decide) line).1 hc
    obtain ⟨name, value, rfl, hcolon⟩ := List.eq_append_cons_of_mem hm
    obtain ⟨hl, hf⟩ := (ofLine_text (l := ⟨name, value⟩) hcolon).1 h
    exact ⟨⟨name, value⟩, hl, rfl, hf⟩
  · rintro ⟨l, hl, rfl, rfl⟩
    have hcolon : 58 ∉ l.name := fun hm => absurd (hl.name.2 58 hm) (by decide)
    exact (ofLine_text hcolon).2 ⟨hl, rfl⟩

end TrailerLine

/-! ## Sections -/

/-- The lines, each with its line end, and the blank line after them. -/
def sectionOf (lines : List Bytes) : Bytes := lines.flatMap (· ++ Text.crlf) ++ Text.crlf

theorem trailerWire_eq (ls : List TrailerLine) :
    Framed.trailerWire ls = sectionOf (ls.map TrailerLine.text) := by
  have hwire : TrailerLine.wire = fun l => l.text ++ Text.crlf := by
    funext l
    exact l.wire_eq
  rw [Framed.trailerWire, sectionOf, List.flatMap_map, hwire]

/-- The lines of a section are found in it, whatever comes after it. -/
theorem fieldLines_sectionOf {lines : List Bytes} (h : ∀ line ∈ lines, line ≠ [] ∧ ¬ Text.crlf <:+: line)
    (rest : Bytes) : Head.fieldLines (sectionOf lines ++ rest) = lines := by
  rw [sectionOf, List.append_assoc]
  exact Head.fieldLines_lines h rest

/-- A trailer section at the front of a section is all of it, line by line. -/
theorem lines_of_trailerWire {lines : List Bytes} {ls : List TrailerLine} {rest : Bytes}
    (h : ∀ line ∈ lines, line ≠ [] ∧ ¬ Text.crlf <:+: line) (hls : ∀ l ∈ ls, l.Follows)
    (he : sectionOf lines = Framed.trailerWire ls ++ rest) : lines = ls.map TrailerLine.text ∧ rest = [] := by
  have hcut : ∀ line ∈ ls.map TrailerLine.text, line ≠ [] ∧ ¬ Text.crlf <:+: line := by
    intro line hm
    obtain ⟨l, hl, rfl⟩ := List.mem_map.1 hm
    exact ⟨l.text_ne_nil, Head.not_infix_of_cr (hls l hl).cr_not_mem_text⟩
  rw [trailerWire_eq] at he
  have hlines : lines = ls.map TrailerLine.text := by
    rw [← fieldLines_sectionOf h [], List.append_nil, he, fieldLines_sectionOf hcut rest]
  refine ⟨hlines, ?_⟩
  rw [← hlines] at he
  exact List.self_eq_append_right.1 he

/-- Lines that are all read as text are those of trailer lines, with their fields. -/
theorem forall₂_ofLine_iff {lines : List Bytes} {fs : List Field} :
    List.Forall₂ (fun line f => Field.ofLine (Text.lossy line) = .ok f) lines fs ↔
      ∃ ls : List TrailerLine, (∀ l ∈ ls, l.Follows) ∧ lines = ls.map TrailerLine.text ∧
        fs = ls.map TrailerLine.field := by
  constructor
  · intro h
    induction h with
    | nil => exact ⟨[], by simp, rfl, rfl⟩
    | cons hline _ ih =>
      obtain ⟨l, hl, rfl, rfl⟩ := TrailerLine.ofLine_eq_ok_iff.1 hline
      obtain ⟨ls, hls, rfl, rfl⟩ := ih
      exact ⟨l :: ls, List.forall_mem_cons.2 ⟨hl, hls⟩, rfl, rfl⟩
  · rintro ⟨ls, hls, rfl, rfl⟩
    rw [List.forall₂_map_left_iff, List.forall₂_map_right_iff, List.forall₂_same]
    intro l hl
    exact TrailerLine.ofLine_eq_ok_iff.2 ⟨l, hls l hl, rfl, rfl⟩

/-! ## The two readers -/

/-- The lines before the blank line of a section are read one by one. -/
theorem readFields_eq_ok_iff {maxHeader seen : Nat} {lines : List Bytes} {fs : List Field}
    (hlen : seen + lines.length ≤ Head.maxFields) :
    Head.readFields maxHeader seen lines = .ok fs ↔
      List.Forall₂ (fun line f => Field.ofLine (Text.lossy line) = .ok f) lines fs := by
  induction lines generalizing seen fs with
  | nil =>
    rw [Head.readFields, List.forall₂_nil_left_iff, Except.ok.injEq]
    exact eq_comm
  | cons line lines ih =>
    rw [List.length_cons] at hlen
    rw [Head.readFields_cons_eq_ok_iff, and_iff_right (by omega), List.forall₂_cons_left_iff]
    refine exists_congr fun f => ?_
    simp only [ih (show seen + 1 + lines.length ≤ Head.maxFields by omega), exists_and_left]

/-- A head reads as the fields of its lines. -/
theorem parse_sectionOf_iff {start : Bytes} {lines : List Bytes} {maxHeader : Nat} {fs : List Field}
    (hstart : ¬ Text.crlf <:+: start) (h : ∀ line ∈ lines, line ≠ [] ∧ ¬ Text.crlf <:+: line)
    (hcount : lines.length ≤ Head.maxFields) (hlen : (sectionOf lines).length ≤ maxHeader) :
    Head.parse (start ++ (Text.crlf ++ sectionOf lines)) maxHeader = .ok (Text.lossy start, ⟨fs⟩) ↔
      List.Forall₂ (fun line f => Field.ofLine (Text.lossy line) = .ok f) lines fs := by
  have hlines := fieldLines_sectionOf h []
  rw [List.append_nil] at hlines
  have hread : Head.readFields maxHeader 0 lines = .ok fs ↔
      List.Forall₂ (fun line f => Field.ofLine (Text.lossy line) = .ok f) lines fs :=
    readFields_eq_ok_iff (by rw [Nat.zero_add]; exact hcount)
  have hsplit := Head.splitLine?_of_no_crlf hstart (sectionOf lines)
  rw [Head.parse_eq_ok_iff, ← hread]
  constructor
  · rintro ⟨start', rest, hs, -, hfields, -⟩
    obtain ⟨rfl, rfl⟩ := Prod.mk.inj (Option.some.inj (hsplit.symm.trans hs))
    rwa [hlines] at hfields
  · intro hfields
    exact ⟨start, sectionOf lines, hsplit, hlen, by rwa [hlines], rfl⟩

/-- The decoder ends the body on these bytes, and has found these trailer fields by then. -/
structure EndsOn (d : Decoder) (w : Bytes) (fs : List Field) : Prop where
  fault : (d.decode w).fault = none
  finished : (d.decode w).decoder.isFinished = true
  trailers : (d.decode w).trailers = fs

section Trailers

variable {d : Decoder} {lines : List Bytes} {fs : List Field}

/-- Where the body ends after a part of it depends on the decoder after that part only. -/
theorem endsOn_append_iff {body w : Bytes} (hbody : (d.decode body).fault = none) :
    EndsOn d (body ++ w) ((d.decode body).trailers ++ fs) ↔ EndsOn (d.decode body).decoder w fs := by
  have hcut : d.decode (body ++ w) = (d.decode body).before ((d.decode body).decoder.decode w) := by
    rw [decode_cut, hbody]
    rfl
  constructor
  · intro ⟨hfault, hfin, htrailers⟩
    rw [hcut] at hfault hfin htrailers
    rw [Progress.trailers_before] at htrailers
    exact ⟨hfault, hfin, List.append_cancel_left htrailers⟩
  · intro ⟨hfault, hfin, htrailers⟩
    refine ⟨?_, ?_, ?_⟩
    · rw [hcut]
      exact hfault
    · rw [hcut]
      exact hfin
    · rw [hcut, Progress.trailers_before, htrailers]

theorem endsOn_of_runs {e : Decoder} {w data : Bytes} (h : Runs d w e data fs) (he : e.isFinished = true) :
    EndsOn d w fs ∧ (d.decode w).consumed = w.length := by
  have hdec := decode_eq_ran h
  refine ⟨⟨?_, ?_, ?_⟩, ?_⟩ <;> rw [hdec]
  · rfl
  · exact he
  · exact trailers_ran e w data fs
  · rfl

/-- Lines of the grammar are read as their fields, within the limit. -/
theorem endsOn_of_follows {ls : List TrailerLine} (hphase : d.phase = .trailerStart) (hls : ∀ l ∈ ls, l.Follows)
    (hlimit : d.trailerBytes + (ls.map TrailerLine.weight).sum ≤ d.maxTrailer) :
    EndsOn d (Framed.trailerWire ls) (ls.map TrailerLine.field) ∧
      (d.decode (Framed.trailerWire ls)).consumed = (Framed.trailerWire ls).length := by
  have hd : { d with phase := .trailerStart } = d := by rw [← hphase]
  have hlines := runs_trailerLines hls hlimit
  have hend : Runs { d with
        phase := .trailerStart
        trailerBytes := d.trailerBytes + (ls.map TrailerLine.weight).sum } Text.crlf
      { d with
        phase := .finished
        trailerBytes := d.trailerBytes + (ls.map TrailerLine.weight).sum } [] [] :=
    Runs.step rfl rfl (Runs.step rfl rfl (.refl _))
  have hruns := hlines.append hend
  rw [hd, List.append_nil, List.append_nil] at hruns
  exact endsOn_of_runs hruns rfl

/-- What the decoder reads as trailer lines are lines of the grammar, and all lines of the section. -/
theorem follows_of_endsOn (hphase : d.phase = .trailerStart)
    (h : ∀ line ∈ lines, line ≠ [] ∧ ¬ Text.crlf <:+: line) (hends : EndsOn d (sectionOf lines) fs) :
    ∃ ls : List TrailerLine, (∀ l ∈ ls, l.Follows) ∧ lines = ls.map TrailerLine.text ∧
      fs = ls.map TrailerLine.field := by
  obtain ⟨hle, hruns, -⟩ := runs_of_decode (result_of_fault hends.fault)
  have hpart := completes_of_runs hruns hends.finished
  rw [hphase, hends.trailers] at hpart
  obtain ⟨-, ls, hls, hwire, hfields⟩ := hpart
  have hsection : sectionOf lines = Framed.trailerWire ls ++
      (sectionOf lines).drop (d.decode (sectionOf lines)).consumed := by
    rw [← hwire, List.take_append_drop]
  exact ⟨ls, hls, (lines_of_trailerWire h hls hsection).1, hfields⟩

end Trailers

/-- The two readers of field lines take the same lines, as the same fields in the same order: the trailer lines of a
body, after its last chunk, and the field lines of a head are lines that are read as text one by one. -/
theorem fieldReaders_agree {d : Decoder} {body start : Bytes} {lines : List Bytes} {maxHeader : Nat}
    (hbody : (d.decode body).fault = none) (hphase : (d.decode body).decoder.phase = .trailerStart)
    (hstart : ¬ Text.crlf <:+: start) (hlines : ∀ line ∈ lines, line ≠ [] ∧ ¬ Text.crlf <:+: line)
    (hcount : lines.length ≤ Head.maxFields) (hhead : (sectionOf lines).length ≤ maxHeader)
    (htrailer : (d.decode body).decoder.trailerBytes + (lines.map fun line => line.length + 1).sum ≤ d.maxTrailer)
    (fs : List Field) :
    List.TFAE [
      EndsOn d (body ++ sectionOf lines) ((d.decode body).trailers ++ fs),
      EndsOn d (body ++ sectionOf lines) ((d.decode body).trailers ++ fs) ∧
        (d.decode (body ++ sectionOf lines)).consumed = (body ++ sectionOf lines).length,
      Head.parse (start ++ (Text.crlf ++ sectionOf lines)) maxHeader = .ok (Text.lossy start, ⟨fs⟩),
      List.Forall₂ (fun line f => Field.ofLine (Text.lossy line) = .ok f) lines fs] := by
  have hlimit := (limits_decode d body).2
  have hunfinished : (d.decode body).decoder.isFinished = false := by
    rw [Decoder.isFinished, hphase]
    rfl
  tfae_have 2 → 1 := And.left
  tfae_have 1 → 4 := by
    intro hends
    rw [endsOn_append_iff hbody] at hends
    exact forall₂_ofLine_iff.2 (follows_of_endsOn hphase hlines hends)
  tfae_have 4 → 2 := by
    intro h
    obtain ⟨ls, hls, rfl, rfl⟩ := forall₂_ofLine_iff.1 h
    have hweight : (ls.map TrailerLine.text).map (fun line => line.length + 1) = ls.map TrailerLine.weight := by
      rw [List.map_map]
      exact List.map_congr_left fun l _ => l.weight_eq.symm
    rw [hweight, ← hlimit] at htrailer
    obtain ⟨hends, hconsumed⟩ := endsOn_of_follows hphase hls htrailer
    rw [trailerWire_eq] at hends hconsumed
    refine ⟨(endsOn_append_iff hbody).2 hends, ?_⟩
    have hcut := decode_cut d body (sectionOf (ls.map TrailerLine.text))
    rw [hbody] at hcut
    rw [hcut, List.length_append, ← hconsumed, ← consumed_of_not_finished hbody hunfinished]
    rfl
  tfae_have 3 ↔ 4 := parse_sectionOf_iff hstart hlines hcount hhead
  tfae_finish

/-- A line with a byte that is no text and a blank after it, and a line without a value. -/
def oddLines : List Bytes := [[65, 58, 0xFF, 9], [66, 58]]

theorem oddLines_read_alike :
    let d := (Decoder.new 64 64).start
    let last := Text.utf8 "0\r\n"
    let fs : List Field := [⟨"A", "\uFFFD"⟩, ⟨"B", ""⟩]
    (d.decode last).fault = none ∧ (d.decode last).decoder.phase = .trailerStart ∧
      (∀ line ∈ oddLines, line ≠ [] ∧ ¬ Text.crlf <:+: line) ∧
      EndsOn d (last ++ sectionOf oddLines) fs ∧
      Head.parse (Text.utf8 "GET / HTTP/1.1" ++ (Text.crlf ++ sectionOf oddLines)) 64 =
        .ok ("GET / HTTP/1.1", ⟨fs⟩) := by
  intro d last fs
  have hfault : (d.decode last).fault = none := by decide +kernel
  have hphase : (d.decode last).decoder.phase = .trailerStart := by decide +kernel
  have hlines : ∀ line ∈ oddLines, line ≠ [] ∧ ¬ Text.crlf <:+: line := by decide +kernel
  have hread : List.Forall₂ (fun line f => Field.ofLine (Text.lossy line) = .ok f) oddLines fs :=
    .cons (by decide +kernel) (.cons (by decide +kernel) .nil)
  have hstart : ¬ Text.crlf <:+: Text.utf8 "GET / HTTP/1.1" := by decide +kernel
  have hhead : (sectionOf oddLines).length ≤ 64 := by decide
  have hagree := fieldReaders_agree hfault hphase hstart hlines (by decide) hhead (by decide +kernel) fs
  exact ⟨hfault, hphase, hlines, (hagree.out 3 0).1 hread, (hagree.out 3 2).1 hread⟩

end Chunk
end Http
end Switchboard
