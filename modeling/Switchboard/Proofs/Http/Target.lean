import Mathlib.Data.List.Forall2
import Switchboard.Http.Request
import Switchboard.Proofs.Http.Escapes
import Switchboard.Proofs.Http.StartLine
import Switchboard.Proofs.Text.Parts

/-!
Targets, written and read back. Whoever writes a target is free to choose which characters to escape and in which case
to write the digits, as long as the percent sign and the marks that end a part of the target are escaped
(`Escaping.Writes`). Whatever is chosen, the path, the names and values of the query in their order, and the fragment
are read back (`target_read_back`). Empty names and values are kept, since the equals sign between them makes their
part of the query nonempty.
-/

namespace Switchboard.Http

/-! ## Writing -/

/-- How a part of a target is written. -/
structure Escaping where
  /-- The characters that are always escaped. -/
  reserved : List Char
  /-- A space may be written as a plus sign. -/
  plusIsSpace : Bool
  percent_reserved : '%' ∈ reserved
  plus_reserved : plusIsSpace = true → '+' ∈ reserved

namespace Escaping

/-- The path ends at a question mark or a number sign. -/
def path : Escaping where
  reserved := ['%', '#', '?']
  plusIsSpace := false
  percent_reserved := by decide
  plus_reserved := by decide

/-- A name ends at an equals sign, a value at an ampersand, and the query at a number sign. -/
def query : Escaping where
  reserved := ['%', '#', '&', '=', '+']
  plusIsSpace := true
  percent_reserved := by decide
  plus_reserved := by decide

/-- The escapes of bytes, each in cases of its own. -/
inductive EscapesOf : Bytes → List Char → Prop
  | nil : EscapesOf [] []
  | cons (b : UInt8) (upper upper' : Bool) {bytes : Bytes} {w : List Char} :
    EscapesOf bytes w → EscapesOf (b :: bytes) (escape b upper upper' ++ w)

/-- A text as it may be written: each character as it is, unless it is reserved, or as the escapes of all its bytes, and
a space as a plus sign where that is allowed. -/
inductive Writes (e : Escaping) : List Char → List Char → Prop
  | nil : Writes e [] []
  | bare {c : Char} {text w : List Char} : c ∉ e.reserved → Writes e text w → Writes e (c :: text) (c :: w)
  | escaped {c : Char} {text esc w : List Char} :
    EscapesOf (String.utf8EncodeChar c) esc → Writes e text w → Writes e (c :: text) (esc ++ w)
  | plus {text w : List Char} : e.plusIsSpace = true → Writes e text w → Writes e (' ' :: text) ('+' :: w)

/-! ## Reading -/

theorem percentDecodeBytes_escapesOf {plus : Bool} {bytes : Bytes} {w : List Char} (h : EscapesOf bytes w)
    (rest : Bytes) :
    percentDecodeBytes plus (w.flatMap String.utf8EncodeChar ++ rest) = bytes ++ percentDecodeBytes plus rest := by
  induction h with
  | nil => rfl
  | cons b upper upper' _ ih =>
    rw [List.flatMap_append, List.append_assoc, ← escapeBytes, percentDecodeBytes_escape, ih]
    rfl

/-- Bytes other than the percent sign, and the plus sign where it stands for a space, stay as they are. -/
theorem percentDecodeBytes_bare {plus : Bool} {bytes : Bytes} (h : ∀ b ∈ bytes, b ≠ 37 ∧ (plus = true → b ≠ 43))
    (rest : Bytes) : percentDecodeBytes plus (bytes ++ rest) = bytes ++ percentDecodeBytes plus rest := by
  induction bytes with
  | nil => rfl
  | cons b bytes ih =>
    obtain ⟨hpercent, hplus⟩ := h b List.mem_cons_self
    have hb : ¬ (plus && b == 43) = true := by
      rw [Bool.and_eq_true, beq_iff_eq]
      exact fun hb => hplus hb.1 hb.2
    rw [List.cons_append, percentDecodeBytes_keep (not_prefix_of_ne hpercent _), if_neg hb,
      ih fun x hx => h x (List.mem_cons_of_mem b hx)]
    rfl

variable {e : Escaping} {text w : List Char}

/-- The bytes of a character that is not reserved stay as they are. -/
theorem bytes_of_bare {c : Char} (hc : c ∉ e.reserved) :
    ∀ b ∈ String.utf8EncodeChar c, b ≠ 37 ∧ (e.plusIsSpace = true → b ≠ 43) := by
  have hchar : ∀ b ∈ String.utf8EncodeChar c, b < 0x80 → c = Char.ofNat b.toNat := by
    intro b hb hlt
    have hm : b ∈ Text.utf8 (String.ofList [c]) := by simpa [Text.utf8] using hb
    have h := Text.mem_of_mem_utf8 hlt hm
    rw [String.toList_ofList, List.mem_singleton] at h
    exact h.symm
  intro b hb
  constructor
  · rintro rfl
    rw [hchar 37 hb (by decide)] at hc
    exact hc e.percent_reserved
  · rintro hplus rfl
    rw [hchar 43 hb (by decide)] at hc
    exact hc (e.plus_reserved hplus)

theorem percentDecodeBytes_writes (h : e.Writes text w) (rest : Bytes) :
    percentDecodeBytes e.plusIsSpace (w.flatMap String.utf8EncodeChar ++ rest) =
      text.flatMap String.utf8EncodeChar ++ percentDecodeBytes e.plusIsSpace rest := by
  induction h with
  | nil => rfl
  | bare hc _ ih =>
    rw [List.flatMap_cons, List.flatMap_cons, List.append_assoc, List.append_assoc,
      percentDecodeBytes_bare (bytes_of_bare hc), ih]
  | escaped hesc _ ih =>
    rw [List.flatMap_append, List.flatMap_cons, List.append_assoc, List.append_assoc,
      percentDecodeBytes_escapesOf hesc, ih]
  | plus hplus _ ih =>
    have hbytes : ∀ cs : List Char, ('+' :: cs).flatMap String.utf8EncodeChar = 43 :: cs.flatMap String.utf8EncodeChar ∧
        (' ' :: cs).flatMap String.utf8EncodeChar = 32 :: cs.flatMap String.utf8EncodeChar :=
      fun cs => ⟨rfl, rfl⟩
    have hspace : (e.plusIsSpace && (43 : UInt8) == 43) = true := by
      rw [hplus]
      rfl
    rw [(hbytes _).1, (hbytes _).2, List.cons_append, percentDecodeBytes_keep (not_prefix_of_ne (by decide) _),
      if_pos hspace, ih]
    rfl

/-- What is written of a text is decoded to the text. -/
theorem percentDecode_writes (h : e.Writes text w) : percentDecode e.plusIsSpace w = String.ofList text := by
  have hbytes := percentDecodeBytes_writes h []
  rw [List.append_nil, show percentDecodeBytes e.plusIsSpace [] = [] from rfl, List.append_nil] at hbytes
  rw [percentDecode, hbytes, ← Text.lossy_utf8 (String.ofList text), Text.utf8, String.toList_ofList]

/-! ## Marks -/

/-- The characters that escapes and plus signs are made of. -/
def marks : List Char := "%+0123456789abcdefABCDEF".toList

theorem mem_marks_of_mem_escape {b : UInt8} {upper upper' : Bool} {c : Char} (h : c ∈ escape b upper upper') :
    c ∈ marks := by
  have hdigits : ∀ upper : Bool, ∀ n : Fin 16, hexDigit upper n ∈ marks := by decide +kernel
  have hb := b.toNat_lt
  simp only [escape, List.mem_cons, List.not_mem_nil, or_false] at h
  rcases h with rfl | rfl | rfl
  · decide
  · exact hdigits upper ⟨b.toNat / 16, by omega⟩
  · exact hdigits upper' ⟨b.toNat % 16, by omega⟩

/-- A reserved character that is not a mark of an escape does not occur in what is written. -/
theorem not_mem_of_writes {c : Char} (hc : c ∈ e.reserved) (hmark : c ∉ marks) (h : e.Writes text w) : c ∉ w := by
  have hesc : ∀ {bytes esc}, EscapesOf bytes esc → c ∉ esc := by
    intro bytes esc hesc
    induction hesc with
    | nil => exact List.not_mem_nil
    | cons b upper upper' _ ih =>
      rw [List.mem_append]
      exact not_or.2 ⟨fun hm => hmark (mem_marks_of_mem_escape hm), ih⟩
  induction h with
  | nil => exact List.not_mem_nil
  | bare hbare _ ih =>
    refine List.not_mem_cons_of_ne_of_not_mem ?_ ih
    rintro rfl
    exact hbare hc
  | escaped he _ ih =>
    rw [List.mem_append]
    exact not_or.2 ⟨hesc he, ih⟩
  | plus _ _ ih =>
    refine List.not_mem_cons_of_ne_of_not_mem ?_ ih
    rintro rfl
    exact hmark (by decide)

end Escaping

/-! ## Queries -/

/-- A name and a value as they may be written. -/
structure PairWrites (pair : String × String) (raw : List Char × List Char) : Prop where
  name : Escaping.query.Writes pair.1.toList raw.1
  value : Escaping.query.Writes pair.2.toList raw.2

/-- A name and a value with an equals sign between them. -/
def pairText (raw : List Char × List Char) : List Char := raw.1 ++ '=' :: raw.2

/-- The names and values of a query, with ampersands between them. -/
def queryText (raws : List (List Char × List Char)) : List Char := ['&'].intercalate (raws.map pairText)

section Query

variable {pairs : List (String × String)} {raws : List (List Char × List Char)}

/-- A mark that is reserved in names and values occurs in no pair, the equals sign aside. -/
theorem not_mem_pairText (h : List.Forall₂ PairWrites pairs raws) {c : Char} (hc : c ∈ Escaping.query.reserved)
    (hmark : c ∉ Escaping.marks) (hne : c ≠ '=') : ∀ part ∈ raws.map pairText, c ∉ part := by
  rw [List.forall_mem_map]
  induction h with
  | nil => exact fun _ hm => absurd hm List.not_mem_nil
  | @cons pair raw _ _ hpair _ ih =>
    refine List.forall_mem_cons.2 ⟨?_, ih⟩
    rw [pairText, List.mem_append, List.mem_cons]
    rintro (hm | hm | hm)
    · exact Escaping.not_mem_of_writes hc hmark hpair.name hm
    · exact hne hm
    · exact Escaping.not_mem_of_writes hc hmark hpair.value hm

/-- The parts of a query between its ampersands are the pairs that were written. -/
theorem splitAll_queryText (h : List.Forall₂ PairWrites pairs raws) :
    (Text.splitAll '&' (queryText raws)).filter (!·.isEmpty) = raws.map pairText := by
  have hfree := not_mem_pairText h (c := '&') (by decide) (by decide) (by decide)
  have hfull : ∀ part ∈ raws.map pairText, (!part.isEmpty) = true := by
    rw [List.forall_mem_map]
    intro raw _
    simp [pairText]
  by_cases hne : raws = []
  · rw [hne]
    rfl
  · rw [queryText, Text.splitAll_intercalate hfree (by simpa using hne), List.filter_eq_self.2 hfull]

/-- The names and values of a query are read back in their order. -/
theorem parseQuery_queryText (h : List.Forall₂ PairWrites pairs raws) : parseQuery (queryText raws) = pairs := by
  rw [parseQuery, splitAll_queryText h, List.map_map]
  induction h with
  | nil => rfl
  | @cons pair raw _ _ hpair _ ih =>
    have hcut : Text.splitOnce? '=' (pairText raw) = some (raw.1, raw.2) :=
      Text.splitOnce?_append (Escaping.not_mem_of_writes (by decide) (by decide) hpair.name) raw.2
    have hname := Escaping.percentDecode_writes hpair.name
    have hvalue := Escaping.percentDecode_writes hpair.value
    rw [String.ofList_toList] at hname hvalue
    rw [List.map_cons, ih, Function.comp_apply, hcut]
    exact congrArg (· :: _) (Prod.ext hname hvalue)

end Query

/-! ## Targets -/

/-- A target with its parts as they may be written. -/
def targetText (rawPath : List Char) (raws : List (List Char × List Char)) (fragment : String) : String :=
  String.ofList (rawPath ++ '?' :: queryText raws ++ '#' :: fragment.toList)

theorem ofText_targetText {path fragment : String} {rawPath : List Char} {pairs : List (String × String)}
    {raws : List (List Char × List Char)} (hpath : Escaping.path.Writes path.toList rawPath)
    (hpairs : List.Forall₂ PairWrites pairs raws) :
    Target.ofText (targetText rawPath raws fragment) =
      ⟨path, String.ofList (queryText raws), pairs, fragment⟩ := by
  have hsign : '#' ∉ rawPath ++ '?' :: queryText raws := by
    rw [List.mem_append, List.mem_cons]
    rintro (hm | hm | hm)
    · exact Escaping.not_mem_of_writes (by decide) (by decide) hpath hm
    · exact absurd hm (by decide)
    · have hfree := not_mem_pairText hpairs (c := '#') (by decide) (by decide) (by decide)
      exact Text.not_mem_intercalate (by decide) hfree hm
  have hmark : '?' ∉ rawPath := Escaping.not_mem_of_writes (by decide) (by decide) hpath
  have hdecoded := Escaping.percentDecode_writes hpath
  rw [String.ofList_toList] at hdecoded
  rw [targetText, Target.ofText, String.toList_ofList, Text.splitOnce?_append hsign]
  simp only [Option.getD_some]
  rw [Text.splitOnce?_append hmark]
  simp only [Option.getD_some]
  rw [parseQuery_queryText hpairs, String.ofList_toList]
  exact congrArg (fun p => Target.mk p _ _ _) hdecoded

/-- The target of a request is read back in its parts, whichever characters of it are escaped; and what a text is
decoded to is the text of its bytes with the escapes among them replaced. -/
theorem target_read_back {path fragment : String} {rawPath : List Char} {pairs : List (String × String)}
    {raws : List (List Char × List Char)} (hpath : Escaping.path.Writes path.toList rawPath)
    (hpairs : List.Forall₂ PairWrites pairs raws) :
    (∀ r : Request, r.target = targetText rawPath raws fragment →
      r.path = path ∧ r.query = pairs ∧ r.fragment = fragment ∧ r.rawQuery = String.ofList (queryText raws)) ∧
    ∀ s : String, ∃ out, (∀ out', Unescapes (Text.utf8 s) out' ↔ out' = out) ∧
      percentDecode false s.toList = Text.lossy out := by
  constructor
  · intro r hr
    rw [Request.path, Request.query, Request.fragment, Request.rawQuery, hr, ofText_targetText hpath hpairs]
    exact ⟨rfl, rfl, rfl, rfl⟩
  · intro s
    exact ⟨percentDecodeBytes false (Text.utf8 s), fun out' => unescapes_iff, rfl⟩

-- a percent sign that begins no escape stays, also at the end of the text
example : percentDecode false "%%41%2".toList = "%A%2" := by decide +kernel

/-- A path of which two characters are escaped, with digits of both cases. -/
theorem writes_escapedPath :
    Escaping.path.Writes "/\u00E9%".toList ['/', '%', 'c', '3', '%', 'A', '9', '%', '2', '5'] := by
  have htext : "/\u00E9%".toList = ['/', '\u00E9', '%'] := by decide
  have hletter : Escaping.EscapesOf (String.utf8EncodeChar '\u00E9') ['%', 'c', '3', '%', 'A', '9'] :=
    .cons 0xC3 false false (.cons 0xA9 true false .nil)
  have hpercent : Escaping.EscapesOf (String.utf8EncodeChar '%') ['%', '2', '5'] :=
    .cons 0x25 false false .nil
  rw [htext]
  exact .bare (by decide) (.escaped hletter (.escaped hpercent .nil))

/-- A pair with a space that is written as a plus sign and an ampersand that is escaped, and a pair of empty texts. -/
theorem writes_escapedPairs :
    List.Forall₂ PairWrites [("a b", "&"), ("", "")] [(['a', '+', 'b'], ['%', '2', '6']), ([], [])] := by
  have hname : Escaping.query.Writes "a b".toList ['a', '+', 'b'] :=
    .bare (by decide) (.plus rfl (.bare (by decide) .nil))
  have hampersand : Escaping.EscapesOf (String.utf8EncodeChar '&') ['%', '2', '6'] := .cons 0x26 false false .nil
  have hvalue : Escaping.query.Writes "&".toList ['%', '2', '6'] := .escaped hampersand .nil
  exact .cons ⟨hname, hvalue⟩ (.cons ⟨.nil, .nil⟩ .nil)

theorem escapedTarget_read_back :
    let r : Request := { target := "/%c3%A9%25?a+b=%26&=#x#y" }
    r.path = "/\u00E9%" ∧ r.query = [("a b", "&"), ("", "")] ∧ r.fragment = "x#y" ∧ r.rawQuery = "a+b=%26&=" := by
  intro r
  exact (target_read_back writes_escapedPath writes_escapedPairs).1 r (by decide +kernel)

end Switchboard.Http
