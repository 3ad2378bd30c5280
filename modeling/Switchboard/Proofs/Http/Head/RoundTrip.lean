import Switchboard.Http.Request
import Switchboard.Proofs.Http.Fields
import Switchboard.Proofs.Http.Head.Scan
import Switchboard.Proofs.Http.StartLine

/-!
Heads, written and read back. A head is a first line without a line end in it, and fields that can be written. It
is found at the front of any bytes that begin with it (`split?_lineWire`), and reading it gives back the line and
the fields, trimmed (`parse_lineWire`). The head of a request whose target and fields can be sent is the case in
which nothing is trimmed (`split?_head`, `parse_head`).
-/

namespace Switchboard.Http

open Head

/-! ## Where a head ends -/

namespace Head

/-- A line end with another line after it does not end the head. -/
theorem split?_crlf_append {w : Bytes} (hne : w ≠ []) (h : 13 ∉ w) (rest : Bytes) :
    split? (Text.crlf ++ (w ++ rest)) =
      (split? rest).map fun p => (Text.crlf ++ (w ++ p.1), p.2) := by
  cases w with
  | nil => exact absurd rfl hne
  | cons b w =>
    have hb : b ≠ 13 := fun hb => h (by rw [hb]; exact List.mem_cons_self)
    have hcr : split? (13 :: 10 :: (b :: w ++ rest)) =
        (split? (10 :: (b :: w ++ rest))).map fun p => (13 :: p.1, p.2) := by
      rw [split?]
      rintro _ - he
      obtain ⟨-, he⟩ := List.cons.inj he
      exact hb (List.cons.inj he).1
    have hlf : split? (10 :: (b :: w ++ rest)) =
        (split? (b :: w ++ rest)).map fun p => (10 :: p.1, p.2) := by
      rw [split?]
      rintro _ he
      exact absurd he (by decide)
    show split? (13 :: 10 :: (b :: w ++ rest)) = _
    rw [hcr, hlf, split?_append_of_not_mem h, Option.map_map, Option.map_map]
    rfl

variable {line : Bytes} {h : Fields}

/-- The fields end at their blank line. -/
theorem split?_wire (hw : ∀ f ∈ h.toList, f.Writable) (more : Bytes) :
    split? (Text.crlf ++ (h.wire ++ more)) = some (Text.crlf ++ h.wire, more) := by
  have hfields : ∀ fs : List Field, (∀ f ∈ fs, f.Writable) →
      split? (Text.crlf ++ (fs.flatMap (fun f => f.line ++ Text.crlf) ++ (Text.crlf ++ more))) =
        some (Text.crlf ++ (fs.flatMap (fun f => f.line ++ Text.crlf) ++ Text.crlf), more) := by
    intro fs hfs
    induction fs with
    | nil => rfl
    | cons f fs ih =>
      have hcr := Field.cr_not_mem_line (hfs f List.mem_cons_self)
      rw [List.flatMap_cons, List.append_assoc, List.append_assoc,
        split?_crlf_append (Field.line_ne_nil f) hcr,
        ih fun g hg => hfs g (List.mem_cons_of_mem f hg)]
      simp
  rw [Fields.wire_eq, List.append_assoc]
  exact hfields h.toList hw

/-- A line that is not empty does not begin with a line end. -/
theorem not_prefix_line (hne : line ≠ []) (hcr : 13 ∉ line) (more : Bytes) :
    ¬ Text.crlf <+: line ++ more := by
  cases line with
  | nil => exact absurd rfl hne
  | cons b w =>
    rintro ⟨v, hv⟩
    have hb : (13 : UInt8) = b := (List.cons.inj hv).1
    exact hcr (by rw [hb]; exact List.mem_cons_self)

/-- A head is found at the front of any bytes that begin with it. -/
theorem split?_lineWire (hcr : 13 ∉ line) (hw : ∀ f ∈ h.toList, f.Writable) (more : Bytes) :
    split? (line ++ (Text.crlf ++ h.wire) ++ more) = some (line ++ (Text.crlf ++ h.wire), more) := by
  rw [List.append_assoc, List.append_assoc, split?_append_of_not_mem hcr, split?_wire hw more]
  rfl

/-! ## What a head says -/

theorem parse_lineWire {text : String} {maxHeader : Nat} (hcr : 13 ∉ Text.utf8 text)
    (hw : ∀ f ∈ h.toList, f.Writable) (hcount : h.size ≤ maxFields) (hlen : h.wire.length ≤ maxHeader) :
    Head.parse (Text.utf8 text ++ (Text.crlf ++ h.wire)) maxHeader = .ok (text, h.trimmed) := by
  have hread : readFields maxHeader 0 (fieldLines h.wire) = .ok (h.toList.map Field.trimmed) := by
    rw [fieldLines_wire hw]
    exact readFields_lines hw maxHeader (by rw [Nat.zero_add]; exact hcount)
  exact parse_eq_ok_iff.2 ⟨_, _, splitLine?_line hcr _, hlen, hread, (Text.lossy_utf8 text).symm⟩

end Head

/-! ## Heads of requests -/

/-- The first line of a request as it is sent. -/
def Request.lineBytes (r : Request) : Bytes := Text.utf8 r.line.render

variable {r : Request} {maxUrl : Nat}

theorem head_eq (r : Request) : r.head = r.lineBytes ++ (Text.crlf ++ r.fields.wire) :=
  List.append_assoc _ _ _

theorem ascii_of_targetFits (h : RequestLine.TargetFits maxUrl r.target) :
    ∀ c ∈ r.line.render.toList, c.toNat < 0x80 :=
  (RequestLine.length_le_of_parse (RequestLine.parse_eq_ok_iff.2 ⟨rfl, h⟩)).1

/-- The line of a request has no line end in it. -/
theorem cr_not_mem_lineBytes (h : RequestLine.TargetFits maxUrl r.target) : 13 ∉ r.lineBytes := by
  intro hm
  have hc : '\r' ∈ r.line.render.toList := Text.mem_of_mem_utf8 (by decide) hm
  rw [RequestLine.toList_render] at hc
  simp only [List.mem_append, List.mem_cons] at hc
  have hmethod : '\r' ∉ r.line.method.name.toList := by cases r.line.method <;> decide
  have hversion : '\r' ∉ r.line.version.name.toList := by cases r.line.version <;> decide
  have htarget : '\r' ∉ r.line.target.toList := by
    intro ht
    exact absurd (List.all_eq_true.1 h.graphic '\r' ht) (by decide)
  rcases hc with hc | hc | hc | hc | hc
  · exact hmethod hc
  · exact absurd hc (by decide)
  · exact htarget hc
  · exact absurd hc (by decide)
  · exact hversion hc

theorem lineBytes_ne_nil (h : RequestLine.TargetFits maxUrl r.target) : r.lineBytes ≠ [] := by
  intro hnil
  have hlen := Text.length_utf8_of_ascii (ascii_of_targetFits h)
  rw [show Text.utf8 r.line.render = [] from hnil, RequestLine.toList_render] at hlen
  simp at hlen

/-- A head does not begin with a blank line. -/
theorem not_prefix_head (ht : RequestLine.TargetFits maxUrl r.target) (more : Bytes) :
    ¬ Text.crlf <+: r.head ++ more := by
  rw [head_eq, List.append_assoc]
  exact not_prefix_line (lineBytes_ne_nil ht) (cr_not_mem_lineBytes ht) _

/-- The head is found at the front of any bytes that begin with it. -/
theorem split?_head (ht : RequestLine.TargetFits maxUrl r.target)
    (hs : ∀ f ∈ r.fields.toList, f.Sendable) (more : Bytes) :
    split? (r.head ++ more) = some (r.head, more) := by
  rw [head_eq]
  exact split?_lineWire (cr_not_mem_lineBytes ht) (fun f hf => (hs f hf).writable) more

theorem split?_dropBlankLines_head (ht : RequestLine.TargetFits maxUrl r.target)
    (hs : ∀ f ∈ r.fields.toList, f.Sendable) (more : Bytes) :
    split? (dropBlankLines (r.head ++ more)) = some (r.head, more) := by
  rw [dropBlankLines_of_no_crlf (not_prefix_head ht more)]
  exact split?_head ht hs more

theorem splitLine?_head (ht : RequestLine.TargetFits maxUrl r.target) :
    splitLine? r.head = some (r.lineBytes, r.fields.wire) := by
  rw [head_eq]
  exact splitLine?_line (cr_not_mem_lineBytes ht) r.fields.wire

theorem parse_head {maxHeader : Nat} (ht : RequestLine.TargetFits maxUrl r.target)
    (hs : ∀ f ∈ r.fields.toList, f.Sendable) (hcount : r.fields.size ≤ maxFields)
    (hlen : r.fields.wire.length ≤ maxHeader) :
    Head.parse r.head maxHeader = .ok (r.line.render, r.fields) := by
  have hw : ∀ f ∈ r.fields.toList, f.Writable := fun f hf => (hs f hf).writable
  have hparse := parse_lineWire (cr_not_mem_lineBytes ht) hw hcount hlen
  rw [Fields.trimmed_of_sendable hs] at hparse
  rw [head_eq]
  exact hparse

end Switchboard.Http
