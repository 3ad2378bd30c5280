import Switchboard.Http.Response
import Switchboard.Http.StartLine
import Switchboard.Proofs.Http.Head.RoundTrip
import Switchboard.Proofs.Http.StatusLine

/-!
The head of a response, written and read back. Where a response can be written (`Response.Writable`), its status
line is read as its version, its status and its reason (`StatusLine.parse_line`), its head is found at the front of
any bytes that begin with it (`Response.split?_head`), and reading the head gives back the line and the fields,
trimmed (`Response.parse_head`). Where the fields describe the body (`Response.IsFramed`), they still do once they
are trimmed.
-/

namespace Switchboard.Http

/-! ## Status lines -/

namespace Status

theorem code_lt_of_isValid {s : Status} (h : s.isValid = true) : s.code < 512 := by
  obtain ⟨⟨low, high⟩, hr, hle⟩ := List.any_eq_true.1 h
  have hhigh : ∀ r ∈ ranges, r.2 < 512 := by decide
  have hcode : s.code ≤ high := of_decide_eq_true (Bool.and_eq_true_iff.1 hle).2
  exact Nat.lt_of_le_of_lt hcode (hhigh _ hr)

/-- The phrases of the table have no line end in them. -/
theorem cr_not_mem_phrase (s : Status) : '\r' ∉ s.phrase.toList := by
  have hregistered : ∀ n, '\r' ∉ ((registered? n).getD "Reserved").toList := by
    intro n
    unfold registered?
    split <;> decide +kernel
  unfold phrase
  split
  · exact hregistered s.code
  · decide

end Status

/-- A response that can be written: the status has three digits, the reason has no line end in it, and the fields
can be written. -/
structure Response.Writable (r : Response) : Prop where
  status : r.status.code < 1000
  reason : ∀ reason, r.customReason = some reason → '\r' ∉ reason.toList
  fields : ∀ f ∈ r.fields.toList, f.Writable

variable {r : Response}

theorem Response.line_eq (r : Response) :
    r.line = r.version.name ++ " " ++ Text.decimal3 r.status.code ++ (" " ++ r.reason) := by
  rw [← String.append_assoc]
  simp [Response.line, toString]

theorem Response.toList_line (r : Response) :
    r.line.toList =
      r.version.name.toList ++ ' ' :: ((Text.decimal3 r.status.code).toList ++ ' ' :: r.reason.toList) := by
  rw [Response.line_eq]
  simp [String.toList_append]

/-- The status line of a response is read back; an empty reason is no reason. -/
theorem StatusLine.parse_line (h : r.status.code < 1000) :
    StatusLine.parse r.line =
      .ok ⟨r.version, r.status, if r.reason.toList.isEmpty then none else some r.reason⟩ := by
  have hcode : StatusLine.IsCode (Text.decimal3 r.status.code) r.status.code :=
    ⟨Text.isNumeral_decimal3 r.status.code, Text.length_decimal3 h⟩
  have hending : StatusLine.Ending (if r.reason.toList.isEmpty then none else some r.reason) (" " ++ r.reason) := by
    rw [StatusLine.ending_iff]
    exact ⟨r.reason.toList, Or.inl (by simp [String.toList_append]), by rw [String.ofList_toList]⟩
  exact StatusLine.parse_eq_ok_iff.2 ⟨_, _, Response.line_eq r, Or.inl hcode, hending⟩

namespace Response

/-! ## Heads -/

/-- The status line as it is sent. -/
def lineBytes (r : Response) : Bytes := Text.utf8 r.line

theorem head_eq (r : Response) : r.head = r.lineBytes ++ (Text.crlf ++ r.fields.wire) :=
  List.append_assoc _ _ _

theorem cr_not_mem_reason (h : r.Writable) : '\r' ∉ r.reason.toList := by
  unfold reason
  rcases hc : r.customReason with _ | reason
  · exact Status.cr_not_mem_phrase r.status
  · exact h.reason reason hc

/-- The status line has no line end in it. -/
theorem cr_not_mem_lineBytes (h : r.Writable) : 13 ∉ r.lineBytes := by
  intro hm
  have hc : '\r' ∈ r.line.toList := Text.mem_of_mem_utf8 (by decide) hm
  rw [toList_line] at hc
  simp only [List.mem_append, List.mem_cons] at hc
  have hversion : '\r' ∉ r.version.name.toList := by cases r.version <;> decide
  rcases hc with hc | hc | hc | hc | hc
  · exact hversion hc
  · exact absurd hc (by decide)
  · exact absurd (Text.isDigit_of_mem_decimal3 hc) (by decide)
  · exact absurd hc (by decide)
  · exact cr_not_mem_reason h hc

theorem lineBytes_ne_nil (r : Response) : r.lineBytes ≠ [] := by
  intro hnil
  have hchars := congrArg (fun b => (Text.lossy b).toList) hnil
  simp only [lineBytes, Text.lossy_utf8, toList_line] at hchars
  exact absurd hchars (by simp)

/-- The head is found at the front of any bytes that begin with it. -/
theorem split?_head (h : r.Writable) (more : Bytes) :
    Head.split? (Head.dropBlankLines (r.head ++ more)) = some (r.head, more) := by
  have hblank : ¬ Text.crlf <+: r.head ++ more := by
    rw [head_eq, List.append_assoc]
    exact Head.not_prefix_line (lineBytes_ne_nil r) (cr_not_mem_lineBytes h) _
  rw [Head.dropBlankLines_of_no_crlf hblank, head_eq]
  exact Head.split?_lineWire (cr_not_mem_lineBytes h) h.fields more

theorem splitLine?_head (h : r.Writable) : Head.splitLine? r.head = some (r.lineBytes, r.fields.wire) := by
  rw [head_eq]
  exact Head.splitLine?_line (cr_not_mem_lineBytes h) r.fields.wire

theorem parse_head {maxHeader : Nat} (h : r.Writable) (hcount : r.fields.size ≤ Head.maxFields)
    (hlen : r.fields.wire.length ≤ maxHeader) :
    Head.parse r.head maxHeader = .ok (r.line, r.fields.trimmed) := by
  rw [head_eq]
  exact Head.parse_lineWire (cr_not_mem_lineBytes h) h.fields hcount hlen

/-- A response as the other side sees it that got this body: the values are trimmed, and the reason is kept if it is
not the one of the table. -/
def received (r : Response) (body : Bytes) : Response where
  version := r.version
  status := r.status
  customReason := (if r.reason.toList.isEmpty then none else some r.reason).filter (· != r.status.phrase)
  fields := r.fields.trimmed
  body := body

/-- A reason that is not empty is read as it was written, whether it is the phrase of the table or not. -/
theorem reason_received (h : r.reason.toList ≠ []) (body : Bytes) : (r.received body).reason = r.reason := by
  have hcustom : (r.received body).customReason = (some r.reason).filter (· != r.status.phrase) := by
    rw [received, if_neg (by simpa using h)]
  rw [reason, hcustom]
  by_cases hp : r.reason = r.status.phrase
  · rw [hp, Option.filter_some, if_neg (by simp)]
    rfl
  · rw [Option.filter_some, if_pos (by simpa using hp)]
    rfl

/-! ## Framing -/

/-- The fields say how long the body is, and nothing else about it. -/
structure IsFramed (r : Response) : Prop where
  length : r.fields.get? "Content-Length" = some (Text.decimal r.body.length)
  coding : r.fields.getAll "Transfer-Encoding" = []

theorem isChunked_trimmed (h : r.IsFramed) : r.fields.trimmed.isChunked = false := by
  unfold Fields.isChunked Fields.hasToken
  rw [Fields.getAll_trimmed, h.coding]
  rfl

theorem contentLength_trimmed (h : r.IsFramed) (hw : r.body.length < Text.wordSize) :
    r.fields.trimmed.contentLength = .ok (some r.body.length) := by
  have hbare := (Text.isNumeral_decimal r.body.length).isBare
  unfold Fields.contentLength
  rw [Fields.get?_trimmed, h.length]
  simp only [Option.map_some, Text.trimSpaceTab, Text.trimBy, Text.trimList_of_isBare hbare.of_blank,
    String.ofList_toList, Text.trimList_of_isBare hbare, Text.readUnsigned?_decimal hw]

end Response
end Switchboard.Http
