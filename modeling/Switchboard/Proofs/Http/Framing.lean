import Switchboard.Http.Framing
import Switchboard.Proofs.Http.Fields

/-!
How the fields of a head frame the body. What they declare is spread over the list: the codings that the coding fields
name (`Fields.codings`), and the numbers that the length fields denote (`Fields.lengths`). Opening a request finds
nothing wrong with them (`Fields.framingFault?`) if and only if they frame the body (`framingFault?_eq_none_iff`):
chunked is among the codings, or there is no coding field and the first length is a number.
-/

namespace Switchboard.Http.Fields

variable {h : Fields}

/-- The parts of a value between commas, blanks at the ends and the case of letters aside. -/
def elements (value : String) : List (List Char) :=
  (Text.splitAll ',' value.toList).map fun part => (Text.trimList Text.isBlank part).map Char.toLower

/-- The transfer codings that the fields name, in order, over all coding fields. -/
def codings (h : Fields) : List (List Char) := (h.getAll "Transfer-Encoding").flatMap elements

/-- The number that a length field denotes. -/
def lengthOf? (value : String) : Option Nat :=
  Text.readUnsigned? Text.wordSize (Text.trimList Text.isBlank value.toList)

/-- What the length fields denote, in order. -/
def lengths (h : Fields) : List (Option Nat) := (h.getAll "Content-Length").map lengthOf?

/-- The name of the chunked coding. -/
def chunkedCoding : List Char := Text.foldCase "chunked"

/-- The fields frame the body: chunked is among the codings, or there is none, and the first length is a number. -/
def IsFramed (h : Fields) : Prop :=
  (h.getAll "Transfer-Encoding" = [] ∧ h.lengths.head? ≠ some none) ∨
    (h.getAll "Transfer-Encoding" ≠ [] ∧ chunkedCoding ∈ h.codings)

/-- The fields frame the body in one way only: chunked is the only coding, or there is none, and all lengths are one
number. -/
def IsUnambiguous (h : Fields) : Prop :=
  (h.getAll "Transfer-Encoding" = [] ∧ ∃ n, ∀ l ∈ h.lengths, l = some n) ∨
    (h.getAll "Transfer-Encoding" ≠ [] ∧ h.codings = [chunkedCoding])

/-- What opening a request finds wrong with what its fields declare. -/
def framingFault? (h : Fields) : Option Fault :=
  if h.contains "Transfer-Encoding" && !h.isChunked then some .transferCoding
  else
    match if h.isChunked then .ok none else h.contentLength with
    | .error f => some f
    | .ok _ => none

theorem valueHasToken_iff {value token : String} :
    valueHasToken value token = true ↔ Text.foldCase token ∈ elements value := by
  rw [valueHasToken, List.any_eq_true, elements, List.mem_map]
  simp only [beq_iff_eq]

theorem isChunked_iff : h.isChunked = true ↔ chunkedCoding ∈ h.codings := by
  rw [isChunked, hasToken, List.any_eq_true, codings, List.mem_flatMap]
  simp only [valueHasToken_iff, chunkedCoding]

theorem contains_iff {name : String} : h.contains name = true ↔ h.getAll name ≠ [] := by
  rw [contains, getAll, ne_eq, List.map_eq_nil_iff, List.filter_eq_nil_iff, List.any_eq_true]
  push Not
  rfl

/-- The declared length is what the first length field denotes, if there is one. -/
theorem contentLength_eq (h : Fields) :
    h.contentLength = match h.get? "Content-Length" with
      | none => .ok none
      | some value => match lengthOf? value with
        | some n => .ok (some n)
        | none => .error (.contentLength value) := rfl

theorem head?_lengths (h : Fields) : h.lengths.head? = (h.get? "Content-Length").map lengthOf? := by
  rw [lengths, List.head?_map, get?_eq_head?]

/-- A length is refused if and only if the first length field denotes no number, which is the other side's doing. -/
theorem contentLength_error {f : Fault} (hf : h.contentLength = .error f) :
    h.lengths.head? = some none ∧ ∃ value, f = .contentLength value := by
  rw [contentLength_eq] at hf
  rw [head?_lengths]
  rcases hv : h.get? "Content-Length" with _ | value <;> simp only [hv] at hf
  · exact absurd hf (by simp)
  · rcases hl : lengthOf? value with _ | n <;> simp only [hl] at hf
    · exact ⟨congrArg some hl, value, (Except.error.inj hf).symm⟩
    · exact absurd hf (by simp)

theorem contentLength_ok {n : Option Nat} (hn : h.contentLength = .ok n) : h.lengths.head? = n.map some := by
  rw [contentLength_eq] at hn
  rw [head?_lengths]
  rcases hv : h.get? "Content-Length" with _ | value <;> simp only [hv] at hn
  · obtain rfl := Except.ok.inj hn
    rfl
  · rcases hl : lengthOf? value with _ | m <;> simp only [hl] at hn
    · exact absurd hn (by simp)
    · obtain rfl := Except.ok.inj hn
      exact congrArg some hl

/-- Nothing is wrong if and only if the fields frame the body. -/
theorem framingFault?_eq_none_iff : h.framingFault? = none ↔ h.IsFramed := by
  unfold framingFault? IsFramed
  -- chunked settles it; without it any coding field is a fault, and without these the first length decides
  by_cases hc : h.isChunked = true
  · have hmem := isChunked_iff.1 hc
    have hne : h.getAll "Transfer-Encoding" ≠ [] := by
      intro hnil
      rw [codings, hnil] at hmem
      exact absurd hmem List.not_mem_nil
    rw [hc, Bool.not_true, Bool.and_false, if_neg Bool.false_ne_true, if_pos rfl]
    exact iff_of_true rfl (Or.inr ⟨hne, hmem⟩)
  · have hmem : chunkedCoding ∉ h.codings := fun hm => hc (isChunked_iff.2 hm)
    rw [Bool.eq_false_iff.2 hc, Bool.not_false, Bool.and_true, if_neg Bool.false_ne_true]
    by_cases ht : h.contains "Transfer-Encoding" = true
    · rw [if_pos ht]
      refine iff_of_false (by simp) ?_
      rintro (⟨hnil, -⟩ | ⟨-, hm⟩)
      · exact contains_iff.1 ht hnil
      · exact hmem hm
    · have hnil : h.getAll "Transfer-Encoding" = [] := getAll_of_not_contains (Bool.eq_false_iff.2 ht)
      rw [if_neg ht]
      rcases hl : h.contentLength with f | n
      · refine iff_of_false (by simp) ?_
        rintro (⟨-, hne⟩ | ⟨hne, -⟩)
        · exact hne (contentLength_error hl).1
        · exact hne hnil
      · refine iff_of_true rfl (Or.inl ⟨hnil, ?_⟩)
        rw [contentLength_ok hl]
        cases n <;> simp

/-- What is wrong with the framing is the other side's doing. -/
theorem category_framingFault? {f : Fault} (hf : h.framingFault? = some f) :
    f.isTransport = false ∧ f.category = .clientData := by
  have hcases : f = .transferCoding ∨ ∃ value, f = .contentLength value := by
    unfold framingFault? at hf
    split at hf
    · exact Or.inl (Option.some.inj hf).symm
    · split at hf
      next g hg =>
        obtain rfl := Option.some.inj hf
        split at hg
        · exact absurd hg (by simp)
        · exact Or.inr (contentLength_error hg).2
      · exact absurd hf (by simp)
  obtain rfl | ⟨value, rfl⟩ := hcases
  · exact ⟨rfl, rfl⟩
  · exact ⟨rfl, rfl⟩

end Switchboard.Http.Fields
