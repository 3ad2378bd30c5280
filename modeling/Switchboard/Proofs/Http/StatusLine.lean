import Switchboard.Proofs.Http.StartLine
import Switchboard.Proofs.Text.Numeral

/-!
Status lines. Reading a line gives a status line just when the line is its version, a space, a text of the status and an
ending (`StatusLine.parse_eq_ok_iff`); any other line is refused, as the other side's doing
(`StatusLine.category_of_parse`). The text of the status has three bytes and is read as a number, which makes it three
digits, or a plus sign with two digits. So the lines that are read are those of the grammar, and those with a plus sign
(`StatusLine.statusLine_grammar_iff`).
-/

namespace Switchboard

namespace Text

variable {c : Char} {cs before after : List Char}

theorem splitOnce?_eq_none_iff : splitOnce? c cs = none ↔ c ∉ cs := by
  constructor
  · intro h hc
    obtain ⟨before, after, rfl, hbefore⟩ := List.eq_append_cons_of_mem hc
    rw [splitOnce?_append hbefore] at h
    exact absurd h (by simp)
  · intro hc
    rcases h : splitOnce? c cs with _ | ⟨before, after⟩
    · rfl
    · obtain ⟨rfl, -⟩ := splitOnce?_eq_some h
      exact absurd (List.mem_append_right before List.mem_cons_self) hc

/-- A text up to the first occurrence of a character, or all of it, and what comes after. -/
theorem splitOnce?_getD_eq_iff : (splitOnce? c cs).getD (cs, []) = (before, after) ↔
    c ∉ before ∧ (cs = before ++ c :: after ∨ cs = before ∧ after = []) := by
  constructor
  · intro h
    rcases hs : splitOnce? c cs with _ | p <;> rw [hs] at h
    · obtain ⟨rfl, rfl⟩ := Prod.mk.inj h
      exact ⟨splitOnce?_eq_none_iff.1 hs, Or.inr ⟨rfl, rfl⟩⟩
    · obtain rfl : p = (before, after) := h
      obtain ⟨hcs, hbefore⟩ := splitOnce?_eq_some hs
      exact ⟨hbefore, Or.inl hcs⟩
  · rintro ⟨hbefore, rfl | ⟨rfl, rfl⟩⟩
    · rw [splitOnce?_append hbefore]
      rfl
    · rw [splitOnce?_eq_none_iff.2 hbefore]
      rfl

end Text

namespace Http

theorem Version.space_not_mem_name (v : Version) : ' ' ∉ v.name.toList := by
  cases v <;> decide

namespace StatusLine

/-! ## The text of a status -/

/-- Three digits that denote a status. -/
structure IsCode (text : String) (code : Nat) : Prop where
  numeral : Text.IsNumeral text.toList code
  length : text.toList.length = 3

/-- A plus sign and two digits that denote a status. -/
def IsPlusCode (text : String) (code : Nat) : Prop :=
  ∃ digits, text.toList = '+' :: digits ∧ Text.IsNumeral digits code ∧ digits.length = 2

section Codes

variable {text : String} {code : Nat}

theorem IsCode.isGraphic (h : IsCode text code) : text.toList.all Text.isGraphic = true := h.numeral.isGraphic

theorem isGraphic_of_plus {digits : List Char} (htext : text.toList = '+' :: digits)
    (h : Text.IsNumeral digits code) : text.toList.all Text.isGraphic = true := by
  rw [htext, List.all_cons, h.isGraphic]
  rfl

theorem IsPlusCode.isGraphic (h : IsPlusCode text code) : text.toList.all Text.isGraphic = true := by
  obtain ⟨digits, htext, hnumeral, -⟩ := h
  exact isGraphic_of_plus htext hnumeral

/-- The texts of three bytes that are read as a number: three digits, or a plus sign and two digits. -/
theorem code_iff : (Text.byteLength text = 3 ∧ Text.readUnsigned? 65536 text.toList = some code) ↔
    IsCode text code ∨ IsPlusCode text code := by
  rw [Text.readUnsigned?_eq_some_iff]
  constructor
  · rintro ⟨hlength, hnumeral | ⟨digits, htext, hnumeral⟩, -⟩
    · rw [Text.byteLength_of_graphic hnumeral.isGraphic] at hlength
      exact Or.inl ⟨hnumeral, hlength⟩
    · rw [Text.byteLength_of_graphic (isGraphic_of_plus htext hnumeral), htext, List.length_cons] at hlength
      exact Or.inr ⟨digits, htext, hnumeral, by omega⟩
  · rintro (h | h)
    · have hlt := h.numeral.lt
      rw [h.length] at hlt
      exact ⟨(Text.byteLength_of_graphic h.isGraphic).trans h.length, Or.inl h.numeral, by omega⟩
    · have hlength := Text.byteLength_of_graphic h.isGraphic
      obtain ⟨digits, htext, hnumeral, hdigits⟩ := h
      have hlt := hnumeral.lt
      rw [hdigits] at hlt
      rw [htext, List.length_cons, hdigits] at hlength
      exact ⟨hlength, Or.inr ⟨digits, htext, hnumeral⟩, by omega⟩

end Codes

/-! ## Lines -/

/-- What comes after the status: nothing, a space, or a space and the reason. -/
inductive Ending : Option String → String → Prop
  | absent : Ending none ""
  | space : Ending none " "
  | reason {r : String} (h : r ≠ "") : Ending (some r) (" " ++ r)

/-- The line is a version, a space, a text of the status and an ending. -/
def HasForm (isStatus : String → Nat → Prop) (line : String) (s : StatusLine) : Prop :=
  ∃ status ending, line = s.version.name ++ " " ++ status ++ ending ∧ isStatus status s.status.code ∧
    Ending s.reason ending

variable {line : String} {s : StatusLine}

theorem hasForm_or_iff {isStatus isStatus' : String → Nat → Prop} :
    HasForm (fun text code => isStatus text code ∨ isStatus' text code) line s ↔
      HasForm isStatus line s ∨ HasForm isStatus' line s := by
  constructor
  · rintro ⟨status, ending, hline, hcode | hcode, hending⟩
    · exact Or.inl ⟨status, ending, hline, hcode, hending⟩
    · exact Or.inr ⟨status, ending, hline, hcode, hending⟩
  · rintro (⟨status, ending, hline, hcode, hending⟩ | ⟨status, ending, hline, hcode, hending⟩)
    · exact ⟨status, ending, hline, Or.inl hcode, hending⟩
    · exact ⟨status, ending, hline, Or.inr hcode, hending⟩

theorem ending_iff {reason : Option String} {ending : String} :
    Ending reason ending ↔ ∃ third, (ending.toList = ' ' :: third ∨ ending.toList = [] ∧ third = []) ∧
      reason = if third.isEmpty then none else some (String.ofList third) := by
  constructor
  · rintro (_ | _ | ⟨hr⟩)
    · exact ⟨[], Or.inr ⟨rfl, rfl⟩, rfl⟩
    · exact ⟨[], Or.inl rfl, rfl⟩
    · next r =>
      have hne : r.toList ≠ [] := mt String.toList_eq_nil_iff.1 hr
      refine ⟨r.toList, Or.inl (by simp [String.toList_append]), ?_⟩
      rw [if_neg (mt List.isEmpty_iff.1 hne), String.ofList_toList]
  · rintro ⟨third, hending | ⟨hending, rfl⟩, rfl⟩
    · obtain rfl : ending = " " ++ String.ofList third := by
        rw [← String.toList_inj, hending]
        simp [String.toList_append]
      by_cases hthird : third = []
      · rw [hthird]
        exact .space
      · rw [if_neg (mt List.isEmpty_iff.1 hthird)]
        exact .reason fun h => hthird (by rw [← String.toList_ofList (l := third), h]; rfl)
    · rw [String.toList_eq_nil_iff.1 hending]
      exact .absent

/-- The tests of a line that is cut at its first two spaces. -/
theorem parse_of_cuts {first rest second third : List Char}
    (hfirst : (Text.splitOnce? ' ' line.toList).getD (line.toList, []) = (first, rest))
    (hsecond : (Text.splitOnce? ' ' rest).getD (rest, []) = (second, third)) :
    parse line = .ok s ↔ String.ofList first = s.version.name ∧
      (IsCode (String.ofList second) s.status.code ∨ IsPlusCode (String.ofList second) s.status.code) ∧
        s.reason = if third.isEmpty then none else some (String.ofList third) := by
  rw [← code_iff, String.toList_ofList, parse, hfirst]
  simp only [hsecond]
  rcases hversion : Version.ofName (String.ofList first) with f | v
  · refine iff_of_false (by simp [bind, Except.bind]) fun h => ?_
    rw [Version.ofName_eq_ok_iff.2 h.1] at hversion
    exact absurd hversion (by simp)
  have hname := Version.ofName_eq_ok_iff.1 hversion
  simp only [bind, Except.bind]
  by_cases hlength : Text.byteLength (String.ofList second) = 3
  · rw [if_neg (not_not_intro hlength)]
    rcases hcode : Text.readUnsigned? 65536 second with _ | code
    · exact iff_of_false (by simp) fun h => absurd h.2.1.2 (by simp)
    · constructor
      · intro h
        obtain rfl := Except.ok.inj h
        exact ⟨hname, ⟨hlength, rfl⟩, rfl⟩
      · rintro ⟨hs, ⟨-, hs'⟩, hreason⟩
        obtain rfl : v = s.version := Except.ok.inj (hversion.symm.trans (Version.ofName_eq_ok_iff.2 hs))
        obtain rfl := Option.some.inj hs'
        rw [← hreason]
  · rw [if_pos hlength]
    exact iff_of_false (by simp) fun h => hlength h.2.1.1

/-- The lines that are read: a version, a space, three digits or a plus sign with two, and an ending. -/
theorem parse_eq_ok_iff : parse line = .ok s ↔
    HasForm (fun text code => IsCode text code ∨ IsPlusCode text code) line s := by
  constructor
  · intro h
    rcases hfirst : (Text.splitOnce? ' ' line.toList).getD (line.toList, []) with ⟨first, rest⟩
    rcases hsecond : (Text.splitOnce? ' ' rest).getD (rest, []) with ⟨second, third⟩
    obtain ⟨hname, hcode, hreason⟩ := (parse_of_cuts hfirst hsecond).1 h
    obtain ⟨-, hsecond⟩ := Text.splitOnce?_getD_eq_iff.1 hsecond
    obtain ⟨-, hfirst | ⟨-, rfl⟩⟩ := Text.splitOnce?_getD_eq_iff.1 hfirst
    · have hrest : ∃ ending : String, rest = second ++ ending.toList ∧ Ending s.reason ending := by
        rcases hsecond with rfl | ⟨rfl, rfl⟩
        · exact ⟨String.ofList (' ' :: third), by rw [String.toList_ofList],
            ending_iff.2 ⟨third, Or.inl (String.toList_ofList), hreason⟩⟩
        · exact ⟨"", by simp, ending_iff.2 ⟨[], Or.inr ⟨rfl, rfl⟩, hreason⟩⟩
      obtain ⟨ending, rfl, hending⟩ := hrest
      refine ⟨String.ofList second, ending, ?_, hcode, hending⟩
      rw [← String.toList_inj, hfirst, ← hname]
      simp [String.toList_append]
    · -- without a space there is no status
      have hnil : second = [] := (by simpa using hsecond : second = [] ∧ third = []).1
      rw [hnil, ← code_iff] at hcode
      exact absurd hcode.1 (by decide)
  · rintro ⟨status, ending, rfl, hcode, hending⟩
    have hgraphic : status.toList.all Text.isGraphic = true := hcode.elim IsCode.isGraphic IsPlusCode.isGraphic
    obtain ⟨third, hthird, hreason⟩ := ending_iff.1 hending
    have hfirst : (Text.splitOnce? ' ' (s.version.name ++ " " ++ status ++ ending).toList).getD
        ((s.version.name ++ " " ++ status ++ ending).toList, []) =
          (s.version.name.toList, status.toList ++ ending.toList) :=
      Text.splitOnce?_getD_eq_iff.2 ⟨s.version.space_not_mem_name, Or.inl (by simp [String.toList_append])⟩
    have hsecond : (Text.splitOnce? ' ' (status.toList ++ ending.toList)).getD
        (status.toList ++ ending.toList, []) = (status.toList, third) := by
      refine Text.splitOnce?_getD_eq_iff.2 ⟨Text.space_not_mem_of_graphic hgraphic, ?_⟩
      rcases hthird with hthird | ⟨hthird, rfl⟩
      · exact Or.inl (by rw [hthird])
      · exact Or.inr ⟨by rw [hthird, List.append_nil], rfl⟩
    rw [parse_of_cuts hfirst hsecond, String.ofList_toList, String.ofList_toList]
    exact ⟨rfl, hcode, hreason⟩

/-- A line is refused as the other side's doing, for its version or for its status. -/
theorem category_of_parse {f : Fault} (h : parse line = .error f) : f.category = .clientData := by
  rw [parse] at h
  simp only [bind, Except.bind] at h
  split at h
  next g hversion =>
    obtain rfl := Except.error.inj h
    rw [Version.ofName_error hversion]
    rfl
  split at h
  · obtain rfl := Except.error.inj h
    rfl
  split at h
  · obtain rfl := Except.error.inj h
    rfl
  · exact absurd h (by simp)

/-- No line has a status of three digits and one with a plus sign. -/
theorem HasForm.not_plus (h : HasForm IsCode line s) : ¬ ∃ s', HasForm IsPlusCode line s' := by
  rintro ⟨s', h'⟩
  have hread : parse line = .ok s := parse_eq_ok_iff.2 (hasForm_or_iff.2 (Or.inl h))
  rw [parse_eq_ok_iff.2 (hasForm_or_iff.2 (Or.inr h'))] at hread
  obtain rfl := Except.ok.inj hread
  -- of one version, the two lines go on with a digit and with a plus sign
  obtain ⟨status, ending, hline, hcode, -⟩ := h
  obtain ⟨status', ending', hline', ⟨digits, hdigits, -⟩, -⟩ := h'
  obtain ⟨c, cs, hstatus⟩ := List.exists_cons_of_ne_nil hcode.numeral.nonempty
  have hchars := congrArg String.toList (hline.symm.trans hline')
  simp only [String.toList_append, List.append_assoc, List.append_cancel_left_eq, hstatus, hdigits,
    List.cons_append, List.cons.injEq] at hchars
  have hc := hcode.numeral.digits c (hstatus ▸ List.mem_cons_self)
  rw [hchars.1] at hc
  exact absurd hc (by decide)

/-- The grammar of status lines: a line is read as a version, a status and a reason if and only if it is the name of the
version, a space, three digits that denote the status, and then nothing or a space, without a reason, or a space and the
reason, which is not empty; or if it is such a line with a plus sign in place of the first digit. So the lines that are
read are those of the grammar unless the line has a plus sign there, and every other line is refused as the other
side's doing. -/
theorem statusLine_grammar_iff (line : String) :
    (∀ s, parse line = .ok s ↔ HasForm IsCode line s ∨ HasForm IsPlusCode line s) ∧
      ((∀ s, parse line = .ok s ↔ HasForm IsCode line s) ↔ ¬ ∃ s, HasForm IsPlusCode line s) ∧
      ((¬ ∃ s, HasForm IsCode line s ∨ HasForm IsPlusCode line s) →
        ∃ f, parse line = .error f ∧ f.category = .clientData) := by
  have hforms (s : StatusLine) : parse line = .ok s ↔ HasForm IsCode line s ∨ HasForm IsPlusCode line s :=
    parse_eq_ok_iff.trans hasForm_or_iff
  refine ⟨hforms, ⟨fun h => ?_, fun hplus s => ?_⟩, fun hother => ?_⟩
  · rintro ⟨s, hs⟩
    exact ((h s).1 ((hforms s).2 (Or.inr hs))).not_plus ⟨s, hs⟩
  · rw [hforms]
    exact or_iff_left fun hs => hplus ⟨s, hs⟩
  · rcases h : parse line with f | s
    · exact ⟨f, rfl, category_of_parse h⟩
    · exact absurd ⟨s, (hforms s).1 h⟩ hother

/-- A plus sign and two digits are read as a status, which is not in the grammar. -/
theorem plusStatus_read :
    parse "HTTP/1.1 +20 OK" = .ok ⟨.http11, ⟨20⟩, some "OK"⟩ ∧
      ¬ ∀ s, parse "HTTP/1.1 +20 OK" = .ok s ↔ HasForm IsCode "HTTP/1.1 +20 OK" s := by
  obtain ⟨-, hgrammar, -⟩ := statusLine_grammar_iff "HTTP/1.1 +20 OK"
  have hdigits : ['2', '0'].all Char.isDigit = true := by decide
  have hplus : HasForm IsPlusCode "HTTP/1.1 +20 OK" ⟨.http11, ⟨20⟩, some "OK"⟩ :=
    ⟨"+20", " " ++ "OK", by decide, ⟨['2', '0'], by decide, ⟨by decide, List.all_eq_true.1 hdigits, by decide⟩, rfl⟩,
      .reason (by decide)⟩
  exact ⟨by decide +kernel, fun h => hgrammar.1 h ⟨_, hplus⟩⟩

/-- A second space is part of the reason; without the first there is no status. -/
example : parse "HTTP/1.0 404  Lost" = .ok ⟨.http10, ⟨404⟩, some " Lost"⟩ ∧
    parse "HTTP/1.1 " = .error (.statusCode "") ∧ parse "HTTP/1.1 200 " = .ok ⟨.http11, ⟨200⟩, none⟩ := by
  decide +kernel

end StatusLine
end Http
end Switchboard
