import Switchboard.Proofs.Http.Framing
import Switchboard.Proofs.Text.Numeral
import Switchboard.Proofs.Text.Parts

/-!
The fields that decide how a message is read, beside a strict reading of them. A field line loses spaces and tabs only
around its value; around an element of a list, and around a length, all blanks are taken off, and a length may have a
plus sign. The strict reading takes off spaces and tabs there too and wants digits only. The two differ for a token if
and only if an element has another blank at its ends, or the token itself has (`hasToken_strict_iff`), and for a length
if and only if the first one has such a blank or a plus sign (`contentLength_strict_iff`).

No rules of a list are meant here other than these: elements are cut at every comma, those in quotes included.
-/

namespace Switchboard.Http

/-! ## Elements -/

/-- An element is the token, members of the class at its ends and the case of letters aside. -/
def ReadsAs (p : Char → Bool) (token : String) (part : List Char) : Prop :=
  (Text.trimList p part).map Char.toLower = Text.foldCase token

instance (p : Char → Bool) (token : String) : DecidablePred (ReadsAs p token) :=
  fun _ => inferInstanceAs (Decidable (_ = _))

/-- An element is the token, but spaces and tabs are not all that had to be taken off its ends. -/
structure IsLoose (token : String) (part : List Char) : Prop where
  reads : ReadsAs Text.isBlank token part
  blank : ¬ Text.IsBare Text.isBlank (Text.trimList Text.isSpaceTab part)

section Elements

variable {token : String} {part : List Char}

/-- No token with blanks at its ends is read, as these are taken off. -/
theorem ReadsAs.isBare (h : ReadsAs Text.isBlank token part) : Text.IsBare Text.isBlank token.toList := by
  rw [← Text.isBare_map_toLower, show token.toList.map Char.toLower = _ from h.symm, Text.isBare_map_toLower]
  exact Text.isBare_trimList Text.isBlank part

/-- An element that is the token is strictly the token, unless there are other blanks at its ends. -/
theorem ReadsAs.spaceTab_iff (h : ReadsAs Text.isBlank token part) :
    ReadsAs Text.isSpaceTab token part ↔ Text.IsBare Text.isBlank (Text.trimList Text.isSpaceTab part) := by
  constructor
  · intro hstrict
    have hsame : (Text.trimList Text.isSpaceTab part).map Char.toLower = token.toList.map Char.toLower := hstrict
    rw [← Text.isBare_map_toLower, hsame, Text.isBare_map_toLower]
    exact h.isBare
  · intro hbare
    rw [ReadsAs, ← (Text.trimList_blank_eq_iff part).2 hbare]
    exact h

/-- An element that is strictly a token without blanks at its ends is this token. -/
theorem ReadsAs.blank_of_spaceTab (hbare : Text.IsBare Text.isBlank token.toList)
    (h : ReadsAs Text.isSpaceTab token part) : ReadsAs Text.isBlank token part := by
  have hsame : (Text.trimList Text.isSpaceTab part).map Char.toLower = token.toList.map Char.toLower := h
  rw [← Text.isBare_map_toLower, ← hsame, Text.isBare_map_toLower] at hbare
  rw [ReadsAs, (Text.trimList_blank_eq_iff part).2 hbare]
  exact h

/-- Where there are no control characters, loosening the rule lets in elements that are not ASCII, and only these. -/
theorem ReadsAs.isLoose_iff (h : ReadsAs Text.isBlank token part) (htoken : ∀ c ∈ token.toList, c.toNat < 0x80)
    (hcontrol : ∀ c ∈ part, Text.isControl c = true → c = '\t') :
    IsLoose token part ↔ ∃ c ∈ part, 0x80 ≤ c.toNat := by
  have hcore : ∀ c ∈ Text.trimList Text.isBlank part, c.toNat < 0x80 := by
    intro c hc
    have hlower : (Text.trimList Text.isBlank part).map Char.toLower = token.toList.map Char.toLower := h
    have hmem : c.toLower ∈ token.toList.map Char.toLower := hlower ▸ List.mem_map_of_mem hc
    obtain ⟨d, hd, hlower⟩ := List.mem_map.1 hmem
    rw [← Text.toLower_lt_iff, ← hlower, Text.toLower_lt_iff]
    exact htoken d hd
  have hloose : IsLoose token part ↔ ¬ Text.IsBare Text.isBlank (Text.trimList Text.isSpaceTab part) :=
    ⟨IsLoose.blank, fun hblank => ⟨h, hblank⟩⟩
  rw [hloose, Text.isBare_iff_ascii hcontrol hcore]
  push Not
  rfl

end Elements

namespace Fields

variable {h : Fields} {name token : String}

/-- The elements of the values under a name: what stands between the commas. -/
def parts (h : Fields) (name : String) : List (List Char) :=
  (h.getAll name).flatMap fun value => value.toList.splitOn ','

/-- An element under the name is the token, members of the class at its ends aside. -/
def Lists (p : Char → Bool) (h : Fields) (name token : String) : Prop :=
  ∃ part ∈ h.parts name, ReadsAs p token part

instance (p : Char → Bool) (h : Fields) (name token : String) : Decidable (h.Lists p name token) :=
  inferInstanceAs (Decidable (∃ part ∈ h.parts name, ReadsAs p token part))

/-- The token is listed strictly, or no element is let in as the token by taking off other blanks. -/
def TellsStrictly (h : Fields) (name token : String) : Prop :=
  h.Lists Text.isSpaceTab name token ∨ ∀ part ∈ h.parts name, ¬ IsLoose token part

theorem mem_parts_iff {part : List Char} :
    part ∈ h.parts name ↔ ∃ f ∈ h.toList, f.isNamed name = true ∧ part ∈ f.value.toList.splitOn ',' := by
  simp only [parts, getAll, List.mem_flatMap, List.mem_map, List.mem_filter]
  constructor
  · rintro ⟨-, ⟨f, ⟨hf, hname⟩, rfl⟩, hpart⟩
    exact ⟨f, hf, hname, hpart⟩
  · rintro ⟨f, hf, hname, hpart⟩
    exact ⟨f.value, ⟨f, ⟨hf, hname⟩, rfl⟩, hpart⟩

/-- Tokens are looked for with all blanks taken off. -/
theorem hasToken_iff : h.hasToken name token = true ↔ h.Lists Text.isBlank name token := by
  simp only [hasToken, List.any_eq_true, valueHasToken_iff, elements, Lists, parts, List.mem_flatMap, List.mem_map,
    Text.splitAll_eq_splitOn, ReadsAs]
  constructor
  · rintro ⟨value, hvalue, part, hpart, hreads⟩
    exact ⟨part, ⟨value, hvalue, hpart⟩, hreads⟩
  · rintro ⟨part, ⟨value, hvalue, hpart⟩, hreads⟩
    exact ⟨value, hvalue, part, hpart, hreads⟩

/-- Where the token is not listed strictly, it is found if and only if another blank is taken off for it. -/
theorem hasToken_iff_of_not_lists (hstrict : ¬ h.Lists Text.isSpaceTab name token) :
    h.hasToken name token = true ↔ ∃ part ∈ h.parts name, IsLoose token part := by
  rw [hasToken_iff, Lists]
  refine exists_congr fun part => and_congr_right fun hpart => ⟨fun hreads => ⟨hreads, fun hbare => ?_⟩, IsLoose.reads⟩
  exact hstrict ⟨part, hpart, hreads.spaceTab_iff.2 hbare⟩

/-- A token that is listed strictly is found if and only if it has no blanks at its own ends. -/
theorem hasToken_iff_of_lists (hstrict : h.Lists Text.isSpaceTab name token) :
    h.hasToken name token = true ↔ Text.IsBare Text.isBlank token.toList := by
  rw [hasToken_iff]
  constructor
  · rintro ⟨part, -, hreads⟩
    exact hreads.isBare
  · intro hbare
    obtain ⟨part, hpart, hreads⟩ := hstrict
    exact ⟨part, hpart, hreads.blank_of_spaceTab hbare⟩

/-- A token is found just where it is listed strictly, unless it has blanks at its own ends, or an element is let in as
the token by taking off other blanks. -/
theorem hasToken_strict_iff (h : Fields) (name token : String) :
    (h.hasToken name token = true ↔ h.Lists Text.isSpaceTab name token) ↔
      (h.Lists Text.isSpaceTab name token → Text.IsBare Text.isBlank token.toList) ∧ h.TellsStrictly name token := by
  by_cases hstrict : h.Lists Text.isSpaceTab name token
  · rw [hasToken_iff_of_lists hstrict]
    exact ⟨fun hfound => ⟨hfound.2, Or.inl hstrict⟩, fun hbare => iff_of_true (hbare.1 hstrict) hstrict⟩
  · rw [hasToken_iff_of_not_lists hstrict]
    constructor
    · intro hfound
      exact ⟨fun h => absurd h hstrict, Or.inr fun part hpart hloose => hstrict (hfound.1 ⟨part, hpart, hloose⟩)⟩
    · rintro ⟨-, htells⟩
      refine iff_of_false ?_ hstrict
      rintro ⟨part, hpart, hloose⟩
      exact htells.resolve_left hstrict part hpart hloose

/-- The same for a token without blanks at its ends. -/
theorem hasToken_strict_iff_of_isBare (hbare : Text.IsBare Text.isBlank token.toList) :
    (h.hasToken name token = true ↔ h.Lists Text.isSpaceTab name token) ↔ h.TellsStrictly name token :=
  (hasToken_strict_iff h name token).trans (and_iff_right fun _ => hbare)

end Fields

/-! ## Lengths -/

/-- A value denotes a length strictly: spaces and tabs aside it is a numeral, of a number below the machine word. -/
structure StrictLength (value : String) (n : Nat) : Prop where
  numeral : Text.IsNumeral (Text.trimList Text.isSpaceTab value.toList) n
  bounded : n < Text.wordSize

/-- A value is taken as a length: all blanks aside it is a numeral of a number below the machine word, and may have a
plus sign. -/
structure TakenLength (value : String) (n : Nat) : Prop where
  numeral : Text.IsNumeral (Text.trimList Text.isBlank value.toList) n ∨
    ∃ digits, Text.trimList Text.isBlank value.toList = '+' :: digits ∧ Text.IsNumeral digits n
  bounded : n < Text.wordSize

/-- A value is taken as a length only because of a plus sign, or of blanks other than spaces and tabs. -/
structure IsLooseLength (value : String) : Prop where
  taken : ∃ n, TakenLength value n
  loose : '+' ∈ value.toList ∨ ¬ Text.IsBare Text.isBlank (Text.trimList Text.isSpaceTab value.toList)

section Lengths

variable {value : String} {n : Nat}

theorem lengthOf?_eq_some_iff : Fields.lengthOf? value = some n ↔ TakenLength value n := by
  rw [Fields.lengthOf?, Text.readUnsigned?_eq_some_iff]
  exact ⟨fun h => ⟨h.1, h.2⟩, fun h => ⟨h.numeral, h.bounded⟩⟩

theorem StrictLength.taken (h : StrictLength value n) : TakenLength value n := by
  refine ⟨Or.inl ?_, h.bounded⟩
  rw [(Text.trimList_blank_eq_iff value.toList).2 h.numeral.isBare]
  exact h.numeral

/-- The characters of a length that is taken are digits and plus signs, with blanks around them. -/
theorem TakenLength.mem (h : TakenLength value n) {c : Char} (hc : c ∈ Text.trimList Text.isBlank value.toList) :
    c.isDigit = true ∨ c = '+' := by
  rcases h.numeral with hnumeral | ⟨digits, hcore, hnumeral⟩
  · exact Or.inl (hnumeral.digits c hc)
  · rw [hcore, List.mem_cons] at hc
    exact hc.symm.imp_left (hnumeral.digits c)

/-- A length that is taken is denoted strictly, unless there is a plus sign, or another blank at the ends. -/
theorem TakenLength.strict_iff (h : TakenLength value n) :
    StrictLength value n ↔
      '+' ∉ value.toList ∧ Text.IsBare Text.isBlank (Text.trimList Text.isSpaceTab value.toList) := by
  have hplus : '+' ∈ Text.trimList Text.isBlank value.toList ↔ '+' ∈ value.toList :=
    Text.mem_trimList_iff (by decide)
  constructor
  · intro hstrict
    refine ⟨fun hmem => ?_, hstrict.numeral.isBare⟩
    rw [← hplus, (Text.trimList_blank_eq_iff value.toList).2 hstrict.numeral.isBare] at hmem
    exact absurd (hstrict.numeral.digits '+' hmem) (by decide)
  · rintro ⟨hnone, hbare⟩
    refine ⟨?_, h.bounded⟩
    rw [← (Text.trimList_blank_eq_iff value.toList).2 hbare]
    refine h.numeral.resolve_right ?_
    rintro ⟨digits, hcore, -⟩
    rw [← hplus, hcore] at hnone
    exact hnone List.mem_cons_self

/-- Where there are no control characters, the strict lengths are those without a plus sign that are ASCII. -/
theorem TakenLength.strict_iff_ascii (h : TakenLength value n)
    (hcontrol : ∀ c ∈ value.toList, Text.isControl c = true → c = '\t') :
    StrictLength value n ↔ ∀ c ∈ value.toList, c ≠ '+' ∧ c.toNat < 0x80 := by
  have hcore : ∀ c ∈ Text.trimList Text.isBlank value.toList, c.toNat < 0x80 := by
    intro c hc
    rcases h.mem hc with hdigit | rfl
    · have := Text.isDigit_iff.1 hdigit
      omega
    · decide
  rw [h.strict_iff, Text.isBare_iff_ascii hcontrol hcore, forall₂_and]
  exact and_congr_left fun _ => ⟨fun hnone c hc hplus => hnone (hplus ▸ hc), fun hall hmem => hall '+' hmem rfl⟩

/-- A value that is not let in by loosening is taken as a length just if it denotes this length strictly. -/
theorem takenLength_iff_of_not_loose (h : ¬ IsLooseLength value) : TakenLength value n ↔ StrictLength value n := by
  refine ⟨fun htaken => htaken.strict_iff.2 ?_, StrictLength.taken⟩
  by_contra hloose
  refine h ⟨⟨n, htaken⟩, ?_⟩
  rwa [not_and_or, not_not] at hloose

end Lengths

namespace Fields

variable {h : Fields} {n : Nat} {f : Fault}

/-- The declared length is the one that the first field is taken for. -/
theorem contentLength_eq_some_iff :
    h.contentLength = .ok (some n) ↔ ∃ value, h.get? "Content-Length" = some value ∧ TakenLength value n := by
  rw [contentLength_eq]
  rcases hv : h.get? "Content-Length" with _ | value
  · simp
  · simp only [Option.some.injEq, exists_eq_left', ← lengthOf?_eq_some_iff]
    rcases lengthOf? value with _ | m <;> simp

theorem contentLength_eq_none_iff : h.contentLength = .ok none ↔ h.contains "Content-Length" = false := by
  rw [contentLength_eq, ← Bool.not_eq_true, contains_iff, not_not, ← List.head?_eq_none_iff, ← get?_eq_head?]
  rcases hv : h.get? "Content-Length" with _ | value
  · simp
  · simp only
    rcases lengthOf? value with _ | m <;> simp

theorem contentLength_eq_error_iff :
    h.contentLength = .error f ↔
      ∃ value, h.get? "Content-Length" = some value ∧ (∀ n, ¬ TakenLength value n) ∧ f = .contentLength value := by
  rw [contentLength_eq]
  rcases hv : h.get? "Content-Length" with _ | value
  · simp
  · simp only [Option.some.injEq, exists_eq_left', ← lengthOf?_eq_some_iff]
    rcases lengthOf? value with _ | m <;> simp [eq_comm]

/-- The declared length is read strictly: it is the number that the first field denotes strictly, it is none where
there is no field, and anything else is an error. -/
structure LengthReadStrictly (h : Fields) : Prop where
  declared : ∀ n, h.contentLength = .ok (some n) ↔
    ∃ value, h.get? "Content-Length" = some value ∧ StrictLength value n
  absent : h.contentLength = .ok none ↔ h.contains "Content-Length" = false
  refused : (∃ f, h.contentLength = .error f) ↔
    ∃ value, h.get? "Content-Length" = some value ∧ ∀ n, ¬ StrictLength value n

/-- The declared length is read strictly, unless the first field is let in by loosening. -/
theorem contentLength_strict_iff (h : Fields) :
    h.LengthReadStrictly ↔ ∀ value ∈ h.get? "Content-Length", ¬ IsLooseLength value := by
  constructor
  · intro hread value hvalue hloose
    obtain ⟨n, htaken⟩ := hloose.taken
    obtain ⟨value', hvalue', hstrict⟩ := (hread.declared n).1 (contentLength_eq_some_iff.2 ⟨value, hvalue, htaken⟩)
    obtain rfl := Option.some.inj (hvalue.symm.trans hvalue')
    obtain ⟨hplus, hbare⟩ := htaken.strict_iff.1 hstrict
    exact hloose.loose.elim hplus (absurd hbare)
  · intro hfirst
    have htaken : ∀ {value n}, h.get? "Content-Length" = some value → (TakenLength value n ↔ StrictLength value n) :=
      fun hvalue => takenLength_iff_of_not_loose (hfirst _ hvalue)
    refine ⟨fun n => ?_, contentLength_eq_none_iff, ?_⟩
    · rw [contentLength_eq_some_iff]
      exact exists_congr fun value => and_congr_right htaken
    · simp only [contentLength_eq_error_iff]
      rw [exists_comm]
      refine exists_congr fun value => ?_
      constructor
      · rintro ⟨f, hvalue, hnot, -⟩
        exact ⟨hvalue, fun n hstrict => hnot n hstrict.taken⟩
      · rintro ⟨hvalue, hnot⟩
        exact ⟨_, hvalue, fun n hn => hnot n ((htaken hvalue).1 hn), rfl⟩

end Fields
end Switchboard.Http
