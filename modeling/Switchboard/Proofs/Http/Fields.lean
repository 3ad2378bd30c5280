import Switchboard.Http.Framing
import Switchboard.Http.Head
import Switchboard.Proofs.Http.Head.Scan
import Switchboard.Proofs.Text.Ascii
import Switchboard.Proofs.Text.Blank

/-!
Fields on the wire. The texts that are field lines are a name, a colon and a value (`Field.ofLine_eq_ok_iff`). A
field that can be written (`Field.Writable`) is read back from its line, the spaces and tabs at the ends of its
value aside (`Field.ofLine_line`); its line holds no line end, and the lines of a list of such fields are read back
one by one (`Head.readFields_lines`). However many the lines are, no more fields are read than the limit allows
(`Head.size_le_of_parse`). A field that can be sent (`Field.Sendable`) has no such spaces and is read back
as it is. What `insert`, `set` and `remove` do to a list, and to the values under a name, is said at the end.
-/

namespace Switchboard

namespace Http

/-! ## Lines -/

namespace Field

/-- A field that can be written: the name is a token, and the value holds no control character but the tab. -/
structure Writable (f : Field) : Prop where
  name_nonempty : f.name.toList ≠ []
  name : ∀ c ∈ f.name.toList, Text.isTokenChar c = true
  value : ∀ c ∈ f.value.toList, Text.isControl c = true → c = '\t'

/-- The field without the spaces and tabs at the ends of its value. -/
def trimmed (f : Field) : Field := { f with value := Text.trimSpaceTab f.value }

/-- A field that can be sent: the name is a token, and the value holds no control character but the tab, and
no space or tab at its ends. -/
structure Sendable (f : Field) : Prop where
  name_nonempty : f.name.toList ≠ []
  name : ∀ c ∈ f.name.toList, Text.isTokenChar c = true
  value : ∀ c ∈ f.value.toList, Text.isControl c = true → c = '\t'
  value_head : ∀ c ∈ f.value.toList.head?, Text.isSpaceTab c = false
  value_last : ∀ c ∈ f.value.toList.getLast?, Text.isSpaceTab c = false

/-- A field whose value holds visible characters only can be sent. -/
theorem sendable_of_graphic {f : Field} (hne : f.name.toList ≠ [])
    (hname : ∀ c ∈ f.name.toList, Text.isTokenChar c = true)
    (hvalue : f.value.toList.all Text.isGraphic = true) : f.Sendable := by
  have hspace : ∀ c ∈ f.value.toList, Text.isSpaceTab c = false := by
    intro c hc
    have hg := Text.isGraphic_iff.1 (List.all_eq_true.1 hvalue c hc)
    rw [Text.isSpaceTab, Bool.or_eq_false_iff]
    refine ⟨?_, ?_⟩ <;> rw [beq_eq_false_iff_ne] <;> rintro rfl <;> exact absurd hg (by decide)
  refine ⟨hne, hname, ?_, ?_, ?_⟩
  · intro c hc hcontrol
    have hg := Text.isGraphic_iff.1 (List.all_eq_true.1 hvalue c hc)
    rw [Text.isControl, Bool.or_eq_true, decide_eq_true_eq, beq_iff_eq] at hcontrol
    omega
  · intro c hc
    exact hspace c (List.mem_of_mem_head? hc)
  · intro c hc
    exact hspace c (List.mem_of_getLast? hc)

theorem Sendable.writable {f : Field} (h : f.Sendable) : f.Writable := ⟨h.name_nonempty, h.name, h.value⟩

theorem Sendable.trimmed_eq {f : Field} (h : f.Sendable) : f.trimmed = f := by
  rw [trimmed, Text.trimSpaceTab, Text.trimBy, Text.trimList_of_isBare ⟨h.value_head, h.value_last⟩,
    String.ofList_toList]

/-- The line of a field. -/
def line (f : Field) : Bytes := Text.utf8 f.name ++ Text.utf8 ": " ++ Text.utf8 f.value

variable {f : Field}

theorem line_eq_utf8 (f : Field) : f.line = Text.utf8 (f.name ++ ": " ++ f.value) := by
  rw [line, Text.utf8_append, Text.utf8_append]

theorem toList_line (f : Field) :
    (Text.lossy f.line).toList = f.name.toList ++ ':' :: ' ' :: f.value.toList := by
  rw [line_eq_utf8, Text.lossy_utf8]
  simp [String.toList_append]

theorem line_ne_nil (f : Field) : f.line ≠ [] := by
  intro h
  have := congrArg List.length h
  simp [line, Text.utf8, String.utf8EncodeChar] at this

/-- The line of a field that can be written holds no line end. -/
theorem cr_not_mem_line (h : f.Writable) : 13 ∉ f.line := by
  intro hm
  rw [line_eq_utf8] at hm
  have hc : '\r' ∈ (f.name ++ ": " ++ f.value).toList := Text.mem_of_mem_utf8 (by decide) hm
  rw [String.toList_append, String.toList_append, List.mem_append, List.mem_append] at hc
  rcases hc with (hc | hc) | hc
  · exact absurd (h.name '\r' hc) (by decide)
  · exact absurd hc (by decide)
  · exact absurd (h.value '\r' hc (by decide)) (by decide)

/-- The checks of a line that is cut at its first colon. -/
theorem ofLine_of_colon {line : String} {name value : List Char} (hline : line.toList = name ++ ':' :: value)
    (hcolon : ':' ∉ name) {f : Field} :
    ofLine line = .ok f ↔ name ≠ [] ∧ (∀ c ∈ name, Text.isTokenChar c = true) ∧
      (∀ c ∈ value, Text.isControl c = true → c = '\t') ∧
      f = ⟨String.ofList name, String.ofList (Text.trimList Text.isSpaceTab value)⟩ := by
  have hne : ∀ c ∈ name, (c != ':') = true := by
    intro c hc
    rw [bne_iff_ne]
    rintro rfl
    exact hcolon hc
  have htake : line.toList.takeWhile (· != ':') = name := by
    rw [hline, List.takeWhile_append_of_pos hne, List.takeWhile_cons]
    simp
  have hdrop : (line.toList.dropWhile (· != ':')).drop 1 = value := by
    rw [hline, List.dropWhile_append_of_pos hne, List.dropWhile_cons]
    simp
  have hmem : line.toList.contains ':' = true := by
    rw [hline]
    simp
  have hempty : (String.ofList name).isEmpty = true ↔ name = [] := by simp
  have htoken : (!(String.ofList name).toList.all Text.isTokenChar) = true ↔
      ¬ ∀ c ∈ name, Text.isTokenChar c = true := by simp
  simp only [ofLine]
  rw [hmem, htake, hdrop, if_pos rfl]
  constructor
  · intro h
    split at h
    · cases h
    · cases h
    · split_ifs at h with h1 h2 h3
      exact ⟨mt hempty.2 h1, not_not.1 (mt htoken.2 h2), not_not.1 (mt (Text.any_control_trimList value).2 h3),
        (Except.ok.inj h).symm⟩
  · rintro ⟨hname, htok, hval, rfl⟩
    -- the line begins with the name, hence with no blank
    have hfirst : ∀ c cs, line.toList = c :: cs → Text.isTokenChar c = true := by
      intro c cs hc
      rw [hline] at hc
      obtain ⟨x, xs, rfl⟩ := List.exists_cons_of_ne_nil hname
      obtain ⟨rfl, -⟩ := List.cons.inj hc
      exact htok x List.mem_cons_self
    split
    · next hcs => exact absurd (hfirst _ _ hcs) (by decide)
    · next hcs => exact absurd (hfirst _ _ hcs) (by decide)
    · rw [if_neg (mt hempty.1 hname), if_neg fun h => htoken.1 h htok,
        if_neg fun h => (Text.any_control_trimList value).1 h hval]

/-- The texts that are field lines: a name that is a token, a colon, and a value without control characters but the
tab. -/
theorem ofLine_eq_ok_iff {line : String} {f : Field} :
    ofLine line = .ok f ↔ ∃ name value : List Char, line.toList = name ++ ':' :: value ∧ name ≠ [] ∧
      (∀ c ∈ name, Text.isTokenChar c = true) ∧ (∀ c ∈ value, Text.isControl c = true → c = '\t') ∧
      f = ⟨String.ofList name, String.ofList (Text.trimList Text.isSpaceTab value)⟩ := by
  constructor
  · intro h
    have hmem : ':' ∈ line.toList := by
      by_contra hm
      simp only [ofLine, List.contains_iff_mem, hm] at h
      split at h <;> cases h
    obtain ⟨name, value, hline, hcolon⟩ := List.eq_append_cons_of_mem hmem
    exact ⟨name, value, hline, (ofLine_of_colon hline hcolon).1 h⟩
  · rintro ⟨name, value, hline, hrest⟩
    have hcolon : ':' ∉ name := fun hm => absurd (hrest.2.1 ':' hm) (by decide)
    exact (ofLine_of_colon hline hcolon).2 hrest

/-- A field that can be written is read back from its line, the spaces and tabs at the ends of its value aside. -/
theorem ofLine_line (h : f.Writable) : ofLine (Text.lossy f.line) = .ok f.trimmed := by
  rw [ofLine_eq_ok_iff]
  refine ⟨f.name.toList, ' ' :: f.value.toList, toList_line f, h.name_nonempty, h.name, ?_, ?_⟩
  · intro c hc hcontrol
    rcases List.mem_cons.1 hc with rfl | hc
    · exact absurd hcontrol (by decide)
    · exact h.value c hc hcontrol
  · rw [Text.trimList_cons (by decide), String.ofList_toList]
    rfl

/-- A field that was read from a line can be sent. -/
theorem sendable_of_ofLine {line : String} (h : ofLine line = .ok f) : f.Sendable := by
  obtain ⟨name, value, -, hne, hname, hvalue, rfl⟩ := ofLine_eq_ok_iff.1 h
  obtain ⟨hhead, hlast⟩ := Text.isBare_trimList Text.isSpaceTab value
  have hkept : ∀ c ∈ Text.trimList Text.isSpaceTab value, Text.isControl c = true → c = '\t' := by
    intro c hc hcontrol
    by_contra ht
    exact ht (hvalue c ((Text.mem_trimList_iff (Text.isSpaceTab_of_control hcontrol ht)).1 hc) hcontrol)
  constructor <;> simp only [String.toList_ofList]
  · exact hne
  · exact hname
  · exact hkept
  · exact hhead
  · exact hlast

/-- Fields that can be written are told apart by their lines. -/
theorem line_inj {g : Field} (hf : f.Writable) (hg : g.Writable) (h : f.line = g.line) : f = g := by
  have htrimmed : f.trimmed = g.trimmed := by
    have hread := ofLine_line hf
    rw [h, ofLine_line hg] at hread
    exact (Except.ok.inj hread).symm
  have hname : f.trimmed.name = g.trimmed.name := by rw [htrimmed]
  have hname : f.name = g.name := hname
  have hvalue : Text.utf8 f.value = Text.utf8 g.value := by
    rw [line, line, hname] at h
    exact List.append_cancel_left h
  have hvalue : f.value = g.value := by
    rw [← Text.lossy_utf8 f.value, hvalue, Text.lossy_utf8]
  cases f
  cases g
  exact congrArg₂ Field.mk hname hvalue

end Field

/-- A line that is no field line is refused as the other side's doing. -/
theorem Field.category_of_ofLine {line : String} {f : Fault} (h : Field.ofLine line = .error f) :
    f.category = .clientData := by
  simp only [Field.ofLine] at h
  repeat' split at h
  all_goals first
    | obtain rfl := Except.error.inj h
      rfl
    | exact absurd h (by simp)

/-! ## Sections -/

theorem Fields.wire_eq (h : Fields) :
    h.wire = h.toList.flatMap (fun f => f.line ++ Text.crlf) ++ Text.crlf := rfl

namespace Head

/-- The lines of fields that can be written are read back as the fields, with their values trimmed. -/
theorem readFields_lines {fs : List Field} (h : ∀ f ∈ fs, f.Writable) (maxHeader : Nat) {seen : Nat}
    (hlen : seen + fs.length ≤ maxFields) :
    readFields maxHeader seen (fs.map Field.line) = .ok (fs.map Field.trimmed) := by
  induction fs generalizing seen with
  | nil => rfl
  | cons f fs ih =>
    rw [List.length_cons] at hlen
    rw [List.map_cons, readFields, if_neg (by omega), Field.ofLine_line (h f List.mem_cons_self),
      ih (fun g hg => h g (List.mem_cons_of_mem f hg)) (by omega)]
    rfl

/-- Lines are read if there is room for the first of them, and it is read, and the rest are. -/
theorem readFields_cons_eq_ok_iff {maxHeader seen : Nat} {line : Bytes} {lines : List Bytes} {fs : List Field} :
    readFields maxHeader seen (line :: lines) = .ok fs ↔ seen < maxFields ∧ ∃ f rest,
      Field.ofLine (Text.lossy line) = .ok f ∧ readFields maxHeader (seen + 1) lines = .ok rest ∧
        fs = f :: rest := by
  rw [readFields]
  by_cases hfull : seen ≥ maxFields
  · rw [if_pos hfull]
    refine iff_of_false (by simp) fun h => ?_
    omega
  rw [if_neg hfull, and_iff_right (Nat.lt_of_not_le hfull)]
  rcases Field.ofLine (Text.lossy line) with e | f
  · refine iff_of_false (by simp [bind, Except.bind]) ?_
    rintro ⟨f, rest, hf, -⟩
    exact absurd hf (by simp)
  rcases readFields maxHeader (seen + 1) lines with e | rest
  · refine iff_of_false (by simp [bind, Except.bind]) ?_
    rintro ⟨f, rest, -, hrest, -⟩
    exact absurd hrest (by simp)
  · constructor
    · intro h
      exact ⟨f, rest, rfl, rfl, (Except.ok.inj h).symm⟩
    · rintro ⟨f', rest', hf, hrest, rfl⟩
      obtain rfl := Except.ok.inj hf
      obtain rfl := Except.ok.inj hrest
      rfl

/-- Fields that are read are within the limit on their number, with those that came before. -/
theorem length_le_of_readFields {maxHeader seen : Nat} {lines : List Bytes} {fs : List Field}
    (h : readFields maxHeader seen lines = .ok fs) (hseen : seen ≤ maxFields) : seen + fs.length ≤ maxFields := by
  induction lines generalizing seen fs with
  | nil =>
    obtain rfl := Except.ok.inj h
    exact hseen
  | cons line lines ih =>
    obtain ⟨hroom, f, rest, -, hrest, rfl⟩ := readFields_cons_eq_ok_iff.1 h
    have hcount := ih hrest hroom
    rw [List.length_cons]
    omega

/-- A field that is read is the field of one of the lines. -/
theorem exists_line_of_readFields {maxHeader seen : Nat} {lines : List Bytes} {fs : List Field}
    (h : readFields maxHeader seen lines = .ok fs) :
    ∀ f ∈ fs, ∃ line ∈ lines, Field.ofLine (Text.lossy line) = .ok f := by
  induction lines generalizing seen fs with
  | nil =>
    obtain rfl := Except.ok.inj h
    simp
  | cons line lines ih =>
    obtain ⟨-, g, rest, hline, hrest, rfl⟩ := readFields_cons_eq_ok_iff.1 h
    intro f hf
    rcases List.mem_cons.1 hf with rfl | hf
    · exact ⟨line, List.mem_cons_self, hline⟩
    · obtain ⟨other, hm, hother⟩ := ih hrest f hf
      exact ⟨other, List.mem_cons_of_mem line hm, hother⟩

/-- The limit on the section is only told in the fault when there are too many lines. -/
theorem readFields_of_ok {maxHeader : Nat} (maxHeader' : Nat) {seen : Nat} {lines : List Bytes} {fs : List Field}
    (h : readFields maxHeader seen lines = .ok fs) : readFields maxHeader' seen lines = .ok fs := by
  induction lines generalizing seen fs with
  | nil => exact h
  | cons line lines ih =>
    obtain ⟨hroom, f, rest, hline, hrest, rfl⟩ := readFields_cons_eq_ok_iff.1 h
    exact readFields_cons_eq_ok_iff.2 ⟨hroom, f, rest, hline, ih hrest, rfl⟩

/-- Field lines are refused as the other side's doing. -/
theorem category_of_readFields {maxHeader seen : Nat} {lines : List Bytes} {f : Fault}
    (h : readFields maxHeader seen lines = .error f) : f.category = .clientData := by
  induction lines generalizing seen with
  | nil => exact absurd h (by simp [readFields])
  | cons line lines ih =>
    rw [readFields] at h
    split at h
    · obtain rfl := Except.error.inj h
      rfl
    rcases hline : Field.ofLine (Text.lossy line) with g | field <;> rw [hline] at h
    · obtain rfl : g = f := Except.error.inj h
      exact Field.category_of_ofLine hline
    rcases hrest : readFields maxHeader (seen + 1) lines with g | rest <;> rw [hrest] at h
    · obtain rfl : g = f := Except.error.inj h
      exact ih hrest
    · exact absurd h (by simp [bind, Except.bind])

/-- A head is refused as the other side's doing. -/
theorem category_of_parse {head : Bytes} {maxHeader : Nat} {f : Fault} (h : parse head maxHeader = .error f) :
    f.category = .clientData := by
  rw [parse] at h
  split at h
  · obtain rfl := Except.error.inj h
    rfl
  next start rest hs =>
    split at h
    · obtain rfl := Except.error.inj h
      rfl
    rcases hfields : readFields maxHeader 0 (fieldLines rest) with g | fields <;> rw [hfields] at h
    · obtain rfl : g = f := Except.error.inj h
      exact category_of_readFields hfields
    · exact absurd h (by simp [bind, Except.bind])

/-- What an accepted head is made of: a first line, and a section within the limit whose lines are all read. -/
theorem parse_eq_ok_iff {head : Bytes} {maxHeader : Nat} {line : String} {fields : Fields} :
    parse head maxHeader = .ok (line, fields) ↔ ∃ start rest, splitLine? head = some (start, rest) ∧
      rest.length ≤ maxHeader ∧ readFields maxHeader 0 (fieldLines rest) = .ok fields.toList ∧
      line = Text.lossy start := by
  constructor
  · intro h
    rw [parse] at h
    split at h
    · exact absurd h (by simp)
    next start rest hs =>
    split at h
    · exact absurd h (by simp)
    next hlen =>
    rcases hread : readFields maxHeader 0 (fieldLines rest) with f | fs <;> rw [hread] at h
    · exact absurd h (by simp [bind, Except.bind])
    · obtain ⟨rfl, rfl⟩ := Prod.mk.inj (Except.ok.inj h)
      exact ⟨start, rest, hs, Nat.le_of_not_lt hlen, hread, rfl⟩
  · rintro ⟨start, rest, hs, hlen, hread, rfl⟩
    rw [parse, hs]
    simp only
    rw [if_neg (Nat.not_lt_of_le hlen), hread]
    rfl

variable {head : Bytes} {maxHeader : Nat} {line : String} {fields : Fields}

/-- A head that is accepted is accepted under a higher limit. -/
theorem parse_of_le {maxHeader' : Nat} (h : parse head maxHeader = .ok (line, fields))
    (hle : maxHeader ≤ maxHeader') : parse head maxHeader' = .ok (line, fields) := by
  obtain ⟨start, rest, hs, hlen, hread, hline⟩ := parse_eq_ok_iff.1 h
  exact parse_eq_ok_iff.2 ⟨start, rest, hs, Nat.le_trans hlen hle, readFields_of_ok maxHeader' hread, hline⟩

/-- The number of the fields of a head is within the limit. -/
theorem size_le_of_parse (h : parse head maxHeader = .ok (line, fields)) : fields.size ≤ maxFields := by
  obtain ⟨start, rest, -, -, hread, -⟩ := parse_eq_ok_iff.1 h
  have hcount := length_le_of_readFields hread (Nat.zero_le _)
  rwa [Nat.zero_add] at hcount

/-- The fields of a head can be sent. -/
theorem sendable_of_parse (h : parse head maxHeader = .ok (line, fields)) : ∀ f ∈ fields.toList, f.Sendable := by
  obtain ⟨start, rest, -, -, hread, -⟩ := parse_eq_ok_iff.1 h
  intro f hf
  obtain ⟨line, -, hline⟩ := exists_line_of_readFields hread f hf
  exact Field.sendable_of_ofLine hline

theorem fieldLines_wire {h : Fields} (hs : ∀ f ∈ h.toList, f.Writable) :
    fieldLines h.wire = h.toList.map Field.line := by
  have hwire : h.wire = (h.toList.map Field.line).flatMap (· ++ Text.crlf) ++ (Text.crlf ++ []) := by
    rw [Fields.wire_eq, List.flatMap_map, List.append_nil]
  rw [hwire]
  refine fieldLines_lines (fun l hl => ?_) []
  obtain ⟨f, hf, rfl⟩ := List.mem_map.1 hl
  exact ⟨Field.line_ne_nil f, not_infix_of_cr (Field.cr_not_mem_line (hs f hf))⟩

end Head

/-- Lists of fields that can be written are told apart by what they are on the wire. -/
theorem Fields.wire_inj {h h' : Fields} (hw : ∀ f ∈ h.toList, f.Writable) (hw' : ∀ f ∈ h'.toList, f.Writable)
    (hwire : h.wire = h'.wire) : h = h' := by
  have hlists : ∀ fs gs : List Field, (∀ f ∈ fs, f.Writable) → (∀ g ∈ gs, g.Writable) →
      fs.map Field.line = gs.map Field.line → fs = gs := by
    intro fs
    induction fs with
    | nil => exact fun gs _ _ hl => (List.map_eq_nil_iff.1 hl.symm).symm
    | cons f fs ih =>
      intro gs hf hg hl
      cases gs with
      | nil => exact absurd hl (by simp)
      | cons g gs =>
        obtain ⟨hfg, hrest⟩ := List.cons.inj hl
        rw [Field.line_inj (hf f List.mem_cons_self) (hg g List.mem_cons_self) hfg,
          ih gs (fun x hx => hf x (List.mem_cons_of_mem f hx)) (fun x hx => hg x (List.mem_cons_of_mem g hx)) hrest]
  have hlines : h.toList.map Field.line = h'.toList.map Field.line := by
    rw [← Head.fieldLines_wire hw, ← Head.fieldLines_wire hw', hwire]
  exact congrArg Fields.mk (hlists h.toList h'.toList hw hw' hlines)

/-! ## Look-up after a change -/

namespace Fields

variable {name other value token : String} {h : Fields} {f : Field} {fs : List Field}

theorem isNamed_iff : f.isNamed name = true ↔ Text.foldCase f.name = Text.foldCase name :=
  Text.sameName_iff

/-- Names that differ in case only name the same fields. -/
theorem isNamed_congr (heq : Text.foldCase name = Text.foldCase other) (f : Field) :
    f.isNamed name = f.isNamed other := by
  rw [Bool.eq_iff_iff, isNamed_iff, isNamed_iff, heq]

/-- Setting a name in a list gives the value to the first field with this name, or adds a field at the end. -/
theorem setIn_cases (name value : String) (fs : List Field) :
    (∃ before f after, fs = before ++ f :: after ∧ (∀ g ∈ before, g.isNamed name = false) ∧ f.isNamed name = true ∧
      setIn name value fs = before ++ { f with value } :: after) ∨
    (∀ g ∈ fs, g.isNamed name = false) ∧ setIn name value fs = fs ++ [⟨name, value⟩] := by
  induction fs with
  | nil => exact Or.inr ⟨List.forall_mem_nil _, rfl⟩
  | cons g fs ih =>
    rw [setIn]
    cases hg : g.isNamed name with
    | true => exact Or.inl ⟨[], g, fs, rfl, List.forall_mem_nil _, hg, rfl⟩
    | false =>
      rw [if_neg Bool.false_ne_true]
      rcases ih with ⟨before, f, after, rfl, hbefore, hf, hset⟩ | ⟨hfs, hset⟩
      · exact Or.inl ⟨g :: before, f, after, rfl, List.forall_mem_cons.2 ⟨hg, hbefore⟩, hf, congrArg (g :: ·) hset⟩
      · exact Or.inr ⟨List.forall_mem_cons.2 ⟨hg, hfs⟩, congrArg (g :: ·) hset⟩

theorem mem_setIn (hf : f ∈ setIn name value fs) :
    f ∈ fs ∨ f.value = value ∧ (f.name = name ∨ ∃ g ∈ fs, f.name = g.name) := by
  rcases setIn_cases name value fs with ⟨before, g, after, rfl, -, -, hset⟩ | ⟨-, hset⟩
  · rw [hset, List.mem_append, List.mem_cons] at hf
    rw [List.mem_append, List.mem_cons]
    rcases hf with hf | rfl | hf
    · exact Or.inl (Or.inl hf)
    · exact Or.inr ⟨rfl, Or.inr ⟨g, List.mem_append_right _ List.mem_cons_self, rfl⟩⟩
    · exact Or.inl (Or.inr (Or.inr hf))
  · rw [hset, List.mem_append, List.mem_singleton] at hf
    rcases hf with hf | rfl
    · exact Or.inl hf
    · exact Or.inr ⟨rfl, Or.inl rfl⟩

/-- Setting a name to a text without control characters keeps the fields such as can be written. -/
theorem writable_set {h : Fields} (hw : ∀ f ∈ h.toList, f.Writable) (hne : name.toList ≠ [])
    (hname : name.toList.all Text.isTokenChar = true)
    (hvalue : ∀ c ∈ value.toList, Text.isControl c = true → c = '\t') :
    ∀ f ∈ (h.set name value).toList, f.Writable := by
  intro f hf
  rcases mem_setIn hf with hf | ⟨hv, hn | ⟨g, hg, hn⟩⟩
  · exact hw f hf
  · refine ⟨?_, ?_, ?_⟩
    · rw [hn]
      exact hne
    · rw [hn]
      exact List.all_eq_true.1 hname
    · rw [hv]
      exact hvalue
  · have hg := hw g hg
    refine ⟨?_, ?_, ?_⟩
    · rw [hn]
      exact hg.name_nonempty
    · rw [hn]
      exact hg.name
    · rw [hv]
      exact hvalue

/-- Some field has the value that was set. -/
theorem exists_mem_setIn (name value : String) (fs : List Field) :
    ∃ f ∈ setIn name value fs, f.isNamed name = true ∧ f.value = value := by
  rcases setIn_cases name value fs with ⟨before, f, after, -, -, hf, hset⟩ | ⟨-, hset⟩
  · exact ⟨{ f with value }, hset ▸ List.mem_append_right _ List.mem_cons_self, hf, rfl⟩
  · exact ⟨⟨name, value⟩, hset ▸ List.mem_append_right _ List.mem_cons_self, isNamed_iff.2 rfl, rfl⟩

/-- A field of one name does not have another. -/
theorem isNamed_of_ne (hne : Text.foldCase name ≠ Text.foldCase other) (hf : f.isNamed name = true) :
    f.isNamed other = false := by
  rw [Bool.eq_false_iff]
  intro ho
  exact hne ((isNamed_iff.1 hf).symm.trans (isNamed_iff.1 ho))

/-- Setting one name leaves the values under the others as they are. -/
theorem getAll_set (hne : Text.foldCase name ≠ Text.foldCase other) (h : Fields) (value : String) :
    (h.set name value).getAll other = h.getAll other := by
  rw [getAll, getAll, set]
  rcases setIn_cases name value h.toList with ⟨before, f, after, hfs, -, hf, hset⟩ | ⟨-, hset⟩
  · have hf' : Field.isNamed other { f with value } = false := isNamed_of_ne hne hf
    rw [hset, hfs]
    simp [hf', isNamed_of_ne hne hf]
  · have hn : Field.isNamed other ⟨name, value⟩ = false := isNamed_of_ne hne (isNamed_iff.2 rfl)
    rw [hset]
    simp [hn]

theorem getAll_remove (hne : Text.foldCase name ≠ Text.foldCase other) (h : Fields) :
    (h.remove name).getAll other = h.getAll other := by
  rw [getAll, getAll, toList_remove, List.filter_filter]
  refine congrArg _ (List.filter_congr fun f _ => ?_)
  cases ho : f.isNamed other with
  | false => rfl
  | true => rw [isNamed_of_ne (Ne.symm hne) ho]; rfl

/-- Setting a name replaces the first value under it, and keeps the others. -/
theorem getAll_set_self (h : Fields) (name value : String) :
    (h.set name value).getAll name = value :: (h.getAll name).tail := by
  have hnone {gs : List Field} (hgs : ∀ g ∈ gs, g.isNamed name = false) : gs.filter (·.isNamed name) = [] :=
    List.filter_eq_nil_iff.2 fun g hg => Bool.eq_false_iff.1 (hgs g hg)
  rw [getAll, getAll, set]
  rcases setIn_cases name value h.toList with ⟨before, f, after, hfs, hbefore, hf, hset⟩ | ⟨hfs, hset⟩
  · have hf' : Field.isNamed name { f with value } = true := hf
    rw [hset, hfs]
    simp [hnone hbefore, hf, hf']
  · have hn : Field.isNamed name ⟨name, value⟩ = true := isNamed_iff.2 rfl
    rw [hset]
    simp [hnone hfs, hn]

theorem get?_eq_head? (h : Fields) (name : String) : h.get? name = (h.getAll name).head? := by
  rw [get?, getAll, List.head?_map, List.head?_filter]

/-- Setting a name sets its first value. -/
theorem get?_set (h : Fields) (name value : String) : (h.set name value).get? name = some value := by
  rw [get?_eq_head?, getAll_set_self]
  rfl

theorem get?_set_of_ne (hne : Text.foldCase name ≠ Text.foldCase other) (h : Fields) (value : String) :
    (h.set name value).get? other = h.get? other := by
  rw [get?_eq_head?, get?_eq_head?, getAll_set hne]

theorem get?_remove_of_ne (hne : Text.foldCase name ≠ Text.foldCase other) (h : Fields) :
    (h.remove name).get? other = h.get? other := by
  rw [get?_eq_head?, get?_eq_head?, getAll_remove hne]

/-- Nothing is left under a name that was removed. -/
theorem getAll_remove_self (h : Fields) (name : String) : (h.remove name).getAll name = [] := by
  rw [getAll, toList_remove, List.filter_filter, List.map_eq_nil_iff, List.filter_eq_nil_iff]
  intro f _
  cases f.isNamed name <;> decide

/-- The fields without the spaces and tabs at the ends of their values. -/
def trimmed (h : Fields) : Fields := ⟨h.toList.map Field.trimmed⟩

theorem getAll_trimmed (h : Fields) (name : String) :
    h.trimmed.getAll name = (h.getAll name).map Text.trimSpaceTab := by
  rw [getAll, getAll, trimmed, List.filter_map, List.map_map, List.map_map]
  rfl

theorem get?_trimmed (h : Fields) (name : String) :
    h.trimmed.get? name = (h.get? name).map Text.trimSpaceTab := by
  rw [get?_eq_head?, get?_eq_head?, getAll_trimmed, List.head?_map]

theorem trimmed_of_sendable (hs : ∀ f ∈ h.toList, f.Sendable) : h.trimmed = h := by
  have hmap : h.toList.map Field.trimmed = h.toList := by
    rw [List.map_congr_left fun f hf => (hs f hf).trimmed_eq, List.map_id']
  rw [trimmed, hmap]

theorem hasToken_of_mem (hf : f ∈ h.toList) (hn : f.isNamed name = true)
    (ht : valueHasToken f.value token = true) : h.hasToken name token = true := by
  rw [hasToken, List.any_eq_true]
  exact ⟨f.value, List.mem_map.2 ⟨f, List.mem_filter.2 ⟨hf, hn⟩, rfl⟩, ht⟩

theorem getAll_eq_nil_iff : h.getAll name = [] ↔ h.contains name = false := by
  rw [getAll, List.map_eq_nil_iff, List.filter_eq_nil_iff, contains, List.any_eq_false]

theorem getAll_of_not_contains (hc : h.contains name = false) : h.getAll name = [] := getAll_eq_nil_iff.2 hc

theorem getAll_congr (heq : Text.foldCase name = Text.foldCase other) (h : Fields) :
    h.getAll name = h.getAll other := by
  rw [getAll, getAll, List.filter_congr fun f _ => isNamed_congr heq f]

theorem getAll_insert (h : Fields) (name value other : String) :
    (h.insert name value).getAll other = h.getAll other ++ if Text.sameName name other then [value] else [] := by
  have hnew : Field.isNamed other ⟨name, value⟩ = Text.sameName name other := rfl
  rw [getAll, toList_insert, List.filter_append, List.map_append, List.filter_cons, hnew]
  cases Text.sameName name other <;> rfl

/-- Every field is counted under the name or stays when it is removed. -/
theorem count_add_size_remove (h : Fields) (name : String) : h.count name + (h.remove name).size = h.size := by
  rw [count, size, toList_remove, ← List.countP_eq_length_filter, size,
    List.length_eq_countP_add_countP (·.isNamed name)]
  simp

end Fields
end Http
end Switchboard
