import Switchboard.Http.StartLine
import Switchboard.Proofs.Text.Ascii

/-!
Request lines. Reading a line gives a request line just when the line is its text and the target is one that
can be sent (`RequestLine.parse_eq_ok_iff`). Any other line is refused, as the other side's doing
(`RequestLine.category_of_parse`), so the lines that are read are the ones of the grammar
(`RequestLine.requestLine_grammar`).
-/

namespace Switchboard

namespace Text

theorem splitOnce?_append {c : Char} {before : List Char} (h : c ∉ before) (after : List Char) :
    splitOnce? c (before ++ c :: after) = some (before, after) := by
  induction before with
  | nil => rw [List.nil_append, splitOnce?, if_pos rfl]
  | cons d before ih =>
    have hd : d ≠ c := fun hd => h (by rw [hd]; exact List.mem_cons_self)
    rw [List.cons_append, splitOnce?, if_neg hd, ih fun hc => h (List.mem_cons_of_mem d hc)]
    rfl

end Text

namespace Http

theorem Method.ofName_eq_ok_iff {s : String} {m : Method} : ofName s = .ok m ↔ s = m.name := by
  constructor
  · intro h
    rw [ofName] at h
    split at h
    · next m' hf =>
      obtain rfl := Except.ok.inj h
      have hn : (m'.name == s) = true := List.find?_some (p := fun x : Method => x.name == s) hf
      exact (beq_iff_eq.1 hn).symm
    · exact absurd h (by simp)
  · rintro rfl
    have hf : all.find? (·.name == m.name) = some m := by cases m <;> decide
    rw [ofName, hf]

theorem Method.ofName_error {s : String} {f : Fault} (h : ofName s = .error f) : f = .method s := by
  rw [ofName] at h
  split at h
  · exact absurd h (by simp)
  · exact (Except.error.inj h).symm

theorem Version.ofName_eq_ok_iff {s : String} {v : Version} : ofName s = .ok v ↔ s = v.name := by
  constructor
  · intro h
    rw [ofName] at h
    split at h
    · next hs =>
      obtain rfl := Except.ok.inj h
      exact hs
    · split at h
      · next hs =>
        obtain rfl := Except.ok.inj h
        exact hs
      · exact absurd h (by simp)
  · rintro rfl
    cases v with
    | http10 => exact if_pos rfl
    | http11 => exact (if_neg (by decide)).trans (if_pos rfl)

theorem Version.ofName_error {s : String} {f : Fault} (h : ofName s = .error f) : f = .version s := by
  rw [ofName] at h
  split at h
  · exact absurd h (by simp)
  · split at h
    · exact absurd h (by simp)
    · exact (Except.error.inj h).symm

namespace RequestLine

theorem parts?_eq_some_iff {cs first second third : List Char} :
    parts? cs = some (first, second, third) ↔
      cs = first ++ ' ' :: (second ++ ' ' :: third) ∧ ' ' ∉ first ∧ ' ' ∉ second := by
  constructor
  · intro h
    rw [parts?] at h
    obtain ⟨⟨a, rest⟩, ha, h⟩ := Option.bind_eq_some_iff.1 h
    obtain ⟨⟨b, c⟩, hb, h⟩ := Option.bind_eq_some_iff.1 h
    obtain ⟨rfl, hbc⟩ := Prod.mk.inj (Option.some.inj h)
    obtain ⟨rfl, rfl⟩ := Prod.mk.inj hbc
    obtain ⟨rfl, hfirst⟩ := Text.splitOnce?_eq_some ha
    obtain ⟨hrest, hsecond⟩ := Text.splitOnce?_eq_some hb
    exact ⟨by rw [hrest], hfirst, hsecond⟩
  · rintro ⟨rfl, hfirst, hsecond⟩
    rw [parts?, Text.splitOnce?_append hfirst]
    show (Text.splitOnce? ' ' (second ++ ' ' :: third)).bind _ = _
    rw [Text.splitOnce?_append hsecond]
    rfl

theorem render_eq (r : RequestLine) :
    r.render = r.method.name ++ " " ++ r.target ++ " " ++ r.version.name := by
  simp [render, toString]

theorem toList_render (r : RequestLine) :
    r.render.toList =
      r.method.name.toList ++ ' ' :: (r.target.toList ++ ' ' :: r.version.name.toList) := by
  rw [render_eq]
  simp [String.toList_append]

/-- A target that a request line can hold. -/
structure TargetFits (maxUrl : Nat) (target : String) : Prop where
  nonempty : target.toList ≠ []
  graphic : target.toList.all Text.isGraphic = true
  length : Text.byteLength target ≤ maxUrl

theorem space_not_mem_name (m : Method) : ' ' ∉ m.name.toList := by
  cases m <;> decide

theorem name_ne_nil (m : Method) : m.name.toList ≠ [] := by
  cases m <;> decide

theorem parse_eq_ok_iff {line : String} {maxUrl : Nat} {r : RequestLine} :
    parse line maxUrl = .ok r ↔ line = r.render ∧ TargetFits maxUrl r.target := by
  constructor
  · intro h
    rw [parse] at h
    rcases hp : parts? line.toList with _ | ⟨first, second, third⟩ <;> rw [hp] at h
    · exact absurd h (by simp)
    · obtain ⟨hline, -, -⟩ := parts?_eq_some_iff.1 hp
      simp only [bind, Except.bind] at h
      split at h
      · exact absurd h (by simp)
      next hempty =>
      split at h
      · exact absurd h (by simp)
      next method hm =>
      split at h
      · exact absurd h (by simp)
      next hlength =>
      split at h
      · exact absurd h (by simp)
      next hgraphic =>
      split at h
      · exact absurd h (by simp)
      next version hv =>
      obtain rfl := Except.ok.inj h
      have hfirst := congrArg String.toList (Method.ofName_eq_ok_iff.1 hm)
      have hthird := congrArg String.toList (Version.ofName_eq_ok_iff.1 hv)
      rw [String.toList_ofList] at hfirst hthird
      refine ⟨?_, ?_, ?_, Nat.le_of_not_lt hlength⟩
      · rw [← String.toList_inj, toList_render, hline, hfirst, hthird, String.toList_ofList]
      · rw [String.toList_ofList]
        intro hnil
        rw [hnil] at hempty
        exact hempty (by simp)
      · rw [String.toList_ofList]
        simpa using hgraphic
  · rintro ⟨rfl, hnonempty, hgraphic, hlength⟩
    have hp : parts? r.render.toList =
        some (r.method.name.toList, r.target.toList, r.version.name.toList) :=
      parts?_eq_some_iff.2
        ⟨toList_render r, space_not_mem_name r.method, Text.space_not_mem_of_graphic hgraphic⟩
    have hempty : ¬ (r.method.name.toList.isEmpty || r.target.toList.isEmpty) = true := by
      rw [Bool.or_eq_true, List.isEmpty_iff, List.isEmpty_iff, not_or]
      exact ⟨name_ne_nil r.method, hnonempty⟩
    have hgraphic' : ¬ (!r.target.toList.all Text.isGraphic) = true := by
      rw [hgraphic]
      exact Bool.false_ne_true
    rw [parse, hp]
    simp only [String.ofList_toList]
    rw [if_neg hempty, Method.ofName_eq_ok_iff.2 rfl]
    simp only [bind, Except.bind]
    rw [if_neg (Nat.not_lt_of_le hlength), if_neg hgraphic', Version.ofName_eq_ok_iff.2 rfl]

/-- A line is refused as the other side's doing, whichever test it fails. -/
theorem category_of_parse {line : String} {maxUrl : Nat} {f : Fault} (h : parse line maxUrl = .error f) :
    f.category = .clientData := by
  rw [parse] at h
  rcases hp : parts? line.toList with _ | ⟨first, second, third⟩ <;> rw [hp] at h
  · obtain rfl := Except.error.inj h
    rfl
  · simp only [bind, Except.bind] at h
    split at h
    · obtain rfl := Except.error.inj h
      rfl
    split at h
    next g hm =>
      obtain rfl := Except.error.inj h
      rw [Method.ofName_error hm]
      rfl
    split at h
    · obtain rfl := Except.error.inj h
      rfl
    split at h
    · obtain rfl := Except.error.inj h
      rfl
    split at h
    next g hv =>
      obtain rfl := Except.error.inj h
      rw [Version.ofName_error hv]
      rfl
    · exact absurd h (by simp)

/-- The grammar of request lines: a line is read as a method, a target and a version if and only if it is their three
texts with one space between them, and the target is visible ASCII, not empty and within the limit. What is read is
written as the line it came from, and a line of any other form is refused as the other side's doing. -/
theorem requestLine_grammar (line : String) (maxUrl : Nat) :
    (∀ method target version, parse line maxUrl = .ok ⟨method, target, version⟩ ↔
      line = method.name ++ " " ++ target ++ " " ++ version.name ∧ target ≠ "" ∧
        (∀ c ∈ target.toList, 0x21 ≤ c.toNat ∧ c.toNat ≤ 0x7e) ∧ Text.byteLength target ≤ maxUrl) ∧
      (∀ r, parse line maxUrl = .ok r → r.render = line) ∧
      ((¬ ∃ r : RequestLine, line = r.render ∧ TargetFits maxUrl r.target) →
        ∃ f, parse line maxUrl = .error f ∧ f.category = .clientData) := by
  refine ⟨fun method target version => ?_, fun r h => (parse_eq_ok_iff.1 h).1.symm, fun hother => ?_⟩
  · have hgraphic : target.toList.all Text.isGraphic = true ↔
        ∀ c ∈ target.toList, 0x21 ≤ c.toNat ∧ c.toNat ≤ 0x7e := by
      rw [List.all_eq_true]
      exact forall₂_congr fun c _ => Text.isGraphic_iff
    have hempty : target.toList ≠ [] ↔ target ≠ "" := not_congr String.toList_eq_nil_iff
    rw [parse_eq_ok_iff, render_eq, ← hgraphic, ← hempty]
    exact and_congr_right fun _ =>
      ⟨fun h => ⟨h.nonempty, h.graphic, h.length⟩, fun ⟨hne, hall, hle⟩ => ⟨hne, hall, hle⟩⟩
  · rcases h : parse line maxUrl with f | r
    · exact ⟨f, rfl, category_of_parse h⟩
    · exact absurd ⟨r, parse_eq_ok_iff.1 h⟩ hother

/-- A second space leaves the target empty, or is part of the version. -/
example : parse "GET  /a HTTP/1.1" 8 = .error (.requestLine "GET  /a HTTP/1.1") ∧
    parse "GET /a  HTTP/1.1" 8 = .error (.version " HTTP/1.1") := by
  decide +kernel

/-- A line that is accepted is accepted under a higher limit on its target. -/
theorem parse_of_le {line : String} {maxUrl maxUrl' : Nat} {r : RequestLine} (h : parse line maxUrl = .ok r)
    (hle : maxUrl ≤ maxUrl') : parse line maxUrl' = .ok r := by
  obtain ⟨hline, hfits⟩ := parse_eq_ok_iff.1 h
  exact parse_eq_ok_iff.2 ⟨hline, hfits.nonempty, hfits.graphic, Nat.le_trans hfits.length hle⟩

/-- A line that is accepted holds little beside its target. -/
theorem length_le_of_parse {line : String} {maxUrl : Nat} {r : RequestLine}
    (h : parse line maxUrl = .ok r) :
    (∀ c ∈ line.toList, c.toNat < 0x80) ∧ line.toList.length ≤ maxUrl + 17 := by
  obtain ⟨rfl, ht⟩ := parse_eq_ok_iff.1 h
  have hm : r.method.name.toList.all Text.isGraphic = true ∧ r.method.name.toList.length ≤ 7 := by
    cases r.method <;> decide
  have hv : r.version.name.toList.all Text.isGraphic = true ∧ r.version.name.toList.length = 8 := by
    cases r.version <;> decide
  have hlength := ht.length
  rw [Text.byteLength_of_graphic ht.graphic] at hlength
  rw [toList_render]
  constructor
  · intro c hc
    simp only [List.mem_append, List.mem_cons] at hc
    rcases hc with hc | rfl | hc | rfl | hc
    · exact Text.ascii_of_graphic hm.1 c hc
    · decide
    · exact Text.ascii_of_graphic ht.graphic c hc
    · decide
    · exact Text.ascii_of_graphic hv.1 c hc
  · simp only [List.length_append, List.length_cons]
    omega

end RequestLine
end Http
end Switchboard
