import Switchboard.Proofs.Http.Chunk.Grammar

/-!
The line before a chunk. RFC 7230 has it as

  line      = 1*HEXDIG *blank *extension
  extension = ";" *blank token [ "=" ( token / quoted ) ]
  quoted    = DQUOTE *( plain / "\" text ) DQUOTE

and the decoder takes a little more: any byte after a backslash, and token characters after the closing quote.
`SizeLine` holds the parts of a line, `SizeLine.Follows` is what the decoder asks of them and `SizeLine.Strict` what
RFC 7230 asks besides. A line has only one set of parts (`SizeLine.text_inj`).
-/

namespace Switchboard.Http.Chunk

/-! ## Parts -/

/-- A space or a tab. -/
def IsBlankByte (b : UInt8) : Prop := b = 32 ∨ b = 9

/-- What stands for one character in a quoted string. -/
inductive QuotedItem where
  | plain (byte : UInt8)
  /-- A byte after a backslash. -/
  | pair (byte : UInt8)

namespace QuotedItem

/-- An item as it is sent. -/
def wire : QuotedItem → Bytes
  | plain b => [b]
  | pair b => [92, b]

/-- A byte on its own is neither a quote nor a backslash. Any byte may come after a backslash. -/
def Follows : QuotedItem → Prop
  | plain b => IsQuotable b
  | pair _ => True

/-- The byte after a backslash is one of running text. -/
def Strict : QuotedItem → Prop
  | plain _ => True
  | pair b => IsTextByte b

end QuotedItem

/-- What comes after the name of an extension. -/
inductive NameEnd where
  | bare
  | token (value : Bytes)
  /-- A quoted string, and what comes after the closing quote. -/
  | quoted (items : List QuotedItem) (after : Bytes)

namespace NameEnd

/-- A value as it is sent, with the equals sign. -/
def wire : NameEnd → Bytes
  | bare => []
  | token value => 61 :: value
  | quoted items after => 61 :: 34 :: (items.flatMap QuotedItem.wire ++ 34 :: after)

/-- The value is a token or a quoted string. Token characters may come after the closing quote. -/
def Follows : NameEnd → Prop
  | bare => True
  | token value => IsToken value
  | quoted items after => (∀ i ∈ items, i.Follows) ∧ ∀ b ∈ after, Text.isTokenByte b = true

/-- Nothing comes after the closing quote. -/
def Strict : NameEnd → Prop
  | bare => True
  | token _ => True
  | quoted items after => (∀ i ∈ items, i.Strict) ∧ after = []

end NameEnd

/-- An extension. -/
structure ExtensionPart where
  blanks : Bytes
  name : Bytes
  value : NameEnd

namespace ExtensionPart

/-- An extension as it is sent. -/
def wire (e : ExtensionPart) : Bytes := 59 :: (e.blanks ++ (e.name ++ e.value.wire))

/-- The parts are what they should be. -/
structure Follows (e : ExtensionPart) : Prop where
  blanks : ∀ b ∈ e.blanks, IsBlankByte b
  name : IsToken e.name
  value : e.value.Follows

end ExtensionPart

/-- The parts of a line before a chunk. -/
structure SizeLine where
  digits : Bytes
  blanks : Bytes
  extensions : List ExtensionPart

namespace SizeLine

/-- A line without its line end. -/
def text (l : SizeLine) : Bytes := l.digits ++ (l.blanks ++ l.extensions.flatMap ExtensionPart.wire)

/-- The parts are what the decoder asks for, and the digits denote the size. -/
structure Follows (l : SizeLine) (size : Nat) : Prop where
  digits : IsSize l.digits size
  blanks : ∀ b ∈ l.blanks, IsBlankByte b
  extensions : ∀ e ∈ l.extensions, e.Follows

/-- The extensions are as RFC 7230 has them. -/
def Strict (l : SizeLine) : Prop := ∀ e ∈ l.extensions, e.value.Strict

end SizeLine

/-- Extensions, one after the other. -/
def AreExtensions (w : Bytes) : Prop :=
  ∃ es : List ExtensionPart, (∀ e ∈ es, e.Follows) ∧ w = es.flatMap ExtensionPart.wire

theorem areExtensions_nil : AreExtensions [] := ⟨[], by simp, rfl⟩

theorem areExtensions_cons {e : ExtensionPart} {w : Bytes} (he : e.Follows) (hw : AreExtensions w) :
    AreExtensions (e.wire ++ w) := by
  obtain ⟨es, hes, rfl⟩ := hw
  exact ⟨e :: es, List.forall_mem_cons.2 ⟨he, hes⟩, rfl⟩

/-- The inside of a quoted string, item by item. -/
theorem exists_items {w : Bytes} (h : QuotedInside w) :
    ∃ items : List QuotedItem, (∀ i ∈ items, i.Follows) ∧ w = items.flatMap QuotedItem.wire := by
  induction h with
  | nil => exact ⟨[], by simp, rfl⟩
  | @plain b _ hb _ ih =>
    obtain ⟨items, hitems, rfl⟩ := ih
    exact ⟨.plain b :: items, List.forall_mem_cons.2 ⟨hb, hitems⟩, rfl⟩
  | @pair b _ _ _ ih =>
    obtain ⟨items, hitems, rfl⟩ := ih
    exact ⟨.pair b :: items, List.forall_mem_cons.2 ⟨trivial, hitems⟩, rfl⟩

/-- Extensions of the grammar are extensions that the decoder takes. -/
theorem areExtensions_of_extension {w : Bytes} (h : Extension w) : AreExtensions w := by
  induction h with
  | nil => exact areExtensions_nil
  | @name name rest hn _ ih =>
    have he : ExtensionPart.Follows ⟨[], name, .bare⟩ := ⟨by simp, hn, trivial⟩
    simpa [ExtensionPart.wire, NameEnd.wire] using areExtensions_cons he ih
  | @value name value rest hn hv _ ih =>
    cases hv with
    | token hv =>
      have he : ExtensionPart.Follows ⟨[], name, .token value⟩ := ⟨by simp, hn, hv⟩
      simpa [ExtensionPart.wire, NameEnd.wire] using areExtensions_cons he ih
    | quoted hw =>
      obtain ⟨items, hitems, rfl⟩ := exists_items hw
      have he : ExtensionPart.Follows ⟨[], name, .quoted items []⟩ := ⟨by simp, hn, hitems, by simp⟩
      simpa [ExtensionPart.wire, NameEnd.wire] using areExtensions_cons he ih

/-! ## One set of parts -/

/-- The bytes of a class at the front are as many as can be. -/
theorem span_unique {p : UInt8 → Prop} {v v' w w' : Bytes} (hv : ∀ b ∈ v, p b) (hv' : ∀ b ∈ v', p b)
    (hw : ∀ b ∈ w.head?, ¬ p b) (hw' : ∀ b ∈ w'.head?, ¬ p b) (h : v ++ w = v' ++ w') : v = v' ∧ w = w' := by
  induction v generalizing v' with
  | nil =>
    cases v' with
    | nil => exact ⟨rfl, h⟩
    | cons b v' =>
      rw [List.nil_append] at h
      exact absurd (hv' b List.mem_cons_self) (hw b (by rw [h]; rfl))
  | cons b v ih =>
    cases v' with
    | nil =>
      rw [List.nil_append] at h
      exact absurd (hv b List.mem_cons_self) (hw' b (by rw [← h]; rfl))
    | cons b' v' =>
      obtain ⟨rfl, htail⟩ := List.cons.inj h
      obtain ⟨rfl, rfl⟩ := ih (fun x hx => hv x (List.mem_cons_of_mem b hx))
        (fun x hx => hv' x (List.mem_cons_of_mem b hx)) htail
      exact ⟨rfl, rfl⟩

/-- A quoted string ends at its first quote that does not come after a backslash. -/
theorem items_unique {is js : List QuotedItem} {v w : Bytes} (hi : ∀ i ∈ is, i.Follows) (hj : ∀ i ∈ js, i.Follows)
    (h : is.flatMap QuotedItem.wire ++ 34 :: v = js.flatMap QuotedItem.wire ++ 34 :: w) : is = js ∧ v = w := by
  induction is generalizing js with
  | nil =>
    cases js with
    | nil => exact ⟨rfl, (List.cons.inj h).2⟩
    | cons j js =>
      exfalso
      have hj := hj j List.mem_cons_self
      cases j with
      | plain b => exact hj.2.1 (List.cons.inj h).1.symm
      | pair b => exact absurd (List.cons.inj h).1 (by decide)
  | cons i is ih =>
    cases js with
    | nil =>
      exfalso
      have hi := hi i List.mem_cons_self
      cases i with
      | plain b => exact hi.2.1 (List.cons.inj h).1
      | pair b => exact absurd (List.cons.inj h).1 (by decide)
    | cons j js =>
      have hrest : is.flatMap QuotedItem.wire ++ 34 :: v = js.flatMap QuotedItem.wire ++ 34 :: w →
          is = js ∧ v = w :=
        ih (fun x hx => hi x (List.mem_cons_of_mem i hx)) fun x hx => hj x (List.mem_cons_of_mem j hx)
      have hi := hi i List.mem_cons_self
      have hj := hj j List.mem_cons_self
      cases i with
      | plain b =>
        cases j with
        | plain b' =>
          obtain ⟨rfl, htail⟩ := List.cons.inj h
          obtain ⟨rfl, rfl⟩ := hrest htail
          exact ⟨rfl, rfl⟩
        | pair b' => exact absurd (List.cons.inj h).1 hi.2.2
      | pair b =>
        cases j with
        | plain b' => exact absurd (List.cons.inj h).1.symm hj.2.2
        | pair b' =>
          obtain ⟨rfl, htail⟩ := List.cons.inj (List.cons.inj h).2
          obtain ⟨rfl, rfl⟩ := hrest htail
          exact ⟨rfl, rfl⟩

/-- What may come after an extension: nothing, or another. -/
def AfterExtension (w : Bytes) : Prop := ∀ b ∈ w.head?, b = 59

theorem afterExtension_wires (es : List ExtensionPart) : AfterExtension (es.flatMap ExtensionPart.wire) := by
  cases es with
  | nil => simp [AfterExtension]
  | cons e es => simp [AfterExtension, ExtensionPart.wire]

theorem AfterExtension.not_token {w : Bytes} (h : AfterExtension w) : ∀ b ∈ w.head?, ¬ Text.isTokenByte b = true := by
  intro b hb
  rw [h b hb]
  decide

theorem AfterExtension.not_equals {v w : Bytes} (h : AfterExtension v) : v ≠ 61 :: w := by
  rintro rfl
  exact absurd (h 61 rfl) (by decide)

theorem value_unique {u v : NameEnd} {w x : Bytes} (hu : u.Follows) (hv : v.Follows) (hw : AfterExtension w)
    (hx : AfterExtension x) (h : u.wire ++ w = v.wire ++ x) : u = v ∧ w = x := by
  cases u with
  | bare =>
    cases v with
    | bare => exact ⟨rfl, h⟩
    | token | quoted => exact absurd h hw.not_equals
  | token a =>
    cases v with
    | bare => exact absurd h.symm hx.not_equals
    | token b =>
      obtain ⟨rfl, rfl⟩ := span_unique hu.2 hv.2 hw.not_token hx.not_token (List.cons.inj h).2
      exact ⟨rfl, rfl⟩
    | quoted items after =>
      exfalso
      obtain ⟨b, a, rfl⟩ := List.exists_cons_of_ne_nil hu.1
      have hb := hu.2 b List.mem_cons_self
      rw [(List.cons.inj (List.cons.inj h).2).1] at hb
      exact absurd hb (by decide)
  | quoted items after =>
    cases v with
    | bare => exact absurd h.symm hx.not_equals
    | token b =>
      exfalso
      obtain ⟨c, b, rfl⟩ := List.exists_cons_of_ne_nil hv.1
      have hc := hv.2 c List.mem_cons_self
      rw [← (List.cons.inj (List.cons.inj h).2).1] at hc
      exact absurd hc (by decide)
    | quoted items' after' =>
      have hitems : items.flatMap QuotedItem.wire ++ 34 :: (after ++ w) =
          items'.flatMap QuotedItem.wire ++ 34 :: (after' ++ x) := by
        simpa [NameEnd.wire] using h
      obtain ⟨rfl, htail⟩ := items_unique hu.1 hv.1 hitems
      obtain ⟨rfl, rfl⟩ := span_unique hu.2 hv.2 hw.not_token hx.not_token htail
      exact ⟨rfl, rfl⟩

theorem not_blank_of_token {b : UInt8} (h : Text.isTokenByte b = true) : ¬ (b = 32 ∨ b = 9) := by
  rintro (rfl | rfl) <;> exact absurd h (by decide)

theorem not_token_of_value {v : NameEnd} {w : Bytes} (hw : AfterExtension w) :
    ∀ b ∈ (v.wire ++ w).head?, ¬ Text.isTokenByte b = true := by
  cases v with
  | bare => exact hw.not_token
  | token | quoted =>
    intro b hb
    obtain rfl := Option.some.inj hb
    decide

theorem extension_unique {e f : ExtensionPart} {w x : Bytes} (he : e.Follows) (hf : f.Follows)
    (hw : AfterExtension w) (hx : AfterExtension x) (h : e.wire ++ w = f.wire ++ x) : e = f ∧ w = x := by
  have hblank : ∀ (g : ExtensionPart) (v : Bytes), g.Follows →
      ∀ b ∈ (g.name ++ (g.value.wire ++ v)).head?, ¬ IsBlankByte b := by
    intro g v hg b hb
    obtain ⟨c, name, hname⟩ := List.exists_cons_of_ne_nil hg.name.1
    rw [hname] at hb
    obtain rfl := Option.some.inj hb
    exact not_blank_of_token (hg.name.2 c (by rw [hname]; exact List.mem_cons_self))
  have hparts : e.blanks ++ (e.name ++ (e.value.wire ++ w)) = f.blanks ++ (f.name ++ (f.value.wire ++ x)) := by
    simpa [ExtensionPart.wire] using h
  obtain ⟨hblanks, hparts⟩ := span_unique he.blanks hf.blanks (hblank e w he) (hblank f x hf) hparts
  obtain ⟨hname, hparts⟩ :=
    span_unique he.name.2 hf.name.2 (not_token_of_value hw) (not_token_of_value hx) hparts
  obtain ⟨hvalue, hrest⟩ := value_unique he.value hf.value hw hx hparts
  cases e
  cases f
  obtain rfl : _ = _ := hblanks
  obtain rfl : _ = _ := hname
  obtain rfl : _ = _ := hvalue
  exact ⟨rfl, hrest⟩

theorem extensions_unique {es fs : List ExtensionPart} (he : ∀ e ∈ es, e.Follows) (hf : ∀ f ∈ fs, f.Follows)
    (h : es.flatMap ExtensionPart.wire = fs.flatMap ExtensionPart.wire) : es = fs := by
  induction es generalizing fs with
  | nil =>
    cases fs with
    | nil => rfl
    | cons f fs => exact absurd h (by simp [ExtensionPart.wire])
  | cons e es ih =>
    cases fs with
    | nil => exact absurd h (by simp [ExtensionPart.wire])
    | cons f fs =>
      rw [List.flatMap_cons, List.flatMap_cons] at h
      obtain ⟨rfl, hrest⟩ := extension_unique (he e List.mem_cons_self) (hf f List.mem_cons_self)
        (afterExtension_wires es) (afterExtension_wires fs) h
      rw [ih (fun x hx => he x (List.mem_cons_of_mem e hx)) (fun x hx => hf x (List.mem_cons_of_mem e hx)) hrest]

theorem hex_of_readHex? {n size : Nat} {digits : Bytes} (h : readHex? n digits = some size) :
    ∀ b ∈ digits, (Text.hexValue? b).isSome := by
  induction digits generalizing n with
  | nil => simp
  | cons b digits ih =>
    rw [readHex?] at h
    split at h
    · next k hk =>
      intro x hx
      rcases List.mem_cons.1 hx with rfl | hx
      · rw [hk]
        rfl
      · exact ih h x hx
    · exact absurd h (by simp)

/-- A line has only one set of parts. -/
theorem SizeLine.text_inj {l m : SizeLine} {size size' : Nat} (hl : l.Follows size) (hm : m.Follows size')
    (h : l.text = m.text) : l = m := by
  have hblank : ∀ es : List ExtensionPart, ∀ b ∈ (es.flatMap ExtensionPart.wire).head?, ¬ IsBlankByte b := by
    intro es b hb
    rw [afterExtension_wires es b hb]
    exact fun hb => hb.elim (by decide) (by decide)
  have hhex : ∀ (k : SizeLine) (n : Nat), k.Follows n →
      ∀ b ∈ (k.blanks ++ k.extensions.flatMap ExtensionPart.wire).head?, ¬ (Text.hexValue? b).isSome := by
    intro k n hk b hb
    have hclass : IsBlankByte b ∨ b = 59 := by
      rcases hblanks : k.blanks with _ | ⟨c, cs⟩ <;> rw [hblanks] at hb
      · exact Or.inr (afterExtension_wires k.extensions b hb)
      · obtain rfl := Option.some.inj hb
        exact Or.inl (hk.blanks c (by rw [hblanks]; exact List.mem_cons_self))
    rcases hclass with (rfl | rfl) | rfl <;> decide
  obtain ⟨hdigits, hrest⟩ := span_unique (hex_of_readHex? hl.digits.2) (hex_of_readHex? hm.digits.2)
    (hhex l size hl) (hhex m size' hm) h
  obtain ⟨hblanks, hrest⟩ :=
    span_unique hl.blanks hm.blanks (hblank l.extensions) (hblank m.extensions) hrest
  have hextensions := extensions_unique hl.extensions hm.extensions hrest
  cases l
  cases m
  obtain rfl : _ = _ := hdigits
  obtain rfl : _ = _ := hblanks
  obtain rfl : _ = _ := hextensions
  rfl

end Switchboard.Http.Chunk
