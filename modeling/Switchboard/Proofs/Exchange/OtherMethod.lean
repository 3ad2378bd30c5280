import Switchboard.Proofs.Exchange.BodyFault
import Switchboard.Proofs.Exchange.Segmentation

/-!
The same request with another method. Changing the method in a stream (`Head.withMethod`) changes the method of the head
that is read from it, and nothing else: not the fields, nor what comes after the head (`headOf?_withMethod`). What is read
of the body does not depend on the method either (`bodyOf?_withMethod`, `bodyFault?_withMethod`). Only the length of the
first line changes, by the length of the method's name.
-/

namespace Switchboard

namespace Text

/-- Bytes that are ASCII are the text that they are read as. -/
theorem utf8_lossy_of_ascii {bytes : Bytes} (h : ∀ b ∈ bytes, b < 0x80) : utf8 (lossy bytes) = bytes := by
  rw [utf8, lossy, String.toList_ofList, lossyFrom_of_ascii h]
  induction bytes with
  | nil => rfl
  | cons b bytes ih =>
    have hb : b.toNat < 0x80 := UInt8.lt_iff_toNat_lt.1 (h b List.mem_cons_self)
    have hencode : String.utf8EncodeChar (Char.ofNat b.toNat) = [b] := by
      have hv : b.toNat.isValidChar := Or.inl (Nat.lt_trans b.toNat_lt (by decide))
      have hval : (Char.ofNat b.toNat).val.toNat = b.toNat := toNat_char_ofNat hv
      rw [String.utf8EncodeChar, if_pos (by omega), hval]
      simp
    rw [List.map_cons, List.flatMap_cons, ih fun c hc => h c (List.mem_cons_of_mem b hc), hencode]
    rfl

end Text

namespace Http

/-- The request with another method. -/
def Request.withMethod (r : Request) (m : Method) : Request := { r with method := m }

/-- What follows the method on a request line. -/
def RequestLine.afterMethod (r : RequestLine) : Bytes := Text.utf8 (" " ++ r.target ++ " " ++ r.version.name)

theorem RequestLine.utf8_render (r : RequestLine) :
    Text.utf8 r.render = Text.utf8 r.method.name ++ r.afterMethod := by
  have : r.render = r.method.name ++ (" " ++ r.target ++ " " ++ r.version.name) := by
    simp [render, toString, String.append_assoc]
  rw [this, Text.utf8_append]
  rfl

theorem RequestLine.exists_afterMethod (r : RequestLine) : ∃ rest, r.afterMethod = 32 :: rest := by
  refine ⟨Text.utf8 (r.target ++ " " ++ r.version.name), ?_⟩
  have : " " ++ r.target ++ " " ++ r.version.name = " " ++ (r.target ++ " " ++ r.version.name) := by
    simp [String.append_assoc]
  rw [afterMethod, this, Text.utf8_append]
  rfl

/-- The bytes of a line that is accepted are those of its text. -/
theorem RequestLine.line_of_parse {start : Bytes} {maxUrl : Nat} {r : RequestLine}
    (h : parse (Text.lossy start) maxUrl = .ok r) : start = Text.utf8 r.method.name ++ r.afterMethod := by
  have hascii := (length_le_of_parse h).1
  rw [Text.lossy, String.toList_ofList] at hascii
  rw [← utf8_render, ← (parse_eq_ok_iff.1 h).1, Text.utf8_lossy_of_ascii (Text.ascii_of_lossyFrom hascii)]

/-- Whether a line is accepted does not depend on which method it names. -/
theorem RequestLine.parse_withMethod {start : Bytes} {maxUrl : Nat} {r : RequestLine}
    (h : parse (Text.lossy start) maxUrl = .ok r) (m : Method) :
    parse (Text.lossy (Text.utf8 m.name ++ r.afterMethod)) maxUrl = .ok { r with method := m } := by
  have hrender : Text.utf8 m.name ++ r.afterMethod = Text.utf8 ({ r with method := m } : RequestLine).render :=
    (utf8_render { r with method := m }).symm
  rw [hrender, Text.lossy_utf8]
  exact parse_eq_ok_iff.2 ⟨rfl, (parse_eq_ok_iff.1 h).2⟩

namespace Head

/-- A stream with another method on its first line; blank lines before it stay. -/
def withMethod (m : Method) (stream : Bytes) : Bytes :=
  stream.take (stream.length - (dropBlankLines stream).length) ++
    (Text.utf8 m.name ++ (dropBlankLines stream).dropWhile (· ≠ 32))

theorem name_bytes (m : Method) : 13 ∉ Text.utf8 m.name ∧ 32 ∉ Text.utf8 m.name ∧ Text.utf8 m.name ≠ [] := by
  cases m <;> decide +kernel

theorem not_crlf_prefix_name (m : Method) (rest : Bytes) : ¬ Text.crlf <+: Text.utf8 m.name ++ rest := by
  obtain ⟨hcr, -, hne⟩ := name_bytes m
  rintro ⟨w, hw⟩
  cases hname : Text.utf8 m.name with
  | nil => exact hne hname
  | cons b bytes =>
    rw [hname] at hw hcr
    have hb : b = 13 := (List.cons.inj hw).1.symm
    exact hcr (hb ▸ List.mem_cons_self)

/-- Changing the method leaves the bytes from the space on. -/
theorem dropBlankLines_withMethod {stream rest : Bytes} {n : Method}
    (h : dropBlankLines stream = Text.utf8 n.name ++ (32 :: rest)) (m : Method) :
    dropBlankLines (withMethod m stream) = Text.utf8 m.name ++ (32 :: rest) := by
  obtain ⟨blanks, hstream, hblanks⟩ := exists_blankLines stream
  have hlen : stream.length - (dropBlankLines stream).length = blanks.length := by
    rw [congrArg List.length hstream, List.length_append, Nat.add_sub_cancel]
  have htake : stream.take blanks.length = blanks := by
    rw [hstream, List.take_left]
  have hdrop : (dropBlankLines stream).dropWhile (· ≠ 32) = 32 :: rest := by
    rw [h, List.dropWhile_append_of_pos]
    · simp
    · intro b hb
      have : b ≠ 32 := fun hb' => (name_bytes n).2.1 (hb' ▸ hb)
      simpa using this
  rw [withMethod, hlen, htake, hdrop]
  exact hblanks _ (not_crlf_prefix_name m _)

/-- A line and a head that begin with one method begin with any other. -/
theorem splitLine?_withMethod {n : Method} {u v rest : Bytes}
    (h : splitLine? (Text.utf8 n.name ++ u) = some (Text.utf8 n.name ++ v, rest)) (m : Method) :
    splitLine? (Text.utf8 m.name ++ u) = some (Text.utf8 m.name ++ v, rest) := by
  rw [splitLine?_append_of_not_mem (name_bytes n).1] at h
  obtain ⟨⟨v', rest'⟩, hu, he⟩ := Option.map_eq_some_iff.1 h
  obtain ⟨hv, rfl⟩ := Prod.mk.inj he
  obtain rfl := List.append_cancel_left hv
  rw [splitLine?_append_of_not_mem (name_bytes m).1, hu]
  rfl

theorem split?_withMethod {n : Method} {u v rest : Bytes}
    (h : split? (Text.utf8 n.name ++ u) = some (Text.utf8 n.name ++ v, rest)) (m : Method) :
    split? (Text.utf8 m.name ++ u) = some (Text.utf8 m.name ++ v, rest) := by
  rw [split?_append_of_not_mem (name_bytes n).1] at h
  obtain ⟨⟨v', rest'⟩, hu, he⟩ := Option.map_eq_some_iff.1 h
  obtain ⟨hv, rfl⟩ := Prod.mk.inj he
  obtain rfl := List.append_cancel_left hv
  rw [split?_append_of_not_mem (name_bytes m).1, hu]
  rfl

/-- The fields of a head do not depend on its first line. -/
theorem parse_of_splitLine? {a b u v rest : Bytes} {maxHeader : Nat} {line : String} {fields : Fields}
    (ha : splitLine? a = some (u, rest)) (hb : splitLine? b = some (v, rest))
    (h : parse a maxHeader = .ok (line, fields)) : parse b maxHeader = .ok (Text.lossy v, fields) := by
  obtain ⟨start, rest', hs, hlen, hread, -⟩ := parse_eq_ok_iff.1 h
  obtain ⟨-, rfl⟩ := Prod.mk.inj (Option.some.inj (ha.symm.trans hs))
  exact parse_eq_ok_iff.2 ⟨v, rest, hb, hlen, hread, rfl⟩

end Head
end Http

namespace Exchange

open Http

/-- A head is opened with any method as with another. -/
theorem openRequest_withMethod {s t : Slot} {a b : Bytes} {line line' : String} {fields : Fields} {r : RequestLine}
    {m : Method} (ha : Head.parse a s.limits.maxHeader.toNat = .ok (line, fields))
    (hb : Head.parse b s.limits.maxHeader.toNat = .ok (line', fields))
    (hline : RequestLine.parse line s.limits.maxUrl.toNat = .ok r)
    (hline' : RequestLine.parse line' s.limits.maxUrl.toNat = .ok { r with method := m })
    (h : s.openRequest a = (.ok (), t)) :
    t.request.method = r.method ∧
      s.openRequest b = (.ok (), { t with request := t.request.withMethod m }) := by
  obtain ⟨line₀, fields₀, r₀, ha₀, hline₀, hcoding, hlength, rfl⟩ := openRequest_eq_ok_iff.1 h
  obtain ⟨rfl, rfl⟩ := Prod.mk.inj (Except.ok.inj (ha.symm.trans ha₀))
  obtain rfl := Except.ok.inj (hline.symm.trans hline₀)
  exact ⟨rfl, openRequest_eq_ok_iff.2 ⟨line', fields, _, hb, hline', hcoding, hlength, rfl⟩⟩

section Worded

variable {s : Slot} {stream after : Bytes} {head : Request}

/-- The head of a stream that names the method `m`: `line` is the rest of the first line, `fields` what comes after it. -/
structure Worded (s : Slot) (head : Request) (line fields after : Bytes) (m : Method) (stream : Bytes) : Prop where
  split : Head.split? (Head.dropBlankLines stream) =
    some (Text.utf8 m.name ++ (line ++ (Text.crlf ++ fields)), after)
  splitLine : Head.splitLine? (Text.utf8 m.name ++ (line ++ (Text.crlf ++ fields))) =
    some (Text.utf8 m.name ++ line, fields)
  opens : ∃ t, s.cleared.openRequest (Text.utf8 m.name ++ (line ++ (Text.crlf ++ fields))) = (.ok (), t) ∧
    t.request = head.withMethod m

/-- A stream with a head that is read is worded alike with every method. -/
theorem exists_worded (h : s.headOf? stream = some (head, after)) :
    ∃ line fields, Worded s head line fields after head.method stream ∧
      ∀ m, Worded s head line fields after m (Head.withMethod m stream) := by
  obtain ⟨bytes, t, hsplit, ho, rfl⟩ := headOf?_eq_some_iff.1 h
  obtain ⟨line, fields, r, hparse, hline⟩ := exists_of_openRequest (congrArg Prod.fst ho)
  obtain ⟨start, rest, hstart, -, rfl⟩ := splitLine?_of_parse hparse
  -- the line is the name of the method and what follows it, with any method
  obtain rfl := RequestLine.line_of_parse hline
  obtain ⟨target, htarget⟩ := r.exists_afterMethod
  obtain rfl : bytes = Text.utf8 r.method.name ++ (r.afterMethod ++ (Text.crlf ++ rest)) := by
    rw [← List.append_assoc]
    exact Head.splitLine?_eq_some hstart
  have hlines := fun m => Head.splitLine?_withMethod hstart m
  have hopens := fun m => openRequest_withMethod hparse (Head.parse_of_splitLine? hstart (hlines m) hparse) hline
    (RequestLine.parse_withMethod hline m) ho
  have hmethod : t.request.method = r.method := (hopens .get).1
  have hworded : ∀ m stream', Head.split? (Head.dropBlankLines stream') =
      some (Text.utf8 m.name ++ (r.afterMethod ++ (Text.crlf ++ rest)), after) →
        Worded s t.request r.afterMethod rest after m stream' :=
    fun m stream' hs => ⟨hs, hlines m, _, (hopens m).2, rfl⟩
  refine ⟨r.afterMethod, rest, ?_, fun m => hworded m _ ?_⟩
  · rw [hmethod]
    exact hworded r.method stream hsplit
  · have hdrop := Head.split?_eq_some hsplit
    rw [List.append_assoc] at hdrop
    have hspace : r.afterMethod ++ (Text.crlf ++ rest) ++ after = 32 :: (target ++ (Text.crlf ++ rest) ++ after) := by
      rw [htarget]
      rfl
    rw [hspace] at hdrop
    rw [Head.dropBlankLines_withMethod hdrop m, ← hspace]
    rw [hdrop, ← hspace] at hsplit
    exact Head.split?_withMethod hsplit m

theorem Worded.headOf? {line fields : Bytes} {m : Method} (h : Worded s head line fields after m stream) :
    s.headOf? stream = some (head.withMethod m, after) := by
  obtain ⟨t, hopen, ht⟩ := h.opens
  exact headOf?_eq_some_iff.2 ⟨_, t, h.split, hopen, ht⟩

/-- With another method, the head is read that has this method, and what comes after it stays. -/
theorem headOf?_withMethod (h : s.headOf? stream = some (head, after)) (m : Method) :
    s.headOf? (Head.withMethod m stream) = some (head.withMethod m, after) := by
  obtain ⟨line, fields, -, hworded⟩ := exists_worded h
  exact (hworded m).headOf?

end Worded

section Bodies

variable {s : Slot} {stream : Bytes}

/-- The body does not depend on the method. -/
theorem bodyOf?_withMethod (r : Request) (m : Method) :
    Slot.bodyOf? { s with request := r.withMethod m } stream =
      (Slot.bodyOf? { s with request := r } stream).map fun p => (p.1.withMethod m, p.2) := by
  have hchunked : (r.withMethod m).isChunked = r.isChunked := rfl
  have hlength : (r.withMethod m).contentLength = r.contentLength := rfl
  simp only [Slot.bodyOf?, hchunked, hlength]
  split
  · split
    · rfl
    · rfl
  · rcases r.contentLength with f | _ | n
    · rfl
    · rfl
    · simp only
      split
      · rfl
      · rfl

theorem bodyFault?_withMethod (r : Request) (m : Method) :
    Slot.bodyFault? { s with request := r.withMethod m } stream = Slot.bodyFault? { s with request := r } stream := rfl

theorem bodyDecoder_withMethod (r : Request) (m : Method) :
    Slot.bodyDecoder { s with request := r.withMethod m } stream = Slot.bodyDecoder { s with request := r } stream := rfl

end Bodies

end Exchange
end Switchboard
