import Switchboard.Proofs.Http.Framing
import Switchboard.Proofs.Server.Protocol

/-!
Which heads are read. A head whose first line and fields can be read is opened if and only if its fields frame the body
(`openRequest_of_parse`). So over any transport a request is read only with a head that is framed, and what its fields
declare is what frames the body; a head that is not framed is refused as the client's doing (`request_framed`). Look-up
gives the first length, so a head is framed also if further lengths differ from it, and a coding beside the chunked one
is passed over (`ambiguous_requests_read`).
-/

namespace Switchboard.Server

open Http
open Exchange

/-- A stream begins with a head whose first line and fields can be read: `fields` are its fields, and `after` is what
comes after it. -/
def HasHead (s : Slot) (stream : Bytes) (fields : Fields) (after : Bytes) : Prop :=
  ∃ head line l, Head.split? (Head.dropBlankLines stream) = some (head, after) ∧
    Head.parse head s.limits.maxHeader.toNat = .ok (line, fields) ∧
    RequestLine.parse line s.limits.maxUrl.toNat = .ok l

section Opening

variable {s : Slot} {stream after bytes : Bytes} {fields : Fields} {head : Request}

/-- Past the first line and the fields, a head is refused for its framing only. -/
theorem openRequest_of_parse {line : String} {l : RequestLine}
    (hparse : Head.parse bytes s.limits.maxHeader.toNat = .ok (line, fields))
    (hline : RequestLine.parse line s.limits.maxUrl.toNat = .ok l) :
    (∀ f, fields.framingFault? = some f → (s.openRequest bytes).1 = .error f) ∧
      (fields.framingFault? = none →
        (s.openRequest bytes).1 = .ok () ∧ (s.openRequest bytes).2.request.fields = fields) := by
  unfold Slot.openRequest Fields.framingFault?
  rw [hparse]
  simp only [hline]
  split
  · exact ⟨fun f hf => congrArg Except.error (Option.some.inj hf), fun h => absurd h (by simp)⟩
  rcases (if fields.isChunked then .ok none else fields.contentLength : Except Fault (Option Nat)) with f | n
  · exact ⟨fun g hg => congrArg Except.error (Option.some.inj hg), fun h => absurd h (by simp)⟩
  · exact ⟨fun f hf => absurd hf (by simp), fun _ => ⟨rfl, rfl⟩⟩

/-- A head that is read is framed. -/
theorem hasHead_of_headOf? (h : s.headOf? stream = some (head, after)) :
    HasHead s stream head.fields after ∧ head.fields.IsFramed := by
  obtain ⟨bytes, t, hsplit, ho, rfl⟩ := headOf?_eq_some_iff.1 h
  obtain ⟨line, fields, l, hparse, hline, -, -, rfl⟩ := openRequest_eq_ok_iff.1 ho
  refine ⟨⟨bytes, line, l, hsplit, hparse, hline⟩, Fields.framingFault?_eq_none_iff.1 ?_⟩
  rcases hf : fields.framingFault? with _ | f
  · exact hf
  · have hrefused := (openRequest_of_parse (s := s.cleared) hparse hline).1 f hf
    rw [ho] at hrefused
    exact absurd hrefused (by simp)

/-- A head that is not framed is refused as the client's doing. -/
theorem openRequest_of_not_framed (h : HasHead s stream fields after) (hframed : ¬ fields.IsFramed) :
    ∃ bytes f, Head.split? (Head.dropBlankLines stream) = some (bytes, after) ∧
      (s.cleared.openRequest bytes).1 = .error f ∧ f.isTransport = false ∧ f.category = .clientData := by
  obtain ⟨bytes, line, l, hsplit, hparse, hline⟩ := h
  rcases hf : fields.framingFault? with _ | f
  · exact absurd (Fields.framingFault?_eq_none_iff.1 hf) hframed
  · obtain ⟨htransport, hcategory⟩ := Fields.category_framingFault? hf
    exact ⟨bytes, f, hsplit, (openRequest_of_parse (s := s.cleared) hparse hline).1 f hf, htransport, hcategory⟩

end Opening

section Reading

variable {σ : Type} [Transport σ]

/-- The body that a link reads next is the one that a head announces, with `after` as the bytes that came after the head
and whatever is received meanwhile. -/
def ReadsBodyOf (s : Slot) (head : Request) (after : Bytes) (x : Link (Recorded (Taped σ))) : Prop :=
  ∃ more, Passed x.session.transport x.readBody.2.session.transport more [] ∧
    (x.readBody.1 = .ok () → HasBody s head x.readBody.2.slot.request (after ++ more))

/-- After a head that waits for a go-ahead, its body is read over any session. -/
theorem readsBodyOf_of_waiting {s : Slot} {stream after : Bytes} {head : Request}
    (hopens : s.headOf? stream = some (head, after)) {x : Link (Recorded (Taped σ))}
    (hslot : x.slot = { s.cleared with request := head, buffer := after }) : ReadsBodyOf s head after x := by
  obtain ⟨more, hpassed, htook⟩ := x.readBody_taped
  refine ⟨more, hpassed, fun hok => ?_⟩
  obtain ⟨hbody, -⟩ := htook hok
  rw [hslot] at hbody
  have hopens := headOf?_append hopens more
  have hbody : Slot.bodyOf? { s with request := head } (after ++ more) =
      some (x.readBody.2.slot.request, x.readBody.2.slot.buffer) := by
    rw [← hbody]
    exact bodyOf?_congr rfl rfl rfl _
  obtain ⟨after', hopens', hhas⟩ := Complete.hasBody ⟨after ++ more, hopens, hbody⟩
  obtain ⟨-, rfl⟩ := Prod.mk.inj (Option.some.inj (hopens.symm.trans hopens'))
  exact hhas

/-- A request is read only if its head is framed, and then its body is the one that the fields declare: what the chunked
coding gives if that is among the codings, and else as many bytes as the first length says. A body whose client waits
for a go-ahead is read in the same way after it. A head that is not framed is refused as the client's doing. -/
theorem request_framed (x : Link (Recorded (Taped σ))) :
    ∃ got, Passed x.session.transport x.readRequest.2.session.transport got [] ∧
      (x.readRequest.1 = .ok () → ∃ head after,
        HasHead x.slot (x.slot.buffer ++ got) head.fields after ∧ head.fields.IsFramed ∧
        (head.expectContinue = false → HasBody x.slot head x.readRequest.2.slot.request after) ∧
        (head.expectContinue = true → ∀ y : Link (Recorded (Taped σ)), y.slot = x.readRequest.2.slot →
          ReadsBodyOf x.slot head after y)) ∧
      (∀ fields after, HasHead x.slot (x.slot.buffer ++ got) fields after → ¬ fields.IsFramed →
        ∃ f, x.readRequest.1 = .error f ∧ f.isTransport = false ∧ f.category = .clientData) := by
  obtain ⟨got, hpassed, hread, hrefused⟩ := x.readRequest_taped
  refine ⟨got, hpassed, fun hok => ?_, fun fields after hhead hframed => ?_⟩
  · obtain ⟨head, after, hopens, hwaiting, hwhole⟩ := hread hok
    obtain ⟨hhead, hframed⟩ := hasHead_of_headOf? hopens
    refine ⟨head, after, hhead, hframed, fun hexpect => ?_, fun hexpect y hy => ?_⟩
    · obtain ⟨hbody, -⟩ := hwhole hexpect
      have hbody : Slot.bodyOf? { x.slot with request := head } after =
          some (x.readRequest.2.slot.request, x.readRequest.2.slot.buffer) := by
        rw [← hbody]
        exact bodyOf?_congr rfl rfl rfl _
      obtain ⟨after', hopens', hhas⟩ := Complete.hasBody ⟨after, hopens, hbody⟩
      obtain ⟨-, rfl⟩ := Prod.mk.inj (Option.some.inj (hopens.symm.trans hopens'))
      exact hhas
    · exact readsBodyOf_of_waiting hopens (hy.trans (hwaiting hexpect))
  · obtain ⟨bytes, f, hsplit, hfault, htransport, hcategory⟩ := openRequest_of_not_framed hhead hframed
    exact ⟨f, hrefused bytes after f hsplit hfault, htransport, hcategory⟩

end Reading

/-- A request with two lengths that differ. -/
def twoLengths : Bytes :=
  Text.utf8 "POST / HTTP/1.1\r\nContent-Length: 2\r\nContent-Length: 5\r\n\r\nhello"

/-- The head of that request. -/
def twoLengthsHead : Request where
  method := .post
  target := "/"
  fields := .ofPairs [("Content-Length", "2"), ("Content-Length", "5")]

/-- A request with a coding before the chunked one. -/
def twoCodings : Bytes :=
  Text.utf8 "POST / HTTP/1.1\r\nTransfer-Encoding: gzip, chunked\r\n\r\n0\r\n\r\n"

/-- The head of that request. -/
def twoCodingsHead : Request where
  method := .post
  target := "/"
  fields := .ofPairs [("Transfer-Encoding", "gzip, chunked")]

theorem not_isUnambiguous_twoLengthsHead : ¬ twoLengthsHead.fields.IsUnambiguous := by
  have hnone : twoLengthsHead.fields.getAll "Transfer-Encoding" = [] := by decide
  have hlengths : twoLengthsHead.fields.lengths = [some 2, some 5] := by decide
  rintro (⟨-, n, hall⟩ | ⟨hne, -⟩)
  · rw [hlengths] at hall
    have htwo := hall (some 2) (by decide)
    have hfive := hall (some 5) (by decide)
    exact absurd (htwo.trans hfive.symm) (by decide)
  · exact hne hnone

theorem not_isUnambiguous_twoCodingsHead : ¬ twoCodingsHead.fields.IsUnambiguous := by
  rintro (⟨hnil, -⟩ | ⟨-, honly⟩)
  · exact absurd hnil (by decide)
  · exact absurd honly (by decide)

/-- Two requests that are read although their framing is not the only one: the first of two lengths that differ declares
the body, and a coding before the chunked one is passed over. -/
theorem ambiguous_requests_read :
    ((promptLink {} twoLengths).readRequest.1 = .ok () ∧
      (Slot.new {}).headOf? twoLengths = some (twoLengthsHead, Text.utf8 "hello") ∧
      (promptLink {} twoLengths).readRequest.2.slot.request = { twoLengthsHead with body := Text.utf8 "he" } ∧
      ¬ twoLengthsHead.fields.IsUnambiguous) ∧
    ((promptLink {} twoCodings).readRequest.1 = .ok () ∧
      (Slot.new {}).headOf? twoCodings = some (twoCodingsHead, Text.utf8 "0\r\n\r\n") ∧
      (promptLink {} twoCodings).readRequest.2.slot.request = twoCodingsHead ∧
      ¬ twoCodingsHead.fields.IsUnambiguous) :=
  ⟨⟨by decide +kernel, by decide +kernel, by decide +kernel, not_isUnambiguous_twoLengthsHead⟩,
    by decide +kernel, by decide +kernel, by decide +kernel, not_isUnambiguous_twoCodingsHead⟩

end Switchboard.Server
