import Switchboard.Proofs.Exchange.Duplex
import Switchboard.Proofs.Exchange.ResponseSegmentation
import Switchboard.Proofs.Exchange.Responses

/-!
Responses sent by one side and read by the other. A final response that the limits of the reader leave room for
(`Returnable`) reads back with its version, its status, its reason, its fields in their order and its body, however it
is cut into writes and into reads, and what comes after it is left unread (`sent_response_read_back`). The reader finds
the end of the body by the declared length, or by the close of the other side if none is declared; after a request for
the head only there is no body to find. Interim responses, and those whose status never has a body, are not the
subject.
-/

namespace Switchboard.Exchange

open Http

/-- A final response that may have a body, and that a reader with these limits promises to take. -/
structure Returnable (l : Limits) (r : Response) : Prop where
  status : r.status.code < 1000
  final : r.status.isInformational = false
  bodily : r.status.code ≠ 204 ∧ r.status.code ≠ 304
  reasoned : r.reason.toList ≠ []
  reason : '\r' ∉ r.reason.toList ∧ '\n' ∉ r.reason.toList
  fields : ∀ f ∈ r.fields.toList, f.Sendable
  count : r.fields.size ≤ Head.maxFields
  line : (r.lineBytes ++ Text.crlf).length ≤ l.maxHeader.toNat
  header : r.fields.wire.length ≤ l.maxHeader.toNat
  coding : r.fields.contains "Transfer-Encoding" = false
  body : r.body.length ≤ l.maxBody.toNat

/-- A reader can tell where the response ends: no body is sent, or its length is declared, or no length is declared and
nothing but the close comes after the body. -/
def EndsClearly (toHead : Bool) (e : StreamEnd) (r : Response) (more : Bytes) : Prop :=
  toHead = true ∨ r.contentLength = .ok (some r.body.length) ∨
    r.contentLength = .ok none ∧ e = .closed ∧ more = []

section Reading

variable {l : Limits} {r : Response} {s : Slot} {toHead : Bool} {e : StreamEnd} {more : Bytes}

theorem Returnable.congr {m : Limits} (h : Returnable l r) (hheader : m.maxHeader = l.maxHeader)
    (hbody : m.maxBody = l.maxBody) : Returnable m r where
  __ := h
  line := by rw [hheader]; exact h.line
  header := by rw [hheader]; exact h.header
  body := by rw [hbody]; exact h.body

theorem Returnable.writable (h : Returnable l r) : r.Writable := by
  refine ⟨h.status, fun reason hc => ?_, fun f hf => (h.fields f hf).writable⟩
  have hr := h.reason.1
  rwa [Response.reason, hc] at hr

theorem Returnable.holds (h : Returnable l r) (hheader : l.maxHeader.toNat < 2 ^ 63) : Holds l r := by
  have hline := h.line
  rw [List.length_append, show Text.crlf.length = 2 from rfl] at hline
  exact ⟨by omega, h.header, by omega, h.body⟩

theorem Returnable.trimmed (h : Returnable l r) : r.fields.trimmed = r.fields :=
  Fields.trimmed_of_sendable h.fields

theorem Returnable.isChunked_trimmed (h : Returnable l r) : r.fields.trimmed.isChunked = false := by
  rw [h.trimmed, Fields.isChunked, Fields.hasToken, Fields.getAll_of_not_contains h.coding]
  rfl

/-- What is sent of a response reads as the response. -/
theorem responseOf?_sent (h : Returnable s.limits r) (hheader : s.limits.maxHeader.toNat < 2 ^ 63)
    (hends : EndsClearly toHead e r more) :
    s.responseOf? toHead e (sentBytes toHead r ++ more) =
      some (r.received (if toHead then [] else r.body), more) := by
  have hr := h.writable
  have hl := h.holds hheader
  cases toHead with
  | true =>
    show s.responseOf? true e (r.head ++ [] ++ more) = some (r.received [], more)
    rw [List.append_nil]
    exact responseOf?_bodiless hr h.count hl (isBodiless_iff.2 (Or.inl rfl)) more
  | false =>
    show s.responseOf? false e (r.head ++ r.body ++ more) = some (r.received r.body, more)
    have hb : Link.isBodiless false r.status = false := by
      have hbodily := h.bodily
      rw [Bool.eq_false_iff, ne_eq, isBodiless_iff, h.final]
      simp [hbodily]
    have hlength : r.fields.trimmed.contentLength = r.contentLength := by rw [h.trimmed, Response.contentLength]
    rw [List.append_assoc]
    rcases hends with hends | hends | ⟨hends, rfl, rfl⟩
    · exact absurd hends Bool.false_ne_true
    · exact responseOf?_sized hr h.count hl hb h.isChunked_trimmed (hlength.trans hends) more
    · rw [List.append_nil]
      exact responseOf?_untilClosed hr h.count hl hb h.isChunked_trimmed (hlength.trans hends)

end Reading

/-- A response that has been sent is on the wire. -/
theorem written_sendResponse {σ : Type} [Transport σ] {x x' : Link (Recorded σ)} {toHead : Bool}
    (h : x.sendResponse toHead = (.ok (), x')) :
    x'.session.transport.written = x.session.transport.written ++ sentBytes toHead x.slot.response :=
  written_sendParts h

/-- A response that was sent reads back as it was, from the bytes that were written, in whatever pieces these were
written and in whatever pieces they arrive: with its version, its status, its reason, its fields in their order and its
body, which is left out in answer to a request for the head only. What comes after it is left unread. -/
theorem sent_response_read_back {σ : Type} [Transport σ] {x x' : Link (Recorded σ)} {toHead : Bool} {l : Limits}
    (hr : Returnable l x.slot.response) (hheader : l.maxHeader.toNat < 2 ^ 63)
    (hsend : x.sendResponse toHead = (.ok (), x')) :
    ∃ wire, x'.session.transport.written = x.session.transport.written ++ wire ∧
      ∀ (y : Link Script) (e : StreamEnd) (more : Bytes), y.slot.SameLimits (Slot.new l) → y.IsTimely e →
        y.unread = wire ++ more → EndsClearly toHead e x.slot.response more →
          let got := (y.readResponse toHead).2.slot.response
          (y.readResponse toHead).1 = .ok () ∧ got.version = x.slot.response.version ∧
            got.status = x.slot.response.status ∧ got.reason = x.slot.response.reason ∧
            got.fields = x.slot.response.fields ∧ got.body = (if toHead then [] else x.slot.response.body) ∧
            (y.readResponse toHead).2.unread = more := by
  refine ⟨sentBytes toHead x.slot.response, written_sendResponse hsend, ?_⟩
  intro y e more hs htimely hu hends
  have hr' : Returnable y.slot.limits x.slot.response := hr.congr hs.header hs.body
  have hheader' : y.slot.limits.maxHeader.toNat < 2 ^ 63 := by
    rw [hs.header]
    exact hheader
  have hread := readResponse_heard toHead hr'.writable (hr'.holds hheader') htimely
    (hu.trans (List.append_assoc _ _ _))
  rw [← List.append_assoc, ← sentBytes, responseOf?_sent hr' hheader' hends] at hread
  obtain ⟨hok, hresponse, hrest⟩ := hread
  refine ⟨hok, ?_, ?_, ?_, ?_, ?_, hrest⟩ <;> rw [hresponse]
  · rfl
  · rfl
  · exact Response.reason_received hr.reasoned _
  · exact hr.trimmed
  · rfl

/-- A page that was not found, with a reason of its own. -/
def lostPage : Response where
  status := ⟨404⟩
  customReason := some "Gone fishing"
  fields := ⟨[⟨"Content-Length", "5"⟩, ⟨"X-Note", "a-b"⟩, ⟨"Content-Length", "7"⟩]⟩
  body := Text.utf8 "hello"

theorem returnable_lostPage : Returnable {} lostPage := by
  refine ⟨by decide, by decide, by decide, by decide, by decide, ?_, by decide, by decide +kernel,
    by decide +kernel, by decide +kernel, by decide +kernel⟩
  intro f hf
  rcases List.mem_cons.1 hf with rfl | hf
  · exact Field.sendable_of_graphic (by decide) (List.all_eq_true.1 (by decide)) (by decide)
  rcases List.mem_cons.1 hf with rfl | hf
  · exact Field.sendable_of_graphic (by decide) (List.all_eq_true.1 (by decide)) (by decide)
  rcases List.mem_singleton.1 hf with rfl
  exact Field.sendable_of_graphic (by decide) (List.all_eq_true.1 (by decide)) (by decide)

/-- A link to a transport that takes three bytes at a time. -/
def lostPageSender : Link (Recorded Script) where
  slot := { Slot.new {} with response := lostPage }
  session := .new { inner := { writeMax := some 3 } }

/-- Its bytes come in two pieces, with more bytes at the end of the second. -/
theorem lostPage_read_back :
    ∃ x', lostPageSender.sendResponse false = (.ok (), x') ∧
      let wire := x'.session.transport.written
      let y := (Slot.new {}).receiving [wire.take 23, wire.drop 23 ++ Text.utf8 "HTTP"] .silent
      (y.readResponse false).1 = .ok () ∧ (y.readResponse false).2.slot.response.reason = "Gone fishing" ∧
        (y.readResponse false).2.slot.response.fields = lostPage.fields ∧
        (y.readResponse false).2.slot.response.body = Text.utf8 "hello" ∧
        (y.readResponse false).2.unread = Text.utf8 "HTTP" := by
  obtain ⟨session, hsend, -⟩ := sendParts_accepts
    ((duplex_recorded (Script.duplex_brings Session.defaultTimeout)).accepts _) (x := lostPageSender)
    ⟨rfl, trivial, rfl, by decide, rfl, by decide⟩ lostPage.head lostPage.body
  have hsend : lostPageSender.sendResponse false = (.ok (), { lostPageSender with session }) := hsend
  obtain ⟨wire, hwritten, hread⟩ := sent_response_read_back returnable_lostPage (by decide) hsend
  have hwritten : session.transport.written = wire := hwritten
  refine ⟨_, hsend, ?_⟩
  intro w y
  have hw : w = wire := hwritten
  have hlen : w = lostPage.wire := written_sendResponse hsend
  have hdelivers := delivers_receiving (Slot.new {}) [w.take 23, w.drop 23 ++ Text.utf8 "HTTP"]
    (by rw [hlen]; decide +kernel) .silent
  have hu : y.unread = wire ++ Text.utf8 "HTTP" := by
    rw [hdelivers.unread, ← hw, List.flatten_cons, List.flatten_cons, List.flatten_nil, List.append_nil,
      ← List.append_assoc, List.take_append_drop]
  obtain ⟨hok, -, -, hreason, hfields, hbody, hrest⟩ := hread y .silent (Text.utf8 "HTTP")
    ⟨rfl, rfl, rfl, rfl⟩ hdelivers.timely hu (Or.inr (Or.inl (by decide +kernel)))
  exact ⟨hok, hreason, hfields, hbody, hrest⟩

end Switchboard.Exchange
