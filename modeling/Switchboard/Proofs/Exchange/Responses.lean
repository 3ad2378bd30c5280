import Switchboard.Exchange.Client
import Switchboard.Proofs.Exchange.Hearing
import Switchboard.Proofs.Http.Response

/-!
What a client makes of a response that was written. The head is read as it was written (`openResponse_head`). After
it, a response to a request for the head only and one whose status has no body are at their end
(`responseOf?_bodiless`); any other is read with its body, of the declared length (`responseOf?_sized`) or up to the
close (`responseOf?_untilClosed`). So a client gets a response as it was written and leaves what follows it, if and
only if no body was written where none is read, and the response is no interim one (`gets_iff`).
-/

namespace Switchboard.Exchange

open Http

/-- The limits leave room for a response. -/
structure Holds (l : Limits) (r : Response) : Prop where
  line : r.lineBytes.length + 1 ≤ l.maxHeader.toNat
  fields : r.fields.wire.length ≤ l.maxHeader.toNat
  sum : l.maxHeader.toNat + 4 < 2 ^ 64
  body : r.body.length ≤ l.maxBody.toNat

/-! ## Heads -/

section Heads

variable {s : Slot} {r : Response}

/-- The head of a response that can be written says what was written. -/
theorem openResponse_head (hr : r.Writable) (hcount : r.fields.size ≤ Head.maxFields)
    (hl : Holds s.limits r) (hs : s.response = .cleared) :
    s.openResponse r.head = (.ok (), { s with response := r.received [] }) := by
  have hparse := Response.parse_head hr hcount hl.fields
  refine openResponse_eq_ok_iff.2 ⟨_, _, _, hparse, StatusLine.parse_line hr.status, ?_⟩
  rw [Slot.withStatusLine, hs]
  rfl

theorem headFits_head (hr : r.Writable) {l : Limits} (hl : Holds l r) : HeadFits .response l r.head := by
  intro line fields hline
  rw [Response.splitLine?_head hr] at hline
  obtain ⟨rfl, rfl⟩ := Prod.mk.inj (Option.some.inj hline)
  have hfields := hl.fields
  rw [sectionRoom_of_lt hl.sum]
  exact ⟨Nat.lt_succ_of_le hl.line, by omega⟩

end Heads

/-! ## Responses -/

section Responses

variable {s : Slot} {r : Response} {toHead : Bool} {e : StreamEnd}

/-- The head of a response that was written is at the front of its bytes. -/
theorem responseHeadOf?_head (hr : r.Writable) (hcount : r.fields.size ≤ Head.maxFields) (hl : Holds s.limits r)
    (after : Bytes) : s.responseHeadOf? (r.head ++ after) = some (r.received [], after) := by
  have hopen : s.unanswered.openResponse r.head = (.ok (), { s.unanswered with response := r.received [] }) :=
    openResponse_head hr hcount hl rfl
  exact responseHeadOf?_eq_some_iff.2 ⟨_, _, Response.split?_head hr after, hopen, rfl⟩

/-- A response without a body ends with its head. -/
theorem responseOf?_bodiless (hr : r.Writable) (hcount : r.fields.size ≤ Head.maxFields) (hl : Holds s.limits r)
    (hb : Link.isBodiless toHead r.status = true) (after : Bytes) :
    s.responseOf? toHead e (r.head ++ after) = some (r.received [], after) := by
  rw [Slot.responseOf?, responseHeadOf?_head hr hcount hl, Option.bind_some, Slot.responseBodyOf?]
  exact if_pos hb

/-- After the head of a response with a body comes what its fields say. -/
theorem responseOf?_of_body (hr : r.Writable) (hcount : r.fields.size ≤ Head.maxFields) (hl : Holds s.limits r)
    (hb : Link.isBodiless toHead r.status = false) (hc : r.fields.trimmed.isChunked = false) (after : Bytes) :
    s.responseOf? toHead e (r.head ++ after) = match r.fields.trimmed.contentLength with
      | .error _ => none
      | .ok (some n) => Slot.sizedOf? { s.unanswered with response := r.received [] } n after
      | .ok none => Slot.untilClosedOf? { s.unanswered with response := r.received [] } e after := by
  have hstatus : ¬ Link.isBodiless toHead (r.received []).status = true := by
    rw [Bool.not_eq_true]
    exact hb
  have hchunked : ¬ (r.received []).isChunked = true := by
    rw [Bool.not_eq_true]
    exact hc
  rw [Slot.responseOf?, responseHeadOf?_head hr hcount hl, Option.bind_some, Slot.responseBodyOf?, if_neg hstatus,
    if_neg hchunked]
  rfl

theorem deliver_received (s : Slot) (r : Response) :
    (Slot.deliver { s.unanswered with response := r.received [] } .response r.body []).response =
      r.received r.body := by
  simp [Slot.deliver, Response.received, Fields.append]

/-- A response whose declared length is that of its body ends with the body. -/
theorem responseOf?_sized (hr : r.Writable) (hcount : r.fields.size ≤ Head.maxFields) (hl : Holds s.limits r)
    (hb : Link.isBodiless toHead r.status = false) (hc : r.fields.trimmed.isChunked = false)
    (hlength : r.fields.trimmed.contentLength = .ok (some r.body.length)) (more : Bytes) :
    s.responseOf? toHead e (r.head ++ (r.body ++ more)) = some (r.received r.body, more) := by
  have hfits : r.body.length ≤ s.limits.maxBody.toNat ∧ r.body.length ≤ (r.body ++ more).length := by
    rw [List.length_append]
    exact ⟨hl.body, Nat.le_add_right _ _⟩
  rw [responseOf?_of_body hr hcount hl hb hc, hlength]
  simp only
  rw [Slot.sizedOf?, List.take_left, List.drop_left, deliver_received]
  exact if_pos hfits

/-- A response that declares no length has all that comes before the close as its body. -/
theorem responseOf?_untilClosed (hr : r.Writable) (hcount : r.fields.size ≤ Head.maxFields)
    (hl : Holds s.limits r) (hb : Link.isBodiless toHead r.status = false)
    (hc : r.fields.trimmed.isChunked = false) (hlength : r.fields.trimmed.contentLength = .ok none) :
    s.responseOf? toHead .closed (r.head ++ r.body) = some (r.received r.body, []) := by
  rw [responseOf?_of_body hr hcount hl hb hc, hlength]
  simp only
  rw [Slot.untilClosedOf?, deliver_received]
  exact if_pos ⟨rfl, hl.body⟩

/-- A response whose fields say how long it is ends with its body. -/
theorem responseOf?_framed (hr : r.Writable) (hf : r.IsFramed) (hcount : r.fields.size ≤ Head.maxFields)
    (hl : Holds s.limits r) (hb : Link.isBodiless toHead r.status = false) (more : Bytes) :
    s.responseOf? toHead e (r.head ++ (r.body ++ more)) = some (r.received r.body, more) :=
  responseOf?_sized hr hcount hl hb (Response.isChunked_trimmed hf)
    (Response.contentLength_trimmed hf (Nat.lt_of_le_of_lt hl.body s.limits.maxBody.toNat_lt)) more

/-- A link whose script begins with a response that the limits leave room for reads the response. -/
theorem readResponse_heard (toHead : Bool) {x : Link Script} {after : Bytes} (hr : r.Writable)
    (hl : Holds x.slot.limits r) (htimely : x.IsTimely e) (hx : x.unread = r.head ++ after) :
    Link.Heard (x.slot.responseOf? toHead e (r.head ++ after)) (x.readResponse toHead) := by
  rw [← hx]
  refine (readResponse_heard_or_refused toHead htimely).resolve_right fun h => h.2 ?_
  intro head rest hs
  rw [hx, Response.split?_head hr after] at hs
  obtain ⟨rfl, -⟩ := Prod.mk.inj (Option.some.inj hs)
  exact headFits_head hr hl

end Responses

/-! ## Clients -/

section Clients

variable {σ : Type} [Transport σ] {c c' : Client σ} {r : Response}

/-- No interim response is received as the final one. -/
theorem not_informational_of_receiveFinal {n : Nat} (h : Client.receiveFinal n c = (.ok r, c')) :
    r.status.isInformational = false := by
  induction n generalizing c with
  | zero => exact absurd (congrArg Prod.fst h) (by simp [Client.receiveFinal])
  | succ n ih =>
    unfold Client.receiveFinal at h
    rcases hany : c.receiveAny with ⟨f | got, d⟩ <;> rw [hany] at h
    · exact absurd (congrArg Prod.fst h) (by simp)
    · simp only at h
      split at h
      · exact ih h
      next hfinal =>
        obtain ⟨he, -⟩ := Prod.mk.inj h
        obtain rfl := Except.ok.inj he
        exact Bool.eq_false_iff.2 hfinal

/-- A response that is no interim one is the one that the client receives. -/
theorem receiveResponse_of_read {body : Bytes}
    (hok : (c.link.readResponse (c.lastMethod == .head)).1 = .ok ())
    (hresponse : (c.link.readResponse (c.lastMethod == .head)).2.slot.response = r.received body)
    (hfinal : r.status.isInformational = false) :
    c.receiveResponse =
      (.ok (r.received body), { c with link := (c.link.readResponse (c.lastMethod == .head)).2 }) := by
  have hany : c.receiveAny =
      (.ok (r.received body), { c with link := (c.link.readResponse (c.lastMethod == .head)).2 }) := by
    unfold Client.receiveAny
    rcases hread : c.link.readResponse (c.lastMethod == .head) with ⟨f | _, y⟩ <;> rw [hread] at hok hresponse
    · exact absurd hok (by simp)
    · rw [← hresponse]
      rfl
  have hstatus : ¬ (r.received body).status.isInformational = true := by
    show ¬ r.status.isInformational = true
    rw [hfinal]
    exact Bool.false_ne_true
  unfold Client.receiveResponse Client.receiveFinal
  rw [hany]
  exact if_neg hstatus

end Clients

/-- What is sent of a response; `toHead` says that it answers a request for the head only. -/
def sentBytes (toHead : Bool) (r : Response) : Bytes := r.head ++ if toHead then [] else r.body

theorem isBodiless_iff {toHead : Bool} {s : Status} :
    Link.isBodiless toHead s = true ↔
      toHead = true ∨ s.isInformational = true ∨ s.code = 204 ∨ s.code = 304 := by
  simp [Link.isBodiless, or_assoc]

/-- The writer leaves out the body where the reader expects none, and the response is no interim one. -/
def EndsAlike (toHead : Bool) (r : Response) : Prop :=
  r.status.isInformational = false ∧
    (toHead = true ∨ r.body = [] ∨ r.status.code ≠ 204 ∧ r.status.code ≠ 304)

/-- A client receives one response with the status of `r` and this body, and leaves `more` unread. -/
def Client.Gets (c : Client Script) (r : Response) (body more : Bytes) : Prop :=
  ∃ got c', c.receiveResponse = (.ok got, c') ∧ got.status = r.status ∧ got.body = body ∧
    c'.link.unread = more

section Scripts

variable {c : Client Script} {r : Response} {more : Bytes}

/-- A client gets the response that its link reads, unless that is an interim one. -/
theorem gets_of_heard {body : Bytes}
    (h : Link.Heard (some (r.received body, more)) (c.link.readResponse (c.lastMethod == .head)))
    (hfinal : r.status.isInformational = false) : c.Gets r body more :=
  ⟨r.received body, _, receiveResponse_of_read h.1 h.2.1 hfinal, rfl, rfl, h.2.2⟩

/-- A client gets a response that was written, and leaves what follows it, if and only if the response ends alike for
both sides. -/
theorem gets_iff (hr : r.Writable) (hf : r.IsFramed) (hcount : r.fields.size ≤ Head.maxFields)
    (hl : Holds c.link.slot.limits r) (hsteady : c.link.IsSteady)
    (hu : c.link.unread = sentBytes (c.lastMethod == .head) r ++ more) :
    c.Gets r (if c.lastMethod == .head then [] else r.body) more ↔ EndsAlike (c.lastMethod == .head) r := by
  obtain ⟨e, htimely⟩ := hsteady.exists_isTimely
  have hx : c.link.unread = r.head ++ ((if c.lastMethod == .head then [] else r.body) ++ more) := by
    rw [hu, sentBytes, List.append_assoc]
  have hread := readResponse_heard (c.lastMethod == .head) hr hl htimely hx
  constructor
  · rintro ⟨got, c', hreceive, hstatus, hbody, -⟩
    have hfinal : r.status.isInformational = false := by
      rw [← hstatus]
      exact not_informational_of_receiveFinal hreceive
    refine ⟨hfinal, ?_⟩
    by_contra hnot
    rw [not_or, not_or] at hnot
    obtain ⟨hhead, hfull, hcode⟩ := hnot
    have hb : Link.isBodiless (c.lastMethod == .head) r.status = true := by
      rw [isBodiless_iff]
      omega
    -- a body was written that the client does not read
    rw [responseOf?_bodiless hr hcount hl hb] at hread
    have hears := receiveResponse_of_read hread.1 hread.2.1 hfinal
    obtain ⟨hgot, -⟩ := Prod.mk.inj (hreceive.symm.trans hears)
    obtain rfl := Except.ok.inj hgot
    rw [if_neg hhead] at hbody
    exact hfull hbody.symm
  · rintro ⟨hfinal, hends⟩
    rcases hb : Link.isBodiless (c.lastMethod == .head) r.status with _ | _
    · have hhead : ¬ (c.lastMethod == .head) = true := by
        intro hhead
        rw [isBodiless_iff.2 (Or.inl hhead)] at hb
        exact absurd hb (by simp)
      rw [if_neg hhead] at hread ⊢
      rw [responseOf?_framed hr hf hcount hl hb] at hread
      exact gets_of_heard hread hfinal
    · have hnone : (if c.lastMethod == .head then [] else r.body) = [] := by
        by_cases hhead : (c.lastMethod == .head) = true
        · exact if_pos hhead
        · rw [if_neg hhead]
          rcases hends with h | h | h
          · exact absurd h hhead
          · exact h
          · rcases isBodiless_iff.1 hb with h' | h' | h'
            · exact absurd h' hhead
            · exact absurd h' (by rw [hfinal]; exact Bool.false_ne_true)
            · omega
      rw [hnone, responseOf?_bodiless hr hcount hl hb] at hread
      rw [hnone]
      exact gets_of_heard hread hfinal

end Scripts

end Switchboard.Exchange
