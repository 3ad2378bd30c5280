import Switchboard.Proofs.Exchange.Segmentation
import Switchboard.Proofs.Exchange.Timely

/-!
What reading a response comes to, as a function of the whole stream and its end. `Slot.responseOf?` says what response
is at the front of a stream that is all there, and what is left of it; the end matters to a body that runs until the
other side closes. A link that is fed the stream bit by bit reads the same, or it refuses a head that does not fit the
bounds on what is buffered (`readResponse_reads_or_refuses`).
-/

namespace Switchboard.Exchange

open Http

/-! ## Responses in a whole stream -/

namespace Slot

/-- The slot without a response. -/
def unanswered (s : Slot) : Slot := { s with response := .cleared, decoder := s.decoder.reset }

/-- The head at the front of a stream, and what follows it. -/
def responseHeadOf? (s : Slot) (stream : Bytes) : Option (Response × Bytes) :=
  (Head.split? (Head.dropBlankLines stream)).bind fun p =>
    match s.unanswered.openResponse p.1 with
    | (.ok (), t) => some (t.response, p.2)
    | (.error _, _) => none

/-- The response with the chunked body at the front of a stream. -/
def chunkedOf? (s : Slot) (stream : Bytes) : Option (Response × Bytes) :=
  let p := s.decoder.start.decode stream
  if p.fault = none ∧ p.decoder.isFinished then
    some ((s.deliver .response p.data p.trailers).response, stream.drop p.consumed)
  else none

/-- The response with a body of so many bytes at the front of a stream. -/
def sizedOf? (s : Slot) (n : Nat) (stream : Bytes) : Option (Response × Bytes) :=
  if n ≤ s.limits.maxBody.toNat ∧ n ≤ stream.length then
    some ((s.deliver .response (stream.take n) []).response, stream.drop n)
  else none

/-- The response with a whole stream as its body, which must end with a close. -/
def untilClosedOf? (s : Slot) (e : StreamEnd) (stream : Bytes) : Option (Response × Bytes) :=
  if e = .closed ∧ stream.length ≤ s.limits.maxBody.toNat then
    some ((s.deliver .response stream []).response, [])
  else none

/-- The response with the body that its head announces, and what follows it. -/
def responseBodyOf? (s : Slot) (toHead : Bool) (e : StreamEnd) (stream : Bytes) : Option (Response × Bytes) :=
  if Link.isBodiless toHead s.response.status then some (s.response, stream)
  else if s.response.isChunked then s.chunkedOf? stream
  else
    match s.response.contentLength with
    | .error _ => none
    | .ok (some n) => s.sizedOf? n stream
    | .ok none => s.untilClosedOf? e stream

/-- The response at the front of a stream, and what follows it; `toHead` says that it answers a request for the head
only. -/
def responseOf? (s : Slot) (toHead : Bool) (e : StreamEnd) (stream : Bytes) : Option (Response × Bytes) :=
  (s.responseHeadOf? stream).bind fun p =>
    responseBodyOf? { s.unanswered with response := p.1 } toHead e p.2

end Slot

section Whole

variable {s : Slot} {toHead : Bool} {e : StreamEnd} {stream rest : Bytes} {r : Response}

/-- The slot with a response of which the first line and the fields are known. A reason that the table would give
anyway is not kept. -/
def Slot.withStatusLine (s : Slot) (l : StatusLine) (fields : Fields) : Slot :=
  { s with response :=
      { s.response with
        version := l.version
        status := l.status
        customReason := l.reason.filter (· != l.status.phrase)
        fields } }

/-- The head of a response is opened if its line and its fields are read. -/
theorem openResponse_eq_ok_iff {t : Slot} {head : Bytes} :
    s.openResponse head = (.ok (), t) ↔ ∃ line fields l,
      Head.parse head s.limits.maxHeader.toNat = .ok (line, fields) ∧ StatusLine.parse line = .ok l ∧
        t = s.withStatusLine l fields := by
  constructor
  · intro h
    unfold Slot.openResponse at h
    rcases hparse : Head.parse head s.limits.maxHeader.toNat with f | ⟨line, fields⟩ <;> rw [hparse] at h
    · exact absurd (congrArg Prod.fst h) (by simp)
    simp only at h
    rcases hline : StatusLine.parse line with f | l <;> rw [hline] at h
    · exact absurd (congrArg Prod.fst h) (by simp)
    obtain ⟨-, rfl⟩ := Prod.mk.inj h
    exact ⟨line, fields, l, rfl, hline, rfl⟩
  · rintro ⟨line, fields, l, hparse, hline, rfl⟩
    rw [Slot.openResponse, hparse]
    simp only [hline]
    rfl

theorem openResponse_congr {t : Slot} (h : s.SameLimits t) (head : Bytes) :
    (s.unanswered.openResponse head).1 = (t.unanswered.openResponse head).1 ∧
      (s.unanswered.openResponse head).2.response = (t.unanswered.openResponse head).2.response := by
  have hh : s.unanswered.limits.maxHeader = t.unanswered.limits.maxHeader := h.header
  have hr : s.unanswered.response = t.unanswered.response := rfl
  simp only [Slot.openResponse, hh, hr]
  repeat' split
  all_goals exact ⟨rfl, rfl⟩

theorem responseHeadOf?_congr {t : Slot} (h : s.SameLimits t) (stream : Bytes) :
    s.responseHeadOf? stream = t.responseHeadOf? stream := by
  rw [Slot.responseHeadOf?, Slot.responseHeadOf?]
  refine congrArg _ (funext fun p => ?_)
  have hopen := openResponse_congr h p.1
  rcases hs : s.unanswered.openResponse p.1 with ⟨f | u, s'⟩ <;>
    rcases ht : t.unanswered.openResponse p.1 with ⟨g | v, t'⟩ <;> rw [hs, ht] at hopen
  · exact absurd hopen.1 (by simp)
  · exact absurd hopen.1 (by simp)
  · exact congrArg (fun r => some (r, p.2)) hopen.2

/-- What the whole stream holds depends on the limits only. -/
theorem responseOf?_congr {t : Slot} (h : s.SameLimits t) (toHead : Bool) (e : StreamEnd) (stream : Bytes) :
    s.responseOf? toHead e stream = t.responseOf? toHead e stream := by
  rw [Slot.responseOf?, Slot.responseOf?, responseHeadOf?_congr h]
  refine congrArg _ (funext fun p => ?_)
  have hmax : s.unanswered.limits.maxBody = t.unanswered.limits.maxBody := h.body
  have hdecoder : s.unanswered.decoder = t.unanswered.decoder := h.decoder
  simp only [Slot.responseBodyOf?, Slot.chunkedOf?, Slot.sizedOf?, Slot.untilClosedOf?, Slot.deliver, hmax, hdecoder]

theorem suffix_of_responseBodyOf? (h : s.responseBodyOf? toHead e stream = some (r, rest)) : rest <:+ stream := by
  simp only [Slot.responseBodyOf?, Slot.chunkedOf?, Slot.sizedOf?, Slot.untilClosedOf?] at h
  repeat' split at h
  all_goals first
    | obtain ⟨-, rfl⟩ := Prod.mk.inj (Option.some.inj h)
      first | exact List.suffix_refl _ | exact List.drop_suffix _ _ | exact List.nil_suffix
    | exact absurd h (by simp)

/-- The head of a stream is read if it is found at the front and opened. -/
theorem responseHeadOf?_eq_some_iff :
    s.responseHeadOf? stream = some (r, rest) ↔ ∃ head t,
      Head.split? (Head.dropBlankLines stream) = some (head, rest) ∧
      s.unanswered.openResponse head = (.ok (), t) ∧ t.response = r := by
  unfold Slot.responseHeadOf?
  constructor
  · intro h
    obtain ⟨⟨head, after⟩, hsplit, h⟩ := Option.bind_eq_some_iff.1 h
    simp only at h
    rcases ho : s.unanswered.openResponse head with ⟨f | _, t⟩ <;> rw [ho] at h
    · exact absurd h (by simp)
    obtain ⟨rfl, rfl⟩ := Prod.mk.inj (Option.some.inj h)
    exact ⟨head, t, hsplit, ho, rfl⟩
  · rintro ⟨head, t, hsplit, ho, rfl⟩
    rw [hsplit, Option.bind_some]
    simp only [ho]

/-- A head that has been read is read with more bytes after it. -/
theorem responseHeadOf?_append (h : s.responseHeadOf? stream = some (r, rest)) (more : Bytes) :
    s.responseHeadOf? (stream ++ more) = some (r, rest ++ more) := by
  obtain ⟨head, t, hs, ho, hr⟩ := responseHeadOf?_eq_some_iff.1 h
  exact responseHeadOf?_eq_some_iff.2 ⟨head, t, split?_dropBlankLines_append hs more, ho, hr⟩

/-- What a reading leaves of a stream is an end of it. -/
theorem suffix_of_responseOf? (h : s.responseOf? toHead e stream = some (r, rest)) : rest <:+ stream := by
  obtain ⟨⟨r', after⟩, hh, hb⟩ := Option.bind_eq_some_iff.1 h
  obtain ⟨head, t, hs, -, -⟩ := responseHeadOf?_eq_some_iff.1 hh
  have hafter : after <:+ Head.dropBlankLines stream := ⟨head, (Head.split?_eq_some hs).symm⟩
  exact (suffix_of_responseBodyOf? hb).trans (hafter.trans (dropBlankLines_suffix stream))

end Whole

/-! ## Bodies -/

/-- Reads the body that the head of the response announces. -/
def Link.readResponseBody {σ : Type} [Transport σ] (toHead : Bool) (x : Link σ) : Except Fault Unit × Link σ :=
  if Link.isBodiless toHead x.slot.response.status then (.ok (), x)
  else if x.slot.response.isChunked then x.readChunked .response
  else
    match x.slot.response.contentLength with
    | .error f => (.error f, x)
    | .ok (some n) => x.readSized n .response
    | .ok none => x.readUntilClosed

section Bodies

variable {σ : Type} [Transport σ] {E : Fault → Prop} {P : Session σ → Bytes → Prop} {Over : Session σ → Prop}
  {x : Link σ} {stream : Bytes} {toHead : Bool} {e : StreamEnd}

/-- An outcome is that of a reading of the whole stream. -/
def Hears (P : Session σ → Bytes → Prop) (Over : Session σ → Prop) :
    Option (Response × Bytes) → Except Fault Unit × Link σ → Prop
  | some (r, rest), out =>
    out.1 = .ok () ∧ out.2.slot.response = r ∧
      ∃ stream, Remains P Over out.2.session stream ∧ out.2.slot.buffer ++ stream = rest
  | none, out => ∃ f, out.1 = .error f

theorem readChunked_hears (hF : FeedsUntil E P Over) (hP : P x.session stream) :
    Hears P Over (x.slot.chunkedOf? (x.slot.buffer ++ stream)) (x.readChunked .response) := by
  let s : Slot := { x.slot with decoder := x.slot.decoder.start }
  obtain ⟨r, t, session, rest, hpump, hleft, hr⟩ :=
    pump_chunkTest_until (x := ⟨s, x.session⟩) hF .response rfl hP
  have hpump : x.readChunked .response = (r, ⟨t, session⟩) := hpump
  rw [Slot.chunkedOf?, hpump]
  cases r with
  | ok _ =>
    obtain ⟨hf, hfin, ht, hrest⟩ := hr
    rw [if_pos ⟨hf, hfin⟩]
    refine ⟨rfl, ?_, rest, hleft.remains, hrest⟩
    rw [ht]
    rfl
  | error f =>
    rw [if_neg hr]
    exact ⟨f, rfl⟩

theorem readSized_hears (hF : FeedsUntil E P Over) (n : Nat) (hP : P x.session stream) :
    Hears P Over (x.slot.sizedOf? n (x.slot.buffer ++ stream)) (x.readSized n .response) := by
  obtain ⟨r, t, session, rest, hread, hleft, hr⟩ := readSized_until hF n .response hP
  rw [Slot.sizedOf?, hread]
  cases r with
  | ok _ =>
    obtain ⟨hfits, ht, hrest⟩ := hr
    rw [if_pos hfits]
    refine ⟨rfl, ?_, rest, hleft.remains, hrest⟩
    rw [ht]
  | error f =>
    rw [if_neg hr]
    exact ⟨f, rfl⟩

/-- What reading until the stream ends comes to: a fault that says whether the body was too large. -/
def DrainRead (e : StreamEnd) (s : Slot) (full : Bytes) (r : Except Fault Unit) (t : Slot) (rest : Bytes) : Prop :=
  (full.length ≤ s.limits.maxBody.toNat ∧ r = .error e.fault ∧ t = { s with buffer := full } ∧ rest = []) ∨
    s.limits.maxBody.toNat < full.length ∧ r = .error (.bodyTooLarge s.limits.maxBody.toNat)

theorem pump_untilClosedTest (hF : FeedsUntil (· = e.fault) P Over) (hP : P x.session stream) :
    ∃ r slot session rest, x.pump untilClosedTest = (r, ⟨slot, session⟩) ∧
      Left (· = e.fault) P Over r session rest ∧ DrainRead e x.slot (x.slot.buffer ++ stream) r slot rest := by
  refine Link.pump_until hF
    (fun t stream' => t = { x.slot with buffer := t.buffer } ∧ t.buffer ++ stream' = x.slot.buffer ++ stream)
    _ ?_ ?_ ?_ ?_ hP ⟨rfl, rfl⟩
  · rintro t t' stream' a - h
    simp only [untilClosedTest] at h
    split at h <;> exact absurd h (by simp)
  · rintro t t' stream' f ⟨ht, hb⟩ h
    simp only [untilClosedTest] at h
    split at h
    · next hlong =>
      obtain ⟨rfl, -⟩ := Verdict.failed.inj h
      rw [ht] at hlong ⊢
      refine Or.inr ⟨?_, rfl⟩
      rw [← hb, List.length_append]
      exact Nat.lt_of_lt_of_le hlong (Nat.le_add_right _ _)
    · exact absurd h (by simp)
  · rintro t t' piece rest ⟨ht, hb⟩ h
    simp only [untilClosedTest] at h
    split at h
    · exact absurd h (by simp)
    · obtain rfl := Verdict.more.inj h
      refine ⟨?_, ?_⟩
      · rw [ht]
        rfl
      · rw [← hb, Slot.addPending, List.append_assoc]
  · rintro t t' f ⟨ht, hb⟩ h rfl
    simp only [untilClosedTest] at h
    split at h
    · exact absurd h (by simp)
    · next hshort =>
      obtain rfl := Verdict.more.inj h
      rw [List.append_nil] at hb
      rw [← hb]
      refine Or.inl ⟨?_, rfl, ht, rfl⟩
      rw [ht] at hshort
      exact Nat.le_of_not_lt hshort

theorem readUntilClosed_hears (hF : FeedsUntil (· = e.fault) P Over) (hP : P x.session stream) :
    Hears P Over (x.slot.untilClosedOf? e (x.slot.buffer ++ stream)) x.readUntilClosed := by
  obtain ⟨r, t, session, rest, hpump, hleft, ⟨hle, rfl, rfl, rfl⟩ | ⟨hlong, rfl⟩⟩ := pump_untilClosedTest hF hP
  · rw [Link.readUntilClosed, hpump, Slot.untilClosedOf?]
    cases e with
    | closed =>
      rw [if_pos ⟨rfl, hle⟩]
      exact ⟨rfl, rfl, [], hleft.remains, rfl⟩
    | silent =>
      rw [if_neg (by simp)]
      exact ⟨_, rfl⟩
    | broken detail =>
      rw [if_neg (by simp)]
      exact ⟨_, rfl⟩
  · rw [Link.readUntilClosed, hpump, Slot.untilClosedOf?, if_neg fun h => Nat.not_le_of_gt hlong h.2]
    exact ⟨_, rfl⟩

/-- Reading a body from a feed is reading it from the whole stream. -/
theorem readResponseBody_hears (hF : FeedsUntil (· = e.fault) P Over) (hP : P x.session stream) :
    Hears P Over (x.slot.responseBodyOf? toHead e (x.slot.buffer ++ stream)) (x.readResponseBody toHead) := by
  rw [Slot.responseBodyOf?, Link.readResponseBody]
  by_cases hb : Link.isBodiless toHead x.slot.response.status = true
  · rw [if_pos hb, if_pos hb]
    exact ⟨rfl, rfl, stream, Or.inl hP, rfl⟩
  rw [if_neg hb, if_neg hb]
  by_cases hc : x.slot.response.isChunked = true
  · rw [if_pos hc, if_pos hc]
    exact readChunked_hears hF hP
  rw [if_neg hc, if_neg hc]
  rcases x.slot.response.contentLength with f | _ | n
  · exact ⟨f, rfl⟩
  · exact readUntilClosed_hears hF hP
  · exact readSized_hears hF n hP

end Bodies

/-! ## Responses -/

section Responses

variable {σ : Type} [Transport σ] {E : Fault → Prop} {P : Session σ → Bytes → Prop} {Over : Session σ → Prop}
  {x : Link σ} {stream full : Bytes} {toHead : Bool} {e : StreamEnd}

/-- Opening a response changes the response only. -/
theorem openResponse_slot (s : Slot) (head : Bytes) :
    (s.openResponse head).2 = { s with response := (s.openResponse head).2.response } := by
  simp only [Slot.openResponse]
  repeat' split
  all_goals rfl

/-- Opening a response does not look at the buffer. -/
theorem openResponse_buffer (s : Slot) (head b : Bytes) :
    Slot.openResponse { s with buffer := b } head =
      ((s.openResponse head).1, { (s.openResponse head).2 with buffer := b }) := by
  simp only [Slot.openResponse]
  repeat' split
  all_goals rfl

/-- Reading a response is finding its head, opening the response, and reading the body if there is one. -/
theorem readResponse_eq (toHead : Bool) (x : Link σ) :
    x.readResponse toHead = match (x.mapSlot Slot.unanswered).pump (headTest .response) with
      | (.error f, x) => (.error f, x)
      | (.ok head, x) =>
        match x.slot.openResponse head with
        | (.error f, slot) => (.error f, { x with slot })
        | (.ok (), slot) => Link.readResponseBody toHead { x with slot } := rfl

/-- A head that has been found is opened, and the body is read from where it has ended. -/
theorem readResponse_of_found (toHead : Bool) {head rest : Bytes} {t : Slot} {session : Session σ}
    (hpump : (x.mapSlot Slot.unanswered).pump (headTest .response) = (.ok head, ⟨t, session⟩))
    (hread : HeadRead .response x.slot.unanswered (Head.dropBlankLines full) (.ok head) t rest) :
    match x.slot.responseHeadOf? full with
    | some (r, after) => ∃ buffer, buffer ++ rest = after ∧
        x.readResponse toHead =
          Link.readResponseBody toHead ⟨{ x.slot.unanswered with response := r, buffer }, session⟩
    | none => ∃ f, (x.readResponse toHead).1 = .error f := by
  obtain ⟨ht, hs⟩ := hread
  have hopen := openResponse_buffer x.slot.unanswered head t.buffer
  rw [← ht] at hopen
  have hslot := openResponse_slot x.slot.unanswered head
  rw [readResponse_eq, hpump, Slot.responseHeadOf?, hs]
  simp only [hopen, Option.bind_some]
  rcases ho : x.slot.unanswered.openResponse head with ⟨f | _, t'⟩
  · exact ⟨f, rfl⟩
  · rw [ho] at hslot
    obtain ⟨r, rfl⟩ : ∃ r, t' = { x.slot.unanswered with response := r } := ⟨_, hslot⟩
    exact ⟨t.buffer, rfl, rfl⟩

/-- A head that has been found in a feed is followed by what the whole stream holds. -/
theorem readResponse_hears (toHead : Bool) {head rest : Bytes} {t : Slot} {session : Session σ}
    (hF : FeedsUntil (· = e.fault) P Over)
    (hpump : (x.mapSlot Slot.unanswered).pump (headTest .response) = (.ok head, ⟨t, session⟩))
    (hread : HeadRead .response x.slot.unanswered (Head.dropBlankLines full) (.ok head) t rest)
    (hP : P session rest) :
    Hears P Over (x.slot.responseOf? toHead e full) (x.readResponse toHead) := by
  have hfound := readResponse_of_found toHead hpump hread
  rw [Slot.responseOf?]
  rcases hhead : x.slot.responseHeadOf? full with _ | ⟨r, after⟩ <;> rw [hhead] at hfound
  · exact hfound
  · obtain ⟨buffer, rfl, hresponse⟩ := hfound
    rw [hresponse]
    exact readResponseBody_hears hF (x := ⟨{ x.slot.unanswered with response := r, buffer }, session⟩) hP

/-- Reading a response from a feed is reading it from the whole stream, or a head that does not fit is refused. -/
theorem readResponse_reads_or_refuses (toHead : Bool) (hF : FeedsUntil (· = e.fault) P Over) (hP : P x.session stream) :
    Hears P Over (x.slot.responseOf? toHead e (x.slot.buffer ++ stream)) (x.readResponse toHead) ∨
      (∃ f, (x.readResponse toHead).1 = .error f) ∧
        ∃ head after, Head.split? (Head.dropBlankLines (x.slot.buffer ++ stream)) = some (head, after) ∧
          ¬ HeadFits .response x.slot.limits head := by
  obtain ⟨r, t, session, rest, hpump, hleft, hread⟩ :=
    pump_headTest_until (x := x.mapSlot Slot.unanswered) .response hF hP
  have hread : HeadRead .response x.slot.unanswered (Head.dropBlankLines (x.slot.buffer ++ stream)) r t rest := hread
  cases r with
  | ok head => exact Or.inl (readResponse_hears toHead hF hpump hread hleft.of_ok)
  | error f =>
    have hfail : ∃ f, (x.readResponse toHead).1 = .error f := ⟨f, by rw [readResponse_eq, hpump]⟩
    rcases hs : Head.split? (Head.dropBlankLines (x.slot.buffer ++ stream)) with _ | ⟨head, after⟩
    · refine Or.inl ?_
      rw [Slot.responseOf?, Slot.responseHeadOf?, hs]
      exact hfail
    · exact Or.inr ⟨hfail, head, after, rfl, hread head after hs⟩

end Responses

/-! ## Scripts -/

/-- The script of a link brings its bytes in time, and after them this end. -/
def Link.IsTimely (x : Link Script) (e : StreamEnd) : Prop :=
  Script.Arrives x.session.timeout x.session.transport.ending 0 x.session.transport.deliveries
    (Script.dataOf x.session.transport.deliveries) e

theorem Link.IsSteady.exists_isTimely {x : Link Script} (h : x.IsSteady) : ∃ e, x.IsTimely e :=
  Script.exists_arrives_of_steady _ h

/-- A link has read the response of the whole stream and left what follows it. -/
def Link.Heard : Option (Response × Bytes) → Except Fault Unit × Link Script → Prop
  | some (r, rest), out => out.1 = .ok () ∧ out.2.slot.response = r ∧ out.2.unread = rest
  | none, out => ∃ f, out.1 = .error f

section Scripts

variable {x : Link Script} {e : StreamEnd}

/-- A link has succeeded exactly when the stream holds a response. -/
theorem Link.Heard.ok_iff {res : Option (Response × Bytes)} {out : Except Fault Unit × Link Script}
    (h : Link.Heard res out) : out.1 = .ok () ↔ res.isSome = true := by
  rcases res with _ | ⟨r, rest⟩
  · obtain ⟨f, hf⟩ := h
    rw [hf]
    simp
  · rw [h.1]
    simp

theorem Link.Heard.of_ok {res : Option (Response × Bytes)} {out : Except Fault Unit × Link Script}
    (h : Link.Heard res out) (hok : out.1 = .ok ()) :
    ∃ r rest, res = some (r, rest) ∧ out.2.slot.response = r ∧ out.2.unread = rest := by
  obtain ⟨⟨r, rest⟩, rfl⟩ := Option.isSome_iff_exists.1 (h.ok_iff.1 hok)
  exact ⟨r, rest, rfl, h.2.1, h.2.2⟩

theorem heard_of_hears {base : Session Script} {res : Option (Response × Bytes)}
    {out : Except Fault Unit × Link Script} (h : Hears (Script.BringsUntil base e) Script.IsUsedUp res out) :
    Link.Heard res out := by
  rcases res with _ | ⟨r, rest⟩
  · exact h
  · obtain ⟨hok, hr, stream, hremains, hrest⟩ := h
    refine ⟨hok, hr, ?_⟩
    rw [Link.unread, Script.dataOf_of_remains hremains]
    exact hrest

/-- The head in the bytes that are unread fits, if there is one. -/
def Link.HeadInBounds (x : Link Script) : Prop :=
  ∀ head after, Head.split? (Head.dropBlankLines x.unread) = some (head, after) →
    HeadFits .response x.slot.limits head

/-- A link with a timely script reads the response of the bytes that are unread, or it refuses a head that does not
fit. -/
theorem readResponse_heard_or_refused (toHead : Bool) (h : x.IsTimely e) :
    Link.Heard (x.slot.responseOf? toHead e x.unread) (x.readResponse toHead) ∨
      (∃ f, (x.readResponse toHead).1 = .error f) ∧ ¬ x.HeadInBounds := by
  rcases readResponse_reads_or_refuses toHead (Script.feeds_arriving x.session e) ⟨_, rfl, h⟩ with
    hears | ⟨hfail, head, after, hs, hfits⟩
  · exact Or.inl (heard_of_hears hears)
  · exact Or.inr ⟨hfail, fun hin => hfits (hin head after hs)⟩

end Scripts

end Switchboard.Exchange
