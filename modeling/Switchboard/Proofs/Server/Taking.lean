import Switchboard.Proofs.Exchange.Tape
import Switchboard.Proofs.Http.Fields
import Switchboard.Proofs.Server.Pipelining

/-!
What reading in a cycle comes to, over any transport. It writes nothing but a go-ahead, which is for a client that asked
for one and announced a body, and of what it receives it takes the request at the front, with the whole body
(`intake_takes`). That a body is whole is said by what its head announces (`HasBody`), apart from the loop that
reads it.
-/

namespace Switchboard.Server

open Http
open Exchange
open Readiness (Mask)

variable {σ : Type}

/-! ## What is read -/

/-- A stream begins with a request that is there as a whole: the head reads `head`, the request with the body that
the head announces is `r`, and `rest` comes after it. -/
def Complete (s : Slot) (stream : Bytes) (head r : Request) (rest : Bytes) : Prop :=
  ∃ after, s.headOf? stream = some (head, after) ∧
    Slot.bodyOf? { s with request := head } after = some (r, rest)

/-- The body that a head announces is in the request: as many bytes as the length says, or all that the decoder
gives for a chunked body that has ended. -/
def HasBody (s : Slot) (head r : Request) (after : Bytes) : Prop :=
  (head.isChunked = true → (s.decoder.start.decode after).fault = none ∧
    (s.decoder.start.decode after).decoder.isFinished = true ∧
    r.body = (s.decoder.start.decode after).data) ∧
  (head.isChunked = false →
    head.contentLength = .ok none ∧ r.body = [] ∨
    ∃ n, head.contentLength = .ok (some n) ∧ r.body = after.take n ∧ r.body.length = n)

section Requests

variable {s t : Slot} {stream after rest : Bytes} {head r : Request}

/-- What opening a request leaves: no body yet, the wish for a go-ahead as the fields have it, and a length that can
be read unless the body is chunked. -/
theorem opened_request {s t : Slot} {head : Bytes} (h : s.openRequest head = (.ok (), t)) :
    t.request.body = s.request.body ∧
      t.request.expectContinue = t.request.fields.hasToken "Expect" "100-continue" ∧
      (t.request.isChunked = false → ∃ n, t.request.contentLength = .ok n) := by
  obtain ⟨line, fields, r, -, -, -, hlength, rfl⟩ := openRequest_eq_ok_iff.1 h
  exact ⟨rfl, rfl, fun hc => hlength.resolve_left (Bool.eq_false_iff.1 hc)⟩

/-- What a head that was read tells. -/
theorem headOf?_tells (h : s.headOf? stream = some (head, after)) :
    head.body = [] ∧ head.expectContinue = head.fields.hasToken "Expect" "100-continue" ∧
      (head.isChunked = false → ∃ n, head.contentLength = .ok n) := by
  obtain ⟨bytes, t, -, ho, rfl⟩ := headOf?_eq_some_iff.1 h
  exact opened_request ho

/-- A head that announces no body is a whole request. -/
theorem bodyOf?_of_no_body (hn : ∃ n, head.contentLength = .ok n)
    (he : head.expectsBody = false) :
    Slot.bodyOf? { s with request := head } after = some (head, after) := by
  obtain ⟨n, hn⟩ := hn
  rw [Request.expectsBody, Bool.or_eq_false_iff, hn] at he
  obtain ⟨hc, hzero⟩ := he
  have hc : ({ s with request := head } : Slot).request.isChunked = false := hc
  have hn : ({ s with request := head } : Slot).request.contentLength = .ok n := hn
  unfold Slot.bodyOf?
  rw [hc, if_neg Bool.false_ne_true, hn]
  rcases n with _ | n
  · rfl
  · obtain rfl : n = 0 := by simpa using hzero
    simp only
    rw [if_pos ⟨Nat.zero_le _, Nat.zero_le _⟩]
    show some ({ head with
      body := head.body ++ after.take 0, fields := ⟨head.fields.toList ++ []⟩ }, after.drop 0) = _
    rw [List.take_zero, List.append_nil, List.append_nil]
    rfl

theorem Complete.hasBody (h : Complete s stream head r rest) :
    ∃ after, s.headOf? stream = some (head, after) ∧ HasBody s head r after := by
  obtain ⟨after, hhead, hbody⟩ := h
  obtain ⟨hempty, -, -⟩ := headOf?_tells hhead
  refine ⟨after, hhead, fun hc => ?_, fun hc => ?_⟩
  · have hc' : ({ s with request := head } : Slot).request.isChunked = true := hc
    unfold Slot.bodyOf? at hbody
    rw [if_pos hc'] at hbody
    simp only at hbody
    split at hbody
    next hfin =>
      obtain ⟨rfl, -⟩ := Prod.mk.inj (Option.some.inj hbody)
      refine ⟨hfin.1, hfin.2, ?_⟩
      show head.body ++ _ = _
      rw [hempty]
      rfl
    · exact absurd hbody (by simp)
  · have hc' : ({ s with request := head } : Slot).request.isChunked = false := hc
    unfold Slot.bodyOf? at hbody
    rw [hc', if_neg Bool.false_ne_true] at hbody
    rcases hn : head.contentLength with f | _ | n
    · have hn' : ({ s with request := head } : Slot).request.contentLength = .error f := hn
      rw [hn'] at hbody
      exact absurd hbody (by simp)
    · have hn' : ({ s with request := head } : Slot).request.contentLength = .ok none := hn
      rw [hn'] at hbody
      obtain ⟨rfl, -⟩ := Prod.mk.inj (Option.some.inj hbody)
      exact Or.inl ⟨rfl, hempty⟩
    · have hn' : ({ s with request := head } : Slot).request.contentLength = .ok (some n) := hn
      rw [hn'] at hbody
      simp only at hbody
      split at hbody
      next hle =>
        obtain ⟨rfl, -⟩ := Prod.mk.inj (Option.some.inj hbody)
        have hbytes : head.body ++ after.take n = after.take n := by
          rw [hempty]
          rfl
        refine Or.inr ⟨n, rfl, hbytes, ?_⟩
        show (head.body ++ after.take n).length = n
        rw [hbytes, List.length_take, Nat.min_eq_left hle.2]
      · exact absurd hbody (by simp)

end Requests

section Taking

variable [Transport σ] {x : Link (Recorded (Taped σ))}

/-- The go-ahead that a client gets that waits for one: its head was read from the stream, asks for a go-ahead, and
announces a body. -/
def IsGoAhead (s : Slot) (stream goAhead : Bytes) : Prop :=
  ∃ head after, s.headOf? stream = some (head, after) ∧
    head.fields.hasToken "Expect" "100-continue" = true ∧ head.expectsBody = true ∧
    goAhead = (Response.interim head.version).head

theorem IsGoAhead.append {s : Slot} {stream goAhead : Bytes} (h : IsGoAhead s stream goAhead)
    (more : Bytes) : IsGoAhead s (stream ++ more) goAhead := by
  obtain ⟨head, after, hhead, hexpect, hbody, hgo⟩ := h
  exact ⟨head, after ++ more, headOf?_append hhead more, hexpect, hbody, hgo⟩

/-- What reading in a cycle leaves: of all that is written, a first part of the go-ahead, and all of it before the
body is read; and if all could be read, the request at the front of what was received. -/
structure Taken (s : Slot) (t : Recorded (Taped σ)) (out : Intake × Link (Recorded (Taped σ)))
    (got goAhead sent : Bytes) : Prop where
  passed : Passed t out.2.session.transport got sent
  part : sent <+: goAhead
  asked : goAhead = [] ∨ IsGoAhead s (s.buffer ++ got) goAhead
  whole : out.1 ≠ .mute → sent = goAhead
  read : ∀ keepAlive, out.1 = .read keepAlive → sent = goAhead ∧ ∃ head r rest d,
    Complete s (s.buffer ++ got) head r rest ∧ keepAlive = keeps head r ∧
    out.2.slot = { s with request := r, buffer := rest, decoder := d }

omit [Transport σ] in
/-- Nothing was read, and nothing written. -/
theorem Taken.idle {s : Slot} {t : Recorded (Taped σ)} {x : Link (Recorded (Taped σ))}
    (h : Passed t x.session.transport [] []) : Taken s t (.idle, x) [] [] [] :=
  ⟨h, List.prefix_rfl, Or.inl rfl, fun _ => rfl, fun _ hk => absurd hk (by simp)⟩

omit [Transport σ] in
/-- Reading failed before the go-ahead, or without one. -/
theorem Taken.failed_early {s : Slot} {t : Recorded (Taped σ)} {x : Link (Recorded (Taped σ))} {f : Fault}
    {got : Bytes} (h : Passed t x.session.transport got []) : Taken s t (.failed f, x) got [] [] :=
  ⟨h, List.prefix_rfl, Or.inl rfl, fun _ => rfl, fun _ hk => absurd hk (by simp)⟩

/-- A client that waits is told to go ahead, and its body is read. -/
theorem takeBody_takes {s : Slot} {y : Link (Recorded (Taped σ))} {t : Recorded (Taped σ)} {got after : Bytes}
    {head : Request} {keepAlive : Bool} (hpassed : Passed t y.session.transport got [])
    (hhead : s.headOf? (s.buffer ++ got) = some (head, after)) (hwaits : waits head = true)
    (hy : y.slot = { s.cleared with request := head, buffer := after }) (hk : keepAlive = head.keepAlive) :
    ∃ got goAhead sent, Taken s t (takeBody keepAlive y) got goAhead sent := by
  have hexpect : head.fields.hasToken "Expect" "100-continue" = true := by
    rw [← (headOf?_tells hhead).2.1]
    exact (Bool.and_eq_true_iff.1 hwaits).1
  have hgo : IsGoAhead s (s.buffer ++ got) (Response.interim head.version).head :=
    ⟨head, after, hhead, hexpect, (Bool.and_eq_true_iff.1 hwaits).2, rfl⟩
  have hcontinue : y.sendContinue = y.send (Response.interim head.version).head := by
    unfold Link.sendContinue
    rw [hy]
  obtain ⟨hslot, sent, hsent, hpart, hall⟩ := y.send_taped (Response.interim head.version).head
  unfold takeBody
  rw [hcontinue]
  rcases hs : y.send (Response.interim head.version).head with ⟨f | _, z⟩ <;> rw [hs] at hslot hsent hall
  · have hboth := hpassed.trans hsent
    rw [List.append_nil, List.nil_append] at hboth
    exact ⟨got, _, sent, hboth, hpart, Or.inr hgo, fun hmute => absurd rfl hmute,
      fun _ hk => absurd hk (by simp)⟩
  · obtain rfl := hall rfl
    have hz : z.slot = { s.cleared with request := head, buffer := after } := hslot.trans hy
    obtain ⟨got', hread, htook⟩ := z.readBody_taped
    have hboth := (hpassed.trans hsent).trans hread
    rw [List.append_nil, List.nil_append, List.append_nil] at hboth
    have hgo' := hgo.append got'
    rw [List.append_assoc] at hgo'
    simp only
    rcases hb : z.readBody with ⟨f | _, v⟩ <;> rw [hb] at hboth htook
    · exact ⟨got ++ got', _, _, hboth, hpart, Or.inr hgo', fun _ => rfl, fun _ hk => absurd hk (by simp)⟩
    · obtain ⟨hbody, hv⟩ := htook rfl
      have hhead' := headOf?_append hhead got'
      rw [List.append_assoc] at hhead'
      have hbody' : Slot.bodyOf? { s with request := head } (after ++ got') =
          some (v.slot.request, v.slot.buffer) := by
        rw [← hbody, hz]
        exact bodyOf?_congr rfl rfl rfl _
      refine ⟨got ++ got', _, _, hboth, hpart, Or.inr hgo', fun _ => rfl, fun k hk' => ?_⟩
      obtain rfl := Intake.read.inj hk'
      refine ⟨rfl, head, v.slot.request, v.slot.buffer, v.slot.decoder, ⟨after ++ got', hhead', hbody'⟩, ?_, ?_⟩
      · rw [keeps, if_pos hwaits]
        exact hk
      · rw [hz] at hv
        exact hv

/-- Reading takes the request off what is received, and writes the go-ahead only. -/
theorem takeIn_takes (x : Link (Recorded (Taped σ))) :
    ∃ got goAhead sent, Taken x.slot x.session.transport (takeIn x).2 got goAhead sent := by
  obtain ⟨got, hpassed, hopened, -⟩ := x.readRequest_taped
  unfold takeIn
  rcases hr : x.readRequest with ⟨f | _, y⟩ <;> rw [hr] at hpassed hopened
  · exact ⟨got, [], [], .failed_early hpassed⟩
  obtain ⟨head, after, hhead, hwaiting, hwhole⟩ := hopened rfl
  obtain ⟨-, -, hlength⟩ := headOf?_tells hhead
  simp only
  by_cases hexpect : head.expectContinue = true
  · have hy : y.slot = { x.slot.cleared with request := head, buffer := after } := hwaiting hexpect
    have hrequest : y.slot.request = head := by rw [hy]
    by_cases hwaits : waits head = true
    · have hif : (y.slot.wantsContinue && y.slot.request.expectsBody) = true := by
        rw [Slot.wantsContinue, hrequest]
        exact hwaits
      have hk : y.slot.request.keepAlive = head.keepAlive := by rw [hrequest]
      rw [if_pos hif]
      exact takeBody_takes hpassed hhead hwaits hy hk
    · have hif : ¬ (y.slot.wantsContinue && y.slot.request.expectsBody) = true := by
        rw [Slot.wantsContinue, hrequest]
        exact hwaits
      have hnone := expectsBody_of_not_waits hexpect hwaits
      have hchunked : head.isChunked = false := (Bool.or_eq_false_iff.1 hnone).1
      rw [if_neg hif]
      refine ⟨got, [], [], hpassed, List.prefix_rfl, Or.inl rfl, fun _ => rfl, fun k hk => ?_⟩
      obtain rfl := Intake.read.inj hk
      refine ⟨rfl, head, head, after, x.slot.decoder.reset,
        ⟨after, hhead, bodyOf?_of_no_body (hlength hchunked) hnone⟩, ?_, hy⟩
      rw [keeps, if_neg hwaits, hrequest]
  · have hexpect : head.expectContinue = false := by simpa using hexpect
    obtain ⟨hbody, hslot⟩ := hwhole hexpect
    have hbody' : Slot.bodyOf? { x.slot with request := head } after =
        some (y.slot.request, y.slot.buffer) := by
      rw [← hbody]
      exact bodyOf?_congr rfl rfl rfl _
    have hsame : y.slot.request.expectContinue = false :=
      (expectContinue_of_bodyOf? hbody').trans hexpect
    have hwaits : ¬ waits head = true := not_waits (by rw [hexpect]; exact Bool.false_ne_true)
    have hif : ¬ (y.slot.wantsContinue && y.slot.request.expectsBody) = true := by
      rw [Slot.wantsContinue, hsame]
      exact Bool.false_ne_true
    rw [if_neg hif]
    refine ⟨got, [], [], hpassed, List.prefix_rfl, Or.inl rfl, fun _ => rfl, fun k hk => ?_⟩
    obtain rfl := Intake.read.inj hk
    refine ⟨rfl, head, y.slot.request, y.slot.buffer, y.slot.decoder, ⟨after, hhead, hbody'⟩, ?_, hslot⟩
    rw [keeps, if_neg hwaits]

/-- A cycle takes the request off what it receives, and writes the go-ahead only before it settles. -/
theorem intake_takes (w : Worker) (slot : Slot) (conn : Connection (Recorded (Taped σ))) (mask : Mask) :
    ∃ got goAhead sent, Taken (w.opening slot conn).slot conn.transport (w.intake slot conn mask)
      got goAhead sent := by
  unfold Worker.intake Worker.reading
  simp only
  split
  · exact ⟨[], [], [], .idle (.refl _)⟩
  split
  · have hurgent := (w.opening slot conn).session.urgent_session_taped Worker.urgentAttempts
    rcases hu : (w.opening slot conn).session.urgent Worker.urgentAttempts with ⟨f | _ | b, session⟩ <;>
      rw [hu] at hurgent
    · exact ⟨[], [], [], .idle hurgent⟩
    · exact ⟨[], [], [], .idle hurgent⟩
    · obtain ⟨got, goAhead, sent, h⟩ := takeIn_takes { w.opening slot conn with session }
      exact ⟨got, goAhead, sent, hurgent.before h.passed, h.part, h.asked, h.whole, h.read⟩
  split
  · exact takeIn_takes (w.opening slot conn)
  · exact ⟨[], [], [], .idle (.refl _)⟩

end Taking

end Switchboard.Server
