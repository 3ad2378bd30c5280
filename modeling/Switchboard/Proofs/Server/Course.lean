import Switchboard.Proofs.Exchange.BodyFault
import Switchboard.Proofs.Server.Protocol

/-!
The course of reading a request over a connection that brings its bytes in time and takes what is written, as far as the
head that the bytes begin with decides it (`takeIn_course`). The client gets its go-ahead if it waits for one
(`takeBody_course`); then the body is there and the request is read, or it is not there, and reading fails with what is
wrong with the body or at the end of the bytes. All of this is a function of the bytes, up to how many of those past the
request are in the buffer already.
-/

namespace Switchboard.Server

open Http
open Exchange

/-- The go-ahead that the client gets whose head this is, if it waits for one. -/
def goAhead (head : Request) : Bytes := if waits head then (Response.interim head.version).head else []

/-- The slot in which the body is read after a head. -/
def opened (s : Slot) (head : Request) : Slot := { s.cleared with request := head }

variable {σ : Type} [Transport σ] {patience : Nat} {P : Session σ → Bytes → Prop} {written stream after : Bytes}
  {head : Request}

/-- What reading comes to for a slot, over bytes that begin with `head` and go on with `after`. -/
inductive Course (P : Session σ → Bytes → Prop) (s : Slot) (written : Bytes) (head : Request) (after : Bytes) :
    Intake × Link (Recorded σ) → Prop where
  | read {r : Request} {rest : Bytes} {y : Link (Recorded σ)} (body : (opened s head).bodyOf? after = some (r, rest))
    (recording : ∃ stream, Recording P (written ++ goAhead head) y.session stream ∧ y.slot.buffer ++ stream = rest)
    (slot : y.slot =
      { s.cleared with request := r, buffer := y.slot.buffer, decoder := (opened s head).bodyDecoder after }) :
    Course P s written head after (.read (keeps head r), y)
  | failed {f : Fault} {y : Link (Recorded σ)} (body : (opened s head).bodyOf? after = none)
    (fault : FailsWith IsEnd ((opened s head).bodyFault? after) f)
    (recording : ∃ stream, Recording P (written ++ goAhead head) y.session stream)
    (receives : s.Receives y.slot) (line : y.slot.request.line = head.line) :
    Course P s written head after (.failed f, y)

/-- The body is read in the slot that the head has opened. -/
theorem readBody_opened (hF : Feeds P) {s : Slot} {y : Link σ} (hy : y.slot = { opened s head with buffer := y.slot.buffer })
    (h : P y.session stream) (hafter : y.slot.buffer ++ stream = after) :
    BodyEnds P (opened s head) after y.readBody := by
  have hends := readBody_ends hF h
  rw [hafter, hy] at hends
  generalize y.readBody = out at hends ⊢
  cases hends with
  | read body feeds slot => exact .read body feeds slot
  | failed body fault feeds receives line =>
    exact .failed body fault feeds (((Slot.Receives.refl _).withBuffer _).trans receives) line

theorem receives_opened (s : Slot) (head : Request) : s.Receives (opened s head) := ⟨rfl, rfl⟩

/-- The body that a client waits to send is read after the go-ahead. -/
theorem takeBody_course (hD : Duplex patience P) {s : Slot} {y : Link (Recorded σ)} (hwaits : waits head = true)
    (hslot : y.slot = { opened s head with buffer := y.slot.buffer }) (h : Recording P written y.session stream)
    (hafter : y.slot.buffer ++ stream = after) : Course P s written head after (takeBody head.keepAlive y) := by
  have hrequest : y.slot.request = head := by rw [hslot]; rfl
  have hgo : (Response.interim y.slot.request.version).head = goAhead head := by
    rw [hrequest]
    exact (if_pos hwaits).symm
  obtain ⟨session, hsend, hrec⟩ := send_recording hD h (Response.interim y.slot.request.version).head
  have hsend : y.sendContinue = (.ok (), { y with session }) := hsend
  rw [hgo] at hrec
  have hkeeps : ∀ r, head.keepAlive = keeps head r := fun r => (if_pos hwaits).symm
  have hends := readBody_opened (y := { y with session }) (feeds_recording hD.feeds _) hslot hrec hafter
  rw [takeBody, hsend]
  simp only
  generalize Link.readBody { y with session } = out at hends ⊢
  cases hends with
  | @read r _ z body feeds slot =>
    simp only
    rw [hkeeps r]
    exact .read body feeds slot
  | failed body fault feeds receives line =>
    exact .failed body fault feeds ((receives_opened s head).trans receives) line

/-- A client that does not wait gets nothing before the answer. -/
theorem goAhead_of_not_waits (h : ¬ waits head = true) : goAhead head = [] := if_neg h

/-- What is taken in is what the bytes begin with, after the go-ahead if the client waits for it. -/
theorem takeIn_course (hD : Duplex patience P) {x : Link (Recorded σ)} (h : Recording P written x.session stream)
    (hhead : x.slot.headOf? (x.slot.buffer ++ stream) = some (head, after))
    (hfit : AcceptedFits x.slot (x.slot.buffer ++ stream)) :
    Course P x.slot written head after (takeIn x).2 := by
  have hopens := readRequest_opens (feeds_recording hD.feeds written) h hfit
  rw [hhead] at hopens
  obtain ⟨b, session, rest, hrec, hafter, hread⟩ := hopens
  let y : Link (Recorded σ) := ⟨{ x.slot.cleared with request := head, buffer := b }, session⟩
  have hslot : y.slot = { opened x.slot head with buffer := y.slot.buffer } := rfl
  have hread : x.readRequest = if head.expectContinue then (.ok (), y) else y.readBody := hread
  unfold takeIn
  rw [hread]
  by_cases hwaits : waits head = true
  · have hexpect : head.expectContinue = true := (Bool.and_eq_true_iff.1 hwaits).1
    have hif : (y.slot.wantsContinue && y.slot.request.expectsBody) = true := hwaits
    rw [if_pos hexpect]
    simp only
    rw [if_pos hif]
    exact takeBody_course hD hwaits hslot hrec hafter
  have hkeeps : ∀ r, keeps head r = r.keepAlive := fun r => if_neg hwaits
  have hsilent : written ++ goAhead head = written := by rw [goAhead_of_not_waits hwaits, List.append_nil]
  rw [← hsilent] at hrec
  by_cases hexpect : head.expectContinue = true
  · -- no body is announced, so that the head is the whole request
    have hnone := expectsBody_of_not_waits hexpect hwaits
    have hchunked : head.isChunked = false := (Bool.or_eq_false_iff.1 hnone).1
    obtain ⟨-, -, hlength⟩ := headOf?_tells hhead
    have hif : ¬ (y.slot.wantsContinue && y.slot.request.expectsBody) = true := hwaits
    have hdecoder : (opened x.slot head).bodyDecoder after = x.slot.cleared.decoder :=
      if_neg (fun hc => Bool.false_ne_true (hchunked.symm.trans hc))
    rw [if_pos hexpect]
    simp only
    rw [if_neg hif, ← hkeeps]
    refine .read (bodyOf?_of_no_body (hlength hchunked) hnone) ⟨rest, hrec, hafter⟩ ?_
    rw [hdecoder]
  · have hends := readBody_opened (feeds_recording hD.feeds _) hslot hrec hafter
    rw [if_neg hexpect]
    generalize y.readBody = out at hends ⊢
    cases hends with
    | @read r _ z body feeds slot =>
      have hr : z.slot.request = r := by rw [slot]
      have hcontinue : z.slot.wantsContinue = false := by
        rw [Slot.wantsContinue, hr, expectContinue_of_bodyOf? body]
        exact Bool.eq_false_iff.2 hexpect
      simp only [hcontinue, Bool.false_and]
      rw [if_neg Bool.false_ne_true, hr, ← hkeeps]
      exact .read body feeds slot
    | failed body fault feeds receives line =>
      exact .failed body fault feeds ((receives_opened x.slot head).trans receives) line

end Switchboard.Server
