import Switchboard.Proofs.Exchange.Bounds
import Switchboard.Proofs.Exchange.Duplex
import Switchboard.Proofs.Exchange.Segmentation
import Switchboard.Proofs.Route.Locality
import Switchboard.Proofs.Server.Likeness
import Switchboard.Server.Cycle

/-!
Replies. Services that work apart from the bytes past the request (`Service.IsLocal`) make the answer a function
of the request (`Worker.reply`): whatever came past the request is left as it is (`answer_apart`). A cycle that
has read a request writes the reply to it, and hands the connection back with the rest of the stream or closes
it (`execute_answered`).
-/

namespace Switchboard.Server

open Http
open Exchange

/-- All services of a site are local. -/
def Site.IsLocal (site : Site) : Prop :=
  ∀ path f, site.registry.resolve path = .ok f → Route.Service.IsLocal f

/-- A site is local if it opens no plugins and its libraries hold local services. -/
theorem Site.isLocal_of_known {site : Site} (hplugins : site.registry.libraries.plugins = false)
    (h : ∀ library ∈ site.registry.libraries.known, ∀ entry ∈ library.2,
      Route.Service.IsLocal entry.2) : site.IsLocal :=
  site.registry.holds_of_known hplugins h

variable {site : Site} {s : Slot}

/-! ## Answers apart from the rest -/

/-- The slot `t` is `s` with other bytes past the request, and `l` are the limits of both. -/
def Apart (b : Bytes) (d : Chunk.Decoder) (l : Limits) (s t : Slot) : Prop :=
  t = s.withRest b d ∧ s.limits = l

theorem likeness_apart (b : Bytes) (d : Chunk.Decoder) (l : Limits) : Likeness (Apart b d l) where
  path h := by rw [h.1]; rfl
  dispatched h := by rw [h.1]; rfl
  reads h := by rw [h.1]; exact Iff.rfl
  response h := by rw [h.1]; rfl
  respond h f := by rw [h.1]; exact ⟨rfl, h.2⟩

/-- Local services keep slots apart from the rest. -/
theorem Site.IsLocal.keeps (hsite : site.IsLocal) (b : Bytes) (d : Chunk.Decoder) (l : Limits) :
    site.Keeps (Apart b d l) := by
  rintro path f hf table s t ⟨rfl, hl⟩
  have hlocal := hsite path f hf
  rw [hlocal.apart]
  exact ⟨⟨rfl, (hlocal.limits table s).trans hl⟩, rfl⟩

/-- The answer to a request does not depend on what comes past the request, and leaves it as it is. -/
theorem answer_apart (hsite : site.IsLocal) (s : Slot) (b : Bytes) (d : Chunk.Decoder) :
    (answer site s).Like (Apart b d s.limits) (answer site (s.withRest b d)) :=
  answer_like (likeness_apart b d s.limits) (hsite.keeps b d s.limits) ⟨rfl, rfl⟩

theorem complete_apart {a a' : Answer} {b : Bytes} {d : Chunk.Decoder} {l : Limits}
    (h : a.Like (Apart b d l) a') (site : Site) (keepAlive : Bool) :
    a'.complete site keepAlive = (a.complete site keepAlive).withRest b d := by
  unfold Answer.complete
  rw [h.slot.1, h.way]
  rfl

/-! ## What an answer leaves on the wire -/

variable {σ : Type} [Transport σ] {w : Worker} {l : Limits} {peer : String} {keepAlive : Bool}
  {patience : Nat} {P : Session σ → Bytes → Prop} {written stream rest : Bytes}

/-- The slot that a request is answered in. -/
def asked (l : Limits) (peer : String) (r : Request) : Slot :=
  { Slot.new l with peer := some peer, request := r }

/-- The slot with the complete answer to a request. -/
def Worker.answered (w : Worker) (l : Limits) (peer : String) (keepAlive : Bool) (r : Request) : Slot :=
  (answer w.site (asked l peer r)).complete w.site keepAlive

/-- The bytes that a slot with an answer sends. -/
def responseBytes (s : Slot) : Bytes :=
  s.response.head ++ if s.request.method == .head then [] else s.response.body

/-- The bytes of the answer to a request. -/
def Worker.reply (w : Worker) (l : Limits) (peer : String) (keepAlive : Bool) (r : Request) : Bytes :=
  responseBytes (w.answered l peer keepAlive r)

/-! ## How an answer is concluded -/

/-- What becomes of a connection after an answer: it is handed back, with these bytes pending and this stream to come, if
it is kept alive and taken back, and closed otherwise. -/
inductive Concluded (P : Session σ → Bytes → Prop) (w : Worker) (patience : Nat) (peer : String) (keepAlive : Bool)
    (written pending stream : Bytes) : Fate (Recorded σ) → Prop where
  | handedBack {t : Recorded σ} (kept : keepAlive = true ∧ w.takesBack = true)
    (recording : Recording P written ⟨t, patience⟩ stream) :
    Concluded P w patience peer keepAlive written pending stream (.handedBack ⟨t, peer, pending⟩)
  | closed {t : Recorded σ} (kept : ¬ (keepAlive = true ∧ w.takesBack = true)) (done : t.written = written) :
    Concluded P w patience peer keepAlive written pending stream (.closed t)

theorem conclude_concluded (hD : Duplex patience P) {x : Link (Recorded σ)}
    (h : Recording P written x.session stream) :
    Concluded P w patience peer keepAlive written x.slot.buffer stream (w.conclude peer keepAlive x).fate := by
  have hsession : (⟨x.session.transport, patience⟩ : Session (Recorded σ)) = x.session := by
    rw [← hD.timeout h.inner]
    rfl
  have hclosed : (x.session.close.2.transport : Recorded σ).written = written :=
    (Recorded.written_close x.session.transport).trans h.written
  unfold Worker.conclude
  cases keepAlive with
  | true =>
    by_cases hback : w.takesBack = true
    · simp only [hback, if_true]
      refine .handedBack ⟨rfl, hback⟩ ?_
      rw [hsession]
      exact h
    · simp only [hback, if_true]
      exact .closed (fun hk => hback hk.2) hclosed
  | false => exact .closed (fun hk => absurd hk.1 Bool.false_ne_true) hclosed

/-- A complete answer is written, and the connection goes where it should. -/
theorem deliver_concluded (hD : Duplex patience P) (a : Answer) {x : Link (Recorded σ)}
    (h : Recording P written x.session stream) :
    Concluded P w patience peer keepAlive (written ++ responseBytes (a.complete w.site keepAlive)) a.slot.buffer stream
      (w.deliver peer keepAlive a x).fate := by
  obtain ⟨session, hsend, hrec⟩ :=
    sendParts_recording hD (x := ⟨a.complete w.site keepAlive, x.session⟩) h
      (a.complete w.site keepAlive).response.head
      (if (a.complete w.site keepAlive).request.method == .head then []
        else (a.complete w.site keepAlive).response.body)
  have hresponse : Link.sendResponse ⟨a.complete w.site keepAlive, x.session⟩
      ((a.complete w.site keepAlive).request.method == .head) =
        (.ok (), ⟨a.complete w.site keepAlive, session⟩) := hsend
  unfold Worker.deliver
  simp only [hresponse]
  exact conclude_concluded (x := ⟨a.complete w.site keepAlive, session⟩) hD hrec

/-! ## What the slot is left as -/

omit [Transport σ] in
theorem reset_mapResponse (f : Response → Response) (s : Slot) : (mapResponse f s).reset = s.reset := rfl

theorem reset_conclude (w : Worker) (peer : String) (keepAlive : Bool) (x : Link σ) :
    (w.conclude peer keepAlive x).slot.reset = x.slot.reset := by
  unfold Worker.conclude
  cases keepAlive with
  | false => rfl
  | true => cases w.takesBack <;> rfl

theorem reset_deliver (w : Worker) (peer : String) (keepAlive : Bool) (a : Answer) (x : Link σ) :
    (w.deliver peer keepAlive a x).slot.reset = a.slot.reset := by
  have hcomplete : (a.complete w.site keepAlive).reset = a.slot.reset := reset_mapResponse _ a.slot
  have hsend := Link.slot_sendParts (a.complete w.site keepAlive).response.head
    (if (a.complete w.site keepAlive).request.method == .head then []
      else (a.complete w.site keepAlive).response.body)
    ⟨a.complete w.site keepAlive, x.session⟩
  rw [← hcomplete]
  unfold Worker.deliver Link.sendResponse
  simp only
  rcases hs : Link.sendParts ⟨a.complete w.site keepAlive, x.session⟩ _ _ with ⟨f | _, y⟩ <;>
    rw [hs] at hsend
  · exact congrArg Slot.reset hsend
  · exact (reset_conclude w peer keepAlive y).trans (congrArg Slot.reset hsend)

/-! ## Requests answered -/

/-- What a cycle comes to that has answered a request: the slot is as good as new, and the connection is handed
back with the rest of the stream if it is kept alive, and closed otherwise. -/
structure Answered (patience : Nat) (P : Session σ → Bytes → Prop) (l : Limits) (peer : String)
    (keepAlive : Bool) (written rest : Bytes) (r : Run (Recorded σ)) : Prop where
  slot : r.slot.reset = Slot.new l
  handedBack : keepAlive = true → ∃ conn stream, r.fate = .handedBack conn ∧ conn.peer = peer ∧
    Recording P written ⟨conn.transport, patience⟩ stream ∧ conn.pending ++ stream = rest
  closed : keepAlive = false → ∃ t, r.fate = .closed t ∧ t.written = written

omit [Transport σ] in
/-- Marks do not matter to what a cycle comes to. -/
theorem Answered.through {r : Run (Recorded σ)}
    (h : Answered patience P l peer keepAlive written rest r) (marks : List Mark) :
    Answered patience P l peer keepAlive written rest (r.through marks) :=
  ⟨h.slot, h.handedBack, h.closed⟩

omit [Transport σ] in
theorem Answered.after {r : Run (Recorded σ)}
    (h : Answered patience P l peer keepAlive written rest r) (m : Mark) :
    Answered patience P l peer keepAlive written rest (r.after m) :=
  ⟨h.slot, h.handedBack, h.closed⟩

/-- A request is answered when a complete answer has been delivered. -/
theorem deliver_answered (hD : Duplex patience P) (hback : w.takesBack = true) {a : Answer}
    {x : Link (Recorded σ)} (hslot : (a.complete w.site keepAlive).reset = Slot.new l)
    (h : Recording P written x.session stream) :
    Answered patience P l peer keepAlive
      (written ++ responseBytes (a.complete w.site keepAlive))
      ((a.complete w.site keepAlive).buffer ++ stream) (w.deliver peer keepAlive a x) := by
  have hconcluded : Concluded P w patience peer keepAlive _ _ stream (w.deliver peer keepAlive a x).fate :=
    deliver_concluded hD a h
  refine ⟨(reset_deliver w peer keepAlive a x).trans hslot, fun hk => ?_, fun hk => ?_⟩
  · generalize (w.deliver peer keepAlive a x).fate = fate at hconcluded ⊢
    cases hconcluded with
    | handedBack kept recording => exact ⟨_, stream, rfl, rfl, recording, rfl⟩
    | closed kept done => exact absurd ⟨hk, hback⟩ kept
  · generalize (w.deliver peer keepAlive a x).fate = fate at hconcluded ⊢
    cases hconcluded with
    | handedBack kept recording => exact absurd kept.1 (by simp [hk])
    | closed kept done => exact ⟨_, rfl, done⟩

/-- The answer to a request that was read is the one that it gets in a slot of its own. -/
theorem execute_answered (hD : Duplex patience P) (hback : w.takesBack = true)
    (hsite : w.site.IsLocal) {x : Link (Recorded σ)} {r : Request} {b : Bytes} {d : Chunk.Decoder}
    (hx : x.slot = (asked l peer r).withRest b d) (hd : d.reset = (Slot.new l).decoder)
    (h : Recording P written x.session stream) :
    Answered patience P l peer keepAlive (written ++ w.reply l peer keepAlive r) (b ++ stream)
      (w.execute peer keepAlive x) := by
  have hapart := answer_apart hsite (asked l peer r) b d
  rw [← hx] at hapart
  have hcomplete : (answer w.site x.slot).complete w.site keepAlive =
      (w.answered l peer keepAlive r).withRest b d := complete_apart hapart w.site keepAlive
  have hlimits : (w.answered l peer keepAlive r).limits = l := hapart.slot.2
  have hreset : ((answer w.site x.slot).complete w.site keepAlive).reset = Slot.new l := by
    rw [hcomplete]
    unfold Slot.reset
    show ({ Slot.new (w.answered l peer keepAlive r).limits with decoder := d.reset } : Slot) = _
    rw [hlimits, hd]
  have hbuffer : b = ((answer w.site x.slot).complete w.site keepAlive).buffer := by
    rw [hcomplete]
    rfl
  have hbytes : w.reply l peer keepAlive r =
      responseBytes ((answer w.site x.slot).complete w.site keepAlive) := by
    rw [hcomplete]
    rfl
  unfold Worker.execute
  refine Answered.after ?_ _
  rw [hbuffer, hbytes]
  exact deliver_answered hD hback hreset h

end Switchboard.Server
