import Switchboard.Proofs.Exchange.OtherMethod
import Switchboard.Proofs.Exchange.RoundTrip
import Switchboard.Proofs.Server.Course
import Switchboard.Proofs.Server.Outcome

/-!
Requests for the head only. A request that is sent with HEAD in the place of GET is answered in the same words without
the body: the go-ahead if the client waits for one, then the head of the same final response, which still declares the
length of the body; and the connection goes on or ends alike (`HeadOnly`). This holds for every site whose services do
not look at the method, whatever is answered, an error page included.

There is one condition. The request is longer by a byte than with GET, so that one read more may be needed for its head,
and before it what is there of the head is compared with a bound, which is a sum. If a sum is not a machine word, there
is a delivery in which the program stops at the request with HEAD (`head_answered_as_get_iff`).
-/

namespace Switchboard.Server

open Http
open Exchange

/-! ## Answers for the head only -/

/-- No service of a site looks at the method. -/
def Site.IsMethodBlind (site : Site) : Prop :=
  ∀ path f, site.registry.resolve path = .ok f → Route.Service.IsMethodBlind f

/-- The slot `t` is `s`, which holds a request with GET, asked for the head only. -/
def HeadOf (s t : Slot) : Prop := s.request.method = .get ∧ t = s.asHead

theorem likeness_headOf : Likeness HeadOf where
  path h := by rw [h.2]; rfl
  dispatched h := by rw [h.2, h.1]; rfl
  reads h := by rw [h.2]; exact ⟨fun _ => Or.inl h.1, fun _ => Or.inr rfl⟩
  response h := by rw [h.2]; rfl
  respond h f := ⟨h.1, by rw [h.2]; rfl⟩

theorem Site.IsMethodBlind.keeps {site : Site} (h : site.IsMethodBlind) : site.Keeps HeadOf := by
  rintro path f hf table s t ⟨hs, rfl⟩
  have hblind := h path f hf
  rw [hblind.blind table s hs]
  exact ⟨⟨hblind.keeps table s hs, rfl⟩, rfl⟩

/-- The answer `a` is for a request with GET, and `a'` is the same answer for the head only. -/
structure Answer.Shortens (a' a : Answer) : Prop where
  response : a'.slot.response = a.slot.response
  version : a'.slot.request.version = a.slot.request.version
  way : a'.way = a.way
  get : a.slot.request.method = .get
  head : a'.slot.request.method = .head

section Answers

variable {site : Site} {keepAlive : Bool} {s : Slot} {a a' : Answer}

/-- The same answer is completed in the same way. -/
theorem Answer.Shortens.response_complete (h : a'.Shortens a) :
    (a'.complete site keepAlive).response = (a.complete site keepAlive).response := by
  have hpaged : a'.paged = a.paged := by
    unfold Answer.paged
    rw [h.way, h.response]
  rw [Server.response_complete, Server.response_complete, h.version, hpaged]

/-- The answer is written as a whole for GET. -/
theorem Answer.Shortens.bytes_get (h : a'.Shortens a) :
    responseBytes (a.complete site keepAlive) =
      (a.complete site keepAlive).response.head ++ (a.complete site keepAlive).response.body := by
  have hget : (a.complete site keepAlive).request.method = .get := h.get
  rw [responseBytes, hget]
  rfl

/-- Of the same answer the head is written for HEAD. -/
theorem Answer.Shortens.bytes_head (h : a'.Shortens a) :
    responseBytes (a'.complete site keepAlive) = (a.complete site keepAlive).response.head := by
  have hhead : (a'.complete site keepAlive).request.method = .head := h.head
  rw [responseBytes, hhead, h.response_complete]
  exact List.append_nil _

/-- A complete answer declares the length of its body. -/
theorem contentLength_complete (site : Site) (keepAlive : Bool) (a : Answer) :
    (a.complete site keepAlive).response.fields.get? "Content-Length" =
      some (Text.decimal (a.complete site keepAlive).response.body.length) := by
  rw [Fields.get?_eq_head?, getAll_contentLength_complete]
  rfl

/-- The answer to HEAD is the answer to GET for the head only, and leaves as much of the stream: if all services are
local, or if the bytes past the request are the same. -/
theorem answer_shortens (hsite : site.IsMethodBlind) (hs : s.request.method = .get) {b : Bytes} {d : Chunk.Decoder}
    (hrest : site.IsLocal ∨ b = s.buffer ∧ d = s.decoder) :
    (answer site (s.asHead.withRest b d)).Shortens (answer site s) ∧
      ∀ stream stream' : Bytes, s.buffer ++ stream = b ++ stream' →
        (answer site s).slot.buffer ++ stream = (answer site (s.asHead.withRest b d)).slot.buffer ++ stream' := by
  have hhead : (answer site s).Like HeadOf (answer site s.asHead) :=
    answer_like likeness_headOf hsite.keeps ⟨hs, rfl⟩
  obtain ⟨hmethod, hslot⟩ := hhead.slot
  rcases hrest with hlocal | ⟨rfl, rfl⟩
  · have hapart := answer_apart hlocal s.asHead b d
    obtain ⟨hslot', -⟩ := hapart.slot
    rw [hslot] at hslot'
    refine ⟨⟨?_, ?_, hapart.way.trans hhead.way, hmethod, ?_⟩, fun stream stream' h => ?_⟩
    · rw [hslot']
      rfl
    · rw [hslot']
      rfl
    · rw [hslot']
      rfl
    · rw [buffer_answer hlocal.leavesRest, hslot']
      exact h
  · have hsame : s.asHead.withRest s.buffer s.decoder = s.asHead := rfl
    rw [hsame, hslot]
    refine ⟨⟨?_, ?_, hhead.way, hmethod, ?_⟩, fun stream stream' h => ?_⟩
    · rw [hslot]
      rfl
    · rw [hslot]
      rfl
    · rw [hslot]
      rfl
    · rw [List.append_cancel_left h]
      rfl

/-- The answer to a fault does not look at the request. -/
theorem faultAnswer_shortens {t : Slot} (f : Fault) (hresponse : t.response = s.response)
    (hversion : t.request.version = s.request.version) (hget : s.request.method = .get)
    (hhead : t.request.method = .head) : (faultAnswer f t).Shortens (faultAnswer f s) :=
  ⟨by show Response.setStatus t.response _ = _; rw [hresponse]; rfl, hversion, rfl, hget, hhead⟩

end Answers

/-! ## Cycles for the head only -/

/-- The bytes of a connection that are still to be used. -/
def unread (conn : Connection (Recorded Script)) : Bytes :=
  conn.pending ++ Script.dataOf conn.transport.inner.deliveries

/-- Two connections are both closed, or both handed back with the same bytes unread. -/
inductive EndsAlike : Fate (Recorded Script) → Fate (Recorded Script) → Prop where
  | closed (t u : Recorded Script) : EndsAlike (.closed t) (.closed u)
  | handedBack {c d : Connection (Recorded Script)} (peer : c.peer = d.peer) (rest : unread c = unread d) :
    EndsAlike (.handedBack c) (.handedBack d)

/-- What is written for GET and what is written for HEAD, after the same go-ahead: a final response that declares the
length of its body, and its head; or nothing more. -/
inductive Curtailed (goAhead : Bytes) : Bytes → Bytes → Prop where
  | answered (final : Response) (length : final.fields.get? "Content-Length" = some (Text.decimal final.body.length)) :
    Curtailed goAhead (goAhead ++ (final.head ++ final.body)) (goAhead ++ final.head)
  | unanswered : Curtailed goAhead goAhead goAhead

/-- A cycle that has come to `fate'` for HEAD has come to the same as one that has come to `fate` for GET, but for the
body of the answer; `before` and `before'` were written before. -/
structure HeadOnly (goAhead before before' : Bytes) (fate fate' : Fate (Recorded Script)) : Prop where
  written : ∃ out out', Curtailed goAhead out out' ∧ fate.transport.written = before ++ out ∧
    fate'.transport.written = before' ++ out'
  ends : EndsAlike fate fate'

section Cycles

variable {w : Worker} {l : Limits} {peer : String} {before before' written written' after : Bytes} {head : Request}
  {x y : Link (Recorded Script)}

/-- A session that brings a script and takes what is written. -/
abbrev Serving (w : Worker) (written : Bytes) (session : Session (Recorded Script)) (stream : Bytes) : Prop :=
  Recording (Script.BringsAndTakes w.patience) written session stream

theorem concluded_alike {keepAlive : Bool} {b b' stream stream' : Bytes} {fate fate' : Fate (Recorded Script)}
    (h : Concluded (Script.BringsAndTakes w.patience) w w.patience peer keepAlive written b stream fate)
    (h' : Concluded (Script.BringsAndTakes w.patience) w w.patience peer keepAlive written' b' stream' fate')
    (hrest : keepAlive = true → b ++ stream = b' ++ stream') :
    EndsAlike fate fate' ∧ fate.transport.written = written ∧ fate'.transport.written = written' := by
  cases h with
  | handedBack kept recording =>
    cases h' with
    | handedBack _ recording' =>
      refine ⟨.handedBack rfl ?_, recording.written, recording'.written⟩
      have hstream := recording.inner.data
      have hstream' := recording'.inner.data
      have hrest := hrest kept.1
      rw [← hstream, ← hstream'] at hrest
      exact hrest
    | closed kept' => exact absurd kept kept'
  | closed kept done =>
    cases h' with
    | handedBack kept' => exact absurd kept' kept
    | closed _ done' => exact ⟨.closed _ _, done, done'⟩

/-- The same answer is delivered as a whole and for the head only. -/
theorem deliver_headOnly {a a' : Answer} (hshort : a'.Shortens a) {goAhead stream stream' : Bytes} {keepAlive : Bool}
    (h : Serving w (before ++ goAhead) x.session stream) (h' : Serving w (before' ++ goAhead) y.session stream')
    (hrest : keepAlive = true → a.slot.buffer ++ stream = a'.slot.buffer ++ stream') :
    HeadOnly goAhead before before' (w.deliver peer keepAlive a x).fate (w.deliver peer keepAlive a' y).fate := by
  have hD := Script.duplex_brings w.patience
  have hwhole : Concluded _ w w.patience peer keepAlive _ _ stream (w.deliver peer keepAlive a x).fate :=
    deliver_concluded hD a h
  have hhead : Concluded _ w w.patience peer keepAlive _ _ stream' (w.deliver peer keepAlive a' y).fate :=
    deliver_concluded hD a' h'
  obtain ⟨hends, hwritten, hwritten'⟩ := concluded_alike hwhole hhead hrest
  refine ⟨⟨_, _, .answered (a.complete w.site keepAlive).response (contentLength_complete w.site keepAlive a), ?_, ?_⟩,
    hends⟩
  · rw [hwritten, hshort.bytes_get, List.append_assoc]
  · rw [hwritten', hshort.bytes_head, List.append_assoc]

/-- Closing without an answer comes to the same. -/
theorem close_headOnly {goAhead stream stream' : Bytes} (h : Serving w (before ++ goAhead) x.session stream)
    (h' : Serving w (before' ++ goAhead) y.session stream') :
    HeadOnly goAhead before before' (Worker.close [] x).fate (Worker.close [] y).fate :=
  ⟨⟨_, _, .unanswered, (Recorded.written_close x.session.transport).trans h.written,
    (Recorded.written_close y.session.transport).trans h'.written⟩, .closed _ _⟩

/-- A fault is answered or not, for the head as for the whole. -/
theorem refuse_headOnly {goAhead stream stream' : Bytes} {o : Option Fault} {f g : Fault}
    (hf : FailsWith IsEnd o f) (hg : FailsWith IsEnd o g) (hclient : ∀ e, o = some e → e.category = .clientData)
    (h : Serving w (before ++ goAhead) x.session stream) (h' : Serving w (before' ++ goAhead) y.session stream')
    (hshort : ∀ e, (faultAnswer e y.slot).Shortens (faultAnswer e x.slot)) :
    HeadOnly goAhead before before' (w.refuse peer f x).fate (w.refuse peer g y).fate := by
  have hend : ∀ {e : Fault}, IsEnd e → e.isTransport = true := by
    rintro e (rfl | rfl) <;> rfl
  unfold Worker.refuse
  rcases hf with hf | ⟨hnone, hf⟩
  · obtain rfl : f = g := by
      rcases hg with hg | ⟨hg, -⟩ <;> rw [hf] at hg
      · exact Option.some.inj hg
      · exact absurd hg (by simp)
    obtain ⟨htransport, hcrash⟩ := Fault.category_eq_clientData_iff.1 (hclient f hf)
    rw [htransport, hcrash]
    exact deliver_headOnly (hshort f) h h' (fun hk => absurd hk (by simp))
  · have hg : IsEnd g := by
      rcases hg with hg | ⟨-, hg⟩
      · exact absurd (hnone.symm.trans hg) (by simp)
      · exact hg
    rw [if_pos (hend hf), if_pos (hend hg)]
    exact close_headOnly h h'

/-- A request that was read is answered for the head as for the whole. -/
theorem execute_headOnly (hsite : w.site.IsMethodBlind) (hget : x.slot.request.method = .get)
    (hy : y.slot = x.slot.asHead.withRest y.slot.buffer y.slot.decoder)
    (hrest : w.site.IsLocal ∨ y.slot.buffer = x.slot.buffer ∧ y.slot.decoder = x.slot.decoder)
    {goAhead stream stream' : Bytes} {keepAlive : Bool} (h : Serving w (before ++ goAhead) x.session stream)
    (h' : Serving w (before' ++ goAhead) y.session stream')
    (hstream : x.slot.buffer ++ stream = y.slot.buffer ++ stream') :
    HeadOnly goAhead before before' (w.execute peer keepAlive x).fate (w.execute peer keepAlive y).fate := by
  obtain ⟨hshort, hleft⟩ := answer_shortens hsite hget hrest
  rw [← hy] at hshort hleft
  exact deliver_headOnly hshort h h' fun _ => hleft stream stream' hstream

/-- What was taken in is settled for the head as for the whole. -/
theorem settle_headOnly {s : Slot} {b : Bytes} {i j : Intake} (hsite : w.site.IsMethodBlind)
    (hget : head.method = .get)
    (h : Course (Script.BringsAndTakes w.patience) s before head after (i, x))
    (h' : Course (Script.BringsAndTakes w.patience) { s with buffer := b } before' (head.withMethod .head) after (j, y))
    (hrest : w.site.IsLocal ∨
      ∀ k k', i = .read k → j = .read k' → x.slot.buffer = y.slot.buffer) :
    HeadOnly (goAhead head) before before' (w.settle peer (i, x)).fate (w.settle peer (j, y)).fate := by
  have hbody : (opened { s with buffer := b } (head.withMethod .head)).bodyOf? after =
      ((opened s head).bodyOf? after).map fun p => (p.1.withMethod .head, p.2) :=
    bodyOf?_withMethod (s := s.cleared) head .head
  have hfault : (opened { s with buffer := b } (head.withMethod .head)).bodyFault? after =
      (opened s head).bodyFault? after := bodyFault?_withMethod (s := s.cleared) head .head
  have hdecoder : (opened { s with buffer := b } (head.withMethod .head)).bodyDecoder after =
      (opened s head).bodyDecoder after := bodyDecoder_withMethod (s := s.cleared) head .head
  cases h with
  | @read r rest _ body recording slot =>
    cases h' with
    | @read r' rest' _ body' recording' slot' =>
      rw [hbody, body] at body'
      obtain ⟨rfl, rfl⟩ := Prod.mk.inj (Option.some.inj body')
      obtain ⟨stream, hrec, hstream⟩ := recording
      obtain ⟨stream', hrec', hstream'⟩ := recording'
      have hmethod : x.slot.request.method = .get := by
        rw [slot, ← hget]
        exact congrArg RequestLine.method (line_of_bodyOf? body)
      rw [hdecoder] at slot'
      have hy : y.slot = x.slot.asHead.withRest y.slot.buffer y.slot.decoder := by
        rw [slot', slot]
        rfl
      have hsame : y.slot.decoder = x.slot.decoder := by rw [slot', slot]
      exact execute_headOnly hsite hmethod hy (hrest.imp_right fun hrest => ⟨(hrest _ _ rfl rfl).symm, hsame⟩) hrec hrec'
        (hstream.trans hstream'.symm)
    | failed body' =>
      rw [hbody, body] at body'
      exact absurd body' (by simp)
  | failed body fault recording receives line =>
    cases h' with
    | read body' =>
      rw [hbody, body] at body'
      exact absurd body' (by simp)
    | failed body' fault' recording' receives' line' =>
      rw [hfault] at fault'
      obtain ⟨stream, hrec⟩ := recording
      obtain ⟨stream', hrec'⟩ := recording'
      refine refuse_headOnly fault fault' (fun e => Slot.category_bodyFault?) hrec hrec' fun e => faultAnswer_shortens e ?_ ?_ ?_ ?_
      · rw [receives.response, receives'.response]
      · exact (congrArg RequestLine.version line').trans (congrArg RequestLine.version line).symm
      · exact (congrArg RequestLine.method line).trans hget
      · exact congrArg RequestLine.method line'

/-- The bytes come in time over a connection, to a worker whose slot is as good as new, and what is written is taken. -/
structure Brings (w : Worker) (l : Limits) (slot : Slot) (conn : Connection (Recorded Script)) (bytes : Bytes) :
    Prop where
  slot : slot.reset = Slot.new l
  steady : Script.Steady w.patience 0 conn.transport.inner.deliveries
  takes : Script.Takes w.patience conn.transport.inner
  bytes : unread conn = bytes

/-- If the requests on both connections are read, the same bytes past them have been received. -/
def SameRest (w : Worker) (slot slot' : Slot) (c d : Connection (Recorded Script)) : Prop :=
  ∀ k k' y z, w.intake slot c .read = (.read k, y) → w.intake slot' d .read = (.read k', z) →
    y.slot.buffer = z.slot.buffer

variable {slot slot' : Slot} {c d conn : Connection (Recorded Script)} {bytes : Bytes}

/-- Marks do not matter to what becomes of a connection. -/
theorem fate_cycle (w : Worker) (slot : Slot) (conn : Connection (Recorded Script)) :
    (w.cycle slot conn .read).fate = (w.settle conn.peer (w.intake slot conn .read)).fate := by
  obtain ⟨marks, -, hcycle⟩ := cycle_eq w slot conn .read
  rw [hcycle]
  rfl

theorem intake_course (hb : Brings w l slot conn bytes) (hhead : (Slot.new l).headOf? bytes = some (head, after))
    (hfit : AcceptedFits (Slot.new l) bytes) :
    Course (Script.BringsAndTakes w.patience) (w.opening slot conn).slot conn.transport.written head after
      (w.intake slot conn .read) := by
  have hslot := opening_slot w hb.slot conn
  have hsame : (w.opening slot conn).slot.SameLimits (Slot.new l) := by
    rw [hslot]
    exact ⟨rfl, rfl, rfl, rfl⟩
  have hsame' : (Slot.new l).SameLimits (w.opening slot conn).slot := by
    rw [hslot]
    exact ⟨rfl, rfl, rfl, rfl⟩
  have hlimits : (Slot.new l).limits = (w.opening slot conn).slot.limits := by rw [hslot]
  have hunread : (w.opening slot conn).slot.buffer ++ Script.dataOf conn.transport.inner.deliveries = bytes := by
    rw [hslot]
    exact hb.bytes
  have hrec : Serving w conn.transport.written (w.opening slot conn).session
      (Script.dataOf conn.transport.inner.deliveries) := ⟨⟨rfl, hb.steady, rfl, hb.takes⟩, rfl⟩
  refine takeIn_course (x := w.opening slot conn) (Script.duplex_brings w.patience) hrec ?_ ?_
  · rw [hunread, headOf?_congr hsame]
    exact hhead
  · rw [hunread]
    exact hfit.congr hsame' hlimits

/-- A request with HEAD is served as with GET, if the bounds on what is buffered are machine words. -/
theorem cycle_headOnly {g : Bytes} (hsite : w.site.IsMethodBlind)
    (hhead : (Slot.new l).headOf? g = some (head, after)) (hget : head.method = .get)
    (hsums : SumsFit l) (hc : Brings w l slot c g)
    (hd : Brings w l slot' d (Head.withMethod .head g)) (hpeer : c.peer = d.peer)
    (hrest : w.site.IsLocal ∨ SameRest w slot slot' c d) :
    HeadOnly (goAhead head) c.transport.written d.transport.written (w.cycle slot c .read).fate
      (w.cycle slot' d .read).fate := by
  have hcourse := intake_course hc hhead (acceptedFits_of_sums hsums _)
  have hcourse' := intake_course hd (headOf?_withMethod hhead .head) (acceptedFits_of_sums hsums _)
  have hslot : (w.opening slot' d).slot = { (w.opening slot c).slot with buffer := d.pending } := by
    rw [opening_slot w hd.slot, opening_slot w hc.slot, hpeer]
  rw [hslot] at hcourse'
  rw [fate_cycle, fate_cycle, ← hpeer]
  rcases hi : w.intake slot c .read with ⟨i, x⟩
  rcases hj : w.intake slot' d .read with ⟨j, y⟩
  rw [hi] at hcourse
  rw [hj] at hcourse'
  refine settle_headOnly hsite hget hcourse hcourse' (hrest.imp_right fun hsame k k' hk hk' => ?_)
  rw [hk] at hi
  rw [hk'] at hj
  exact hsame k k' x y hi hj

/-! ## Sums that do not fit -/

/-- The program stops if what is pending is compared with a sum that is not a machine word. -/
theorem dropped_of_overflow (hslot : slot.reset = Slot.new l)
    (h : ∀ t : Slot, t.limits = l → t.buffer = conn.pending →
      ∃ b, headTest .request t = .failed .overflow { t with buffer := b }) :
    (w.intake slot conn .read).1 = .failed .overflow ∧
      ∃ t, (w.cycle slot conn .read).fate = .dropped t := by
  obtain ⟨b, ht⟩ := h (w.opening slot conn).slot.cleared
    (by rw [opening_slot w hslot]; rfl) (by rw [opening_slot w hslot]; rfl)
  have hread : (w.opening slot conn).readRequest =
      (.error .overflow, ⟨{ (w.opening slot conn).slot.cleared with buffer := b }, (w.opening slot conn).session⟩) := by
    rw [readRequest_eq, Link.pump_failed (x := (w.opening slot conn).mapSlot Slot.cleared) ht]
    rfl
  have hintake : w.intake slot conn .read =
      (.failed .overflow, ⟨{ (w.opening slot conn).slot.cleared with buffer := b }, (w.opening slot conn).session⟩) := by
    show (takeIn (w.opening slot conn)).2 = _
    rw [takeIn, hread]
  refine ⟨congrArg Prod.fst hintake, (w.opening slot conn).session.transport, ?_⟩
  rw [fate_cycle, hintake]
  rfl

/-- If a sum is not a machine word, the program stops at the request with HEAD in some delivery. -/
theorem exists_overflow_with_head {g : Bytes} {p : Request × Bytes}
    (hhead : (Slot.new l).headOf? (Head.withMethod .head g) = some p) (hsums : ¬ SumsFit l) :
    ∃ d : Connection (Recorded Script), Brings w l (.new l) d (Head.withMethod .head g) ∧
      (w.intake (.new l) d .read).1 = .failed .overflow ∧ ∃ t, (w.cycle (.new l) d .read).fate = .dropped t := by
  obtain ⟨front, rest, hstream, hfails⟩ := exists_overflow_front fun hfit => hsums ((acceptedFits_iff hhead).1 hfit)
  have hpos : 0 < w.patience := Nat.lt_of_lt_of_le Nat.zero_lt_one (Nat.le_max_right _ _)
  let d : Connection (Recorded Script) := ⟨{ inner := promptScript (10 :: rest) }, "", front⟩
  obtain ⟨hintake, hdropped⟩ : (w.intake (.new l) d .read).1 = .failed .overflow ∧
      ∃ t, (w.cycle (.new l) d .read).fate = .dropped t := dropped_of_overflow rfl hfails
  refine ⟨d, ⟨rfl, steady_promptScript hpos _, ⟨show (none : Option Nat) ≠ some 0 by decide, rfl, hpos⟩, ?_⟩,
    hintake, hdropped⟩
  rw [hstream]
  exact congrArg (front ++ ·) (dataOf_promptScript (10 :: rest))

end Cycles

/-- A request that is accepted with GET is answered for HEAD as for GET but for the body of the answer, over all
connections that bring it in time, however it is cut, if and only if the bounds on what is buffered of a head are machine
words; if one of them is not, the program stops at the request with HEAD in some delivery. The services do not look at
the method; nor do they look at the bytes past the request, unless these are the same. -/
theorem head_answered_as_get_iff {w : Worker} {l : Limits} {g after : Bytes} {head : Request}
    (hsite : w.site.IsMethodBlind) (hhead : (Slot.new l).headOf? g = some (head, after)) (hget : head.method = .get) :
    (SumsFit l ↔
      ∀ slot slot' c d, Brings w l slot c g → Brings w l slot' d (Head.withMethod .head g) → c.peer = d.peer →
        w.site.IsLocal ∨ SameRest w slot slot' c d →
        HeadOnly (goAhead head) c.transport.written d.transport.written (w.cycle slot c .read).fate
          (w.cycle slot' d .read).fate) ∧
    (¬ SumsFit l → ∃ d, Brings w l (.new l) d (Head.withMethod .head g) ∧
      ∃ t, (w.cycle (.new l) d .read).fate = .dropped t) := by
  have hhead' := headOf?_withMethod hhead .head
  refine ⟨⟨?_, ?_⟩, ?_⟩
  · intro hsums slot slot' c d hc hd hpeer hrest
    exact cycle_headOnly hsite hhead hget hsums hc hd hpeer hrest
  · intro hall
    by_contra hsums
    obtain ⟨d, hd, hintake, t, ht⟩ := exists_overflow_with_head (w := w) hhead' hsums
    have hpos : 0 < w.patience := Nat.lt_of_lt_of_le Nat.zero_lt_one (Nat.le_max_right _ _)
    let c : Connection (Recorded Script) := ⟨{ inner := promptScript g }, d.peer, []⟩
    have hc : Brings w l (.new l) c g := ⟨rfl, steady_promptScript hpos g,
      ⟨show (none : Option Nat) ≠ some 0 by decide, rfl, hpos⟩, dataOf_promptScript g⟩
    have hsame : SameRest w (.new l) (.new l) c d := by
      intro k k' y z _ hz
      rw [hz] at hintake
      exact absurd hintake (by simp)
    have hends := (hall _ _ c d hc hd rfl (Or.inr hsame)).ends
    rw [ht] at hends
    generalize (w.cycle (.new l) c .read).fate = fate at hends
    cases hends
  · intro hsums
    obtain ⟨d, hd, -, hdropped⟩ := exists_overflow_with_head (w := w) hhead' hsums
    exact ⟨d, hd, hdropped⟩

/-- A request whose head is eighteen bytes long. -/
def rootRequest : Bytes := Text.utf8 "GET / HTTP/1.1\r\n\r\n"

/-- Limits under which eighteen bytes are read at a time, and the bound on a header section is not a machine word. -/
def eighteenLimits : Limits := { maxHeader := 0xffffffffffffffff, readCache := 18 }

theorem isMethodBlind_echoWorker : echoWorker.site.IsMethodBlind := by
  refine Route.Registry.holds_of_known rfl ?_
  intro library hl entry he
  obtain rfl := List.mem_singleton.1 hl
  obtain rfl := List.mem_singleton.1 he
  exact Route.isMethodBlind_canned (c := { recipe := some .echo }) (by decide)

theorem rootRequest_head (l : Limits) (h : l = {} ∨ l = eighteenLimits) :
    (Slot.new l).headOf? rootRequest = some ({ target := "/" }, []) := by
  rcases h with rfl | rfl
  · decide +kernel
  · decide +kernel

/-- A connection on which some bytes come at once. -/
def promptConnection (bytes : Bytes) : Connection (Recorded Script) :=
  ⟨{ inner := promptScript bytes }, "127.0.0.1:4711", []⟩

/-- With HEAD the request comes in two pieces, the second after a while. -/
def slowConnection : Connection (Recorded Script) where
  transport :=
    { inner :=
        { deliveries :=
            [.bytes ((Head.withMethod .head rootRequest).take 9), .stall 3,
              .bytes ((Head.withMethod .head rootRequest).drop 9)] } }
  peer := "127.0.0.1:4711"

/-- A connection that was handed back. -/
def Fate.isHandedBack {σ : Type} : Fate σ → Bool
  | .handedBack _ => true
  | .closed _ | .dropped _ => false

/-- The request is answered for HEAD as for GET; but under limits near the end of the machine words it is answered for
GET only. -/
theorem rootRequest_answered_with_head :
    HeadOnly [] [] [] (echoWorker.cycle (.new {}) (promptConnection rootRequest) .read).fate
        (echoWorker.cycle (.new {}) slowConnection .read).fate ∧
      (echoWorker.cycle (.new eighteenLimits) (promptConnection rootRequest) .read).fate.isHandedBack = true ∧
      (echoWorker.intake (.new eighteenLimits) (promptConnection (Head.withMethod .head rootRequest)) .read).1 =
        .failed .overflow ∧
      ∃ d, Brings echoWorker eighteenLimits (.new eighteenLimits) d (Head.withMethod .head rootRequest) ∧
        ∃ t, (echoWorker.cycle (.new eighteenLimits) d .read).fate = .dropped t := by
  have htakes : ∀ t : Script, t.writeMax = none → t.writeRoom = none → t.writeStall = 0 →
      Script.Takes echoWorker.patience t := by
    intro t hmax hroom hstall
    exact ⟨by rw [hmax]; decide, hroom, by rw [hstall]; decide⟩
  have hprompt : Brings echoWorker {} (.new {}) (promptConnection rootRequest) rootRequest :=
    ⟨rfl, steady_promptScript (by decide) _, htakes _ rfl rfl rfl, dataOf_promptScript _⟩
  have hslow : Brings echoWorker {} (.new {}) slowConnection (Head.withMethod .head rootRequest) := by
    refine ⟨rfl, by decide +kernel, htakes _ rfl rfl rfl, ?_⟩
    show (Head.withMethod .head rootRequest).take 9 ++ ((Head.withMethod .head rootRequest).drop 9 ++ []) = _
    rw [List.append_nil, List.take_append_drop]
  obtain ⟨hiff, -⟩ := head_answered_as_get_iff isMethodBlind_echoWorker (rootRequest_head {} (Or.inl rfl)) rfl
  obtain ⟨-, hstops⟩ :=
    head_answered_as_get_iff isMethodBlind_echoWorker (rootRequest_head eighteenLimits (Or.inr rfl)) rfl
  refine ⟨?_, by decide +kernel, by decide +kernel, hstops (by decide)⟩
  exact hiff.1 (by decide) _ _ _ _ hprompt hslow rfl (Or.inl isLocal_echoWorker)

end Switchboard.Server
