import Switchboard.Proofs.Server.Reply

/-!
Requests one after another on one connection. A cycle over a stream that begins with a request writes what the
request gets, the go-ahead first if the client waits for one, and leaves the rest of the stream to the next cycle
(`cycle_answered`); a cycle over a stream that has ended writes nothing (`cycle_ended`). By induction over the
requests, cycle after cycle writes what each request gets alone, in order (`pipelined_served_as_alone`).
-/

namespace Switchboard.Server

open Http
open Exchange

/-! ## Streams that begin with a request -/

/-- A stream begins with the request `r`, the head of which reads `head`, and goes on with `rest`. -/
def Begins (l : Limits) (stream : Bytes) (head r : Request) (rest : Bytes) : Prop :=
  ∃ after, (Slot.new l).headOf? stream = some (head, after) ∧
    Slot.bodyOf? { Slot.new l with request := head } after = some (r, rest)

variable {l : Limits} {peer : String} {stream rest : Bytes} {head r : Request}

theorem exists_begins (h : (Slot.new l).requestOf? stream = some (r, rest)) :
    ∃ head, Begins l stream head r rest := by
  rw [Slot.requestOf?] at h
  obtain ⟨⟨head, after⟩, hh, hb⟩ := Option.bind_eq_some_iff.1 h
  exact ⟨head, after, hh, hb⟩

theorem Begins.append (h : Begins l stream head r rest) (more : Bytes) :
    Begins l (stream ++ more) head r (rest ++ more) := by
  obtain ⟨after, hh, hb⟩ := h
  exact ⟨after ++ more, headOf?_append hh more, bodyOf?_append hb more⟩

/-- The client waits for a go-ahead before it sends the body. -/
def waits (head : Request) : Bool := head.expectContinue && head.expectsBody

/-- A client that does not ask for a go-ahead does not wait for it. -/
theorem not_waits (h : ¬ head.expectContinue = true) : ¬ waits head = true := by
  intro hw
  exact h (Bool.and_eq_true_iff.1 hw).1

/-- A client that asks for a go-ahead in vain announces no body. -/
theorem expectsBody_of_not_waits (h : head.expectContinue = true) (hw : ¬ waits head = true) :
    head.expectsBody = false := by
  rw [waits, h, Bool.true_and] at hw
  exact Bool.eq_false_iff.2 hw

/-- The client asks to keep the connection: with the head if it waits for a go-ahead, with the whole request
otherwise. -/
def keeps (head r : Request) : Bool := if waits head then head.keepAlive else r.keepAlive

/-- What a request gets: the go-ahead if the client waits for it, and the reply. -/
def Worker.output (w : Worker) (l : Limits) (peer : String) (head r : Request) : Bytes :=
  (if waits head then (Response.interim head.version).head else []) ++
    w.reply l peer (keeps head r) r

/-! ## One cycle -/

/-- The connections of a worker are served with this patience. -/
def Worker.patience (w : Worker) : Nat := max w.site.settings.timeout 1

variable {σ : Type} [Transport σ] {w : Worker} {patience : Nat} {P : Session σ → Bytes → Prop}
  {written : Bytes}

omit [Transport σ] in
/-- What is read into a new slot leaves the slot that the request is answered in. -/
theorem asked_of_leaves {Q : Session (Recorded σ) → Bytes → Prop} {x y : Link (Recorded σ)} {b : Bytes}
    (hx : x.slot = { Slot.new l with peer := some peer, buffer := b })
    (h : Leaves Q (x.mapSlot Slot.cleared) r rest y) :
    y.slot = (asked l peer r).withRest y.slot.buffer y.slot.decoder ∧
      y.slot.decoder.reset = (Slot.new l).decoder := by
  refine ⟨?_, ?_⟩
  · have hslot := h.slot
    rw [Link.mapSlot, hx] at hslot
    exact hslot
  · have hlimits := h.limits
    rw [Link.mapSlot, hx] at hlimits
    exact hlimits

section Serving

variable {x y : Link (Recorded σ)} {b after : Bytes} {keepAlive : Bool}

/-- A request that has been read is answered, and what comes after it is left. -/
theorem execute_of_leaves (hD : Duplex patience P) (hback : w.takesBack = true)
    (hsite : w.site.IsLocal) (hx : x.slot = { Slot.new l with peer := some peer, buffer := b })
    (h : Leaves (Recording P written) (x.mapSlot Slot.cleared) r rest y) :
    Answered patience P l peer keepAlive (written ++ w.reply l peer keepAlive r) rest
      (w.execute peer keepAlive y) := by
  obtain ⟨hslot, hreset⟩ := asked_of_leaves hx h
  obtain ⟨stream, hP, hrest⟩ := h.feeds
  rw [← hrest]
  exact execute_answered hD hback hsite hslot hreset hP

/-- A request whose head has been read is answered after the go-ahead and the body. -/
theorem takeBody_of_leaves (hD : Duplex patience P) (hback : w.takesBack = true) (hsite : w.site.IsLocal)
    (hx : x.slot = { Slot.new l with peer := some peer, buffer := b })
    (h : Leaves (Recording P written) (x.mapSlot Slot.cleared) head after y)
    (hbody : Slot.bodyOf? { x.slot with request := head } after = some (r, rest)) :
    Answered patience P l peer keepAlive
      (written ++ ((Response.interim head.version).head ++ w.reply l peer keepAlive r)) rest
      (w.settle peer (takeBody keepAlive y)) := by
  have hreq : y.slot.request = head := by rw [h.slot]
  obtain ⟨stream, hP, hrest⟩ := h.feeds
  obtain ⟨session, hsend, hP'⟩ := send_recording hD hP (Response.interim y.slot.request.version).head
  have hsend : y.sendContinue = (.ok (), { y with session }) := hsend
  rw [hreq] at hP'
  have hz : Leaves (Recording P (written ++ (Response.interim head.version).head))
      (x.mapSlot Slot.cleared) head after { y with session } :=
    ⟨⟨stream, hP', hrest⟩, h.limits, h.slot⟩
  have hread := readBody_of_leaves (feeds_recording hD.feeds _) hz
  rw [hbody] at hread
  obtain ⟨hok, hleaves⟩ := hread
  rw [takeBody, hsend, ← List.append_assoc]
  simp only
  rw [show Link.readBody { y with session } = (.ok (), (Link.readBody { y with session }).2) from
    Prod.ext hok rfl]
  exact execute_of_leaves hD hback hsite hx hleaves

/-- A stream that begins with a request is served by what the request gets. -/
theorem takeIn_answered (hD : Duplex patience P) (hback : w.takesBack = true) (hsite : w.site.IsLocal)
    (hurl : l.maxUrl.toNat < 2 ^ 63) (hheader : l.maxHeader.toNat < 2 ^ 63)
    (hx : x.slot = { Slot.new l with peer := some peer, buffer := b })
    (h : Recording P written x.session stream) (hb : Begins l (b ++ stream) head r rest) :
    Answered patience P l peer (keeps head r) (written ++ w.output l peer head r) rest
      (w.settle peer (takeIn x).2) := by
  have hsame : x.slot.SameLimits (Slot.new l) := by
    rw [hx]
    exact ⟨rfl, rfl, rfl, rfl⟩
  have hbuffer : x.slot.buffer = b := by rw [hx]
  have hfit : AcceptedFits x.slot (b ++ stream) :=
    acceptedFits_of_lt (by rw [hx]; exact hurl) (by rw [hx]; exact hheader) _
  obtain ⟨after, hh, hbody⟩ := hb
  have hbody : Slot.bodyOf? { x.slot with request := head } after = some (r, rest) := by
    rw [← hbody]
    exact bodyOf?_congr (s := { x.slot with request := head })
      (t := { Slot.new l with request := head }) rfl hsame.body hsame.decoder after
  have hread := readRequest_reads (feeds_recording hD.feeds written) h (by rw [hbuffer]; exact hfit)
  rw [hbuffer, headOf?_congr hsame, hh] at hread
  obtain ⟨y, hy, hread⟩ := hread
  have hreq : y.slot.request = head := by rw [hy.slot]
  rw [takeIn, hread]
  by_cases hexp : head.expectContinue = true
  · rw [if_pos hexp]
    simp only [Slot.wantsContinue, hreq]
    by_cases hwaits : waits head = true
    · have hif : (head.expectContinue && head.expectsBody) = true := hwaits
      rw [if_pos hif, Worker.output, keeps, if_pos hwaits, if_pos hwaits]
      exact takeBody_of_leaves hD hback hsite hx hy hbody
    · have hif : ¬ (head.expectContinue && head.expectsBody) = true := hwaits
      -- no body is announced, so that the head is the whole request
      have hnone := expectsBody_of_not_waits hexp hwaits
      obtain ⟨rfl, rfl⟩ := bodyOf?_of_not_expectsBody (s := { x.slot with request := head }) hnone hbody
      rw [if_neg hif, Worker.output, keeps, if_neg hwaits, if_neg hwaits, List.nil_append]
      exact execute_of_leaves hD hback hsite hx hy
  · have hwaits := not_waits hexp
    have hreads := readBody_of_leaves (feeds_recording hD.feeds written) hy
    rw [hbody] at hreads
    obtain ⟨hok, hleaves⟩ := hreads
    have hr : y.readBody.2.slot.request = r := by rw [hleaves.slot]
    have hexp' : r.expectContinue = false := by
      rw [expectContinue_of_bodyOf? hbody]
      simpa using hexp
    rw [if_neg hexp, show y.readBody = (.ok (), y.readBody.2) from Prod.ext hok rfl, Worker.output, keeps,
      if_neg hwaits, if_neg hwaits, List.nil_append]
    simp only [Slot.wantsContinue, hr, hexp', Bool.false_and]
    rw [if_neg Bool.false_ne_true]
    exact execute_of_leaves hD hback hsite hx hleaves

theorem cycle_read (w : Worker) (slot : Slot) (conn : Connection σ) :
    w.cycle slot conn .read =
      (w.settle conn.peer (takeIn (w.opening slot conn)).2).through (takeIn (w.opening slot conn)).1 := rfl

omit [Transport σ] in
theorem opening_slot (w : Worker) {slot : Slot} (hslot : slot.reset = Slot.new l)
    (conn : Connection σ) :
    (w.opening slot conn).slot =
      { Slot.new l with peer := some conn.peer, buffer := conn.pending } := by
  unfold Worker.opening
  rw [hslot]
  rfl

/-- A cycle over a stream that begins with a request serves the request. -/
theorem cycle_answered (hD : Duplex w.patience P) (hback : w.takesBack = true)
    (hsite : w.site.IsLocal) (hurl : l.maxUrl.toNat < 2 ^ 63) (hheader : l.maxHeader.toNat < 2 ^ 63)
    {slot : Slot} (hslot : slot.reset = Slot.new l) {conn : Connection (Recorded σ)}
    (h : Recording P written ⟨conn.transport, w.patience⟩ stream)
    (hb : Begins l (conn.pending ++ stream) head r rest) :
    Answered w.patience P l conn.peer (keeps head r) (written ++ w.output l conn.peer head r) rest
      (w.cycle slot conn .read) := by
  rw [cycle_read]
  exact (takeIn_answered hD hback hsite hurl hheader (opening_slot w hslot conn) h hb).through _

/-- A cycle over a stream that has ended writes nothing and closes the connection. -/
theorem cycle_ended (hD : Duplex w.patience P) (hurl : l.maxUrl.toNat < 2 ^ 63) {slot : Slot}
    (hslot : slot.reset = Slot.new l)
    {conn : Connection (Recorded σ)} (h : Recording P written ⟨conn.transport, w.patience⟩ [])
    (hpending : conn.pending = []) :
    ∃ t, (w.cycle slot conn .read).fate = .closed t ∧ t.written = written := by
  have hbuffer : (w.opening slot conn).slot.buffer = [] := by
    rw [opening_slot w hslot, hpending]
  have hroom : 0 < lineRoom (w.opening slot conn).slot.limits .request := by
    rw [opening_slot w hslot]
    show 0 < lineRoom l .request
    rw [lineRoom_of_lt (by omega)]
    exact Nat.succ_pos _
  obtain ⟨f, y, hf, hread, hrec⟩ :=
    readRequest_ended (feeds_recording hD.feeds written) hroom hbuffer (x := w.opening slot conn) h
  have htransport : f.isTransport = true := by
    rcases hf with rfl | rfl <;> rfl
  refine ⟨y.session.close.2.transport, ?_, ?_⟩
  · rw [cycle_read, takeIn, hread]
    show (w.refuse conn.peer f y).fate = _
    rw [Worker.refuse, if_pos htransport]
    rfl
  · exact (Recorded.written_close y.session.transport).trans hrec.written

end Serving

/-! ## Cycle after cycle -/

/-- Serves a connection in so many cycles at most, taking it up again whenever it is handed back. -/
def Worker.rounds {σ : Type} [Transport σ] (w : Worker) : Nat → Slot → Connection σ → σ
  | 0, _, conn => conn.transport
  | n + 1, slot, conn =>
    match (w.cycle slot conn .read).fate with
    | .closed transport | .dropped transport => transport
    | .handedBack next => w.rounds n (w.cycle slot conn .read).slot next

/-- What a stream holds that consists of requests, one after another: all but the last ask to keep the
connection. -/
inductive Requests (l : Limits) : Bytes → List (Request × Request) → Prop where
  | nil : Requests l [] []
  | cons {stream rest : Bytes} {head r : Request} {more : List (Request × Request)}
      (begins : Begins l stream head r rest) (keep : keeps head r = true ∨ more = [] ∧ rest = [])
      (requests : Requests l rest more) : Requests l stream ((head, r) :: more)

/-- Each cycle serves the next request, and cycles after the last request write nothing. -/
theorem rounds_written (hD : Duplex w.patience P) (hback : w.takesBack = true)
    (hsite : w.site.IsLocal) (hurl : l.maxUrl.toNat < 2 ^ 63) (hheader : l.maxHeader.toNat < 2 ^ 63)
    {slot : Slot} (hslot : slot.reset = Slot.new l) {conn : Connection (Recorded σ)}
    (hpeer : conn.peer = peer) (h : Recording P written ⟨conn.transport, w.patience⟩ stream)
    {requests : List (Request × Request)} (hr : Requests l (conn.pending ++ stream) requests) (n : Nat) :
    (w.rounds n slot conn).written =
      written ++ (requests.take n).flatMap fun q => w.output l peer q.1 q.2 := by
  -- the induction is on the cycles; each takes the next request off the stream
  induction n generalizing slot conn written stream requests with
  | zero => rw [Worker.rounds, List.take_zero, List.flatMap_nil, List.append_nil, ← h.written]
  | succ n ih =>
    rw [Worker.rounds]
    generalize hall : conn.pending ++ stream = all at hr
    cases hr with
    | nil =>
      obtain ⟨hpending, rfl⟩ := List.append_eq_nil_iff.1 hall
      obtain ⟨t, ht, hwritten⟩ := cycle_ended hD hurl hslot h hpending
      rw [ht, List.take_nil, List.flatMap_nil, List.append_nil]
      exact hwritten
    | @cons _ rest head r more begins keep requests =>
      rw [← hall] at begins
      have hcycle := cycle_answered hD hback hsite hurl hheader hslot h begins
      rw [hpeer] at hcycle
      rw [List.take_succ_cons, List.flatMap_cons, ← List.append_assoc]
      by_cases hk : keeps head r = true
      · obtain ⟨next, stream', hfate, hpeer', hrec, hrest⟩ := hcycle.handedBack hk
        rw [hfate]
        rw [← hrest] at requests
        exact ih hcycle.slot hpeer' hrec requests
      · obtain ⟨rfl, rfl⟩ := keep.resolve_left hk
        obtain ⟨t, ht, hwritten⟩ := hcycle.closed (by simpa using hk)
        rw [ht, List.take_nil, List.flatMap_nil, List.append_nil]
        exact hwritten

/-! ## Requests alone and in a row -/

/-- A script that brings some bytes at once, and then the end of the stream. -/
def promptScript (bytes : Bytes) : Script where
  deliveries := if bytes.isEmpty then [] else [.bytes bytes]
  ending := .eof

/-- A new link that gets some bytes at once. -/
def promptLink (l : Limits) (bytes : Bytes) : Link Script where
  slot := .new l
  session := .new (promptScript bytes)

/-- Alone, the bytes are accepted as a request that takes all of them. -/
def IsAccepted (l : Limits) (bytes : Bytes) : Prop :=
  (promptLink l bytes).readWhole.1 = .ok () ∧ (promptLink l bytes).readWhole.2.unread = []

/-- Alone, the request asks to keep the connection, as it has been read: up to the go-ahead if the client waits
for one. -/
def AsksToKeep (l : Limits) (bytes : Bytes) : Prop :=
  (promptLink l bytes).readRequest.2.slot.request.keepAlive = true

/-- What a request gets alone, on a connection of its own that is served by a worker that has not served others:
in one cycle it is answered, and in the next the end of the stream is found. -/
def Worker.alone (w : Worker) (l : Limits) (peer : String) (bytes : Bytes) : Bytes :=
  (w.rounds 2 (.new l) ⟨({ inner := promptScript bytes } : Recorded Script), peer, []⟩).written

section Alone

variable {q : Bytes}

theorem steady_promptScript {patience : Nat} (hp : 0 < patience) (q : Bytes) :
    Script.Steady patience 0 (promptScript q).deliveries := by
  cases q with
  | nil => exact trivial
  | cons b q => exact ⟨hp, List.cons_ne_nil b q, trivial⟩

theorem dataOf_promptScript (q : Bytes) : Script.dataOf (promptScript q).deliveries = q := by
  cases q with
  | nil => rfl
  | cons b q => exact List.append_nil (b :: q)

theorem unread_promptLink (l : Limits) (q : Bytes) : (promptLink l q).unread = q :=
  dataOf_promptScript q

theorem isAccepted_iff (hurl : l.maxUrl.toNat < 2 ^ 63) (hheader : l.maxHeader.toNat < 2 ^ 63) :
    IsAccepted l q ↔ ∃ head r, Begins l q head r [] := by
  have hread := readWhole_steady (x := promptLink l q) hurl hheader
    (steady_promptScript (show 0 < Session.defaultTimeout by decide) q)
  rw [unread_promptLink] at hread
  have hslot : (promptLink l q).slot = Slot.new l := rfl
  rw [hslot] at hread
  refine ⟨?_, ?_⟩
  · intro h
    obtain ⟨hok, hunread⟩ := h
    rcases hr : (Slot.new l).requestOf? q with _ | ⟨r, rest⟩ <;> rw [hr] at hread
    · obtain ⟨f, hf⟩ := hread
      rw [hf] at hok
      exact absurd hok (by simp)
    · obtain rfl : rest = [] := hread.2.2.symm.trans hunread
      obtain ⟨head, hb⟩ := exists_begins hr
      exact ⟨head, r, hb⟩
  · intro h
    obtain ⟨head, r, after, hh, hb⟩ := h
    rw [Slot.requestOf?, hh, Option.bind_some] at hread
    simp only [hb] at hread
    exact ⟨hread.1, hread.2.2⟩

theorem asksToKeep_iff (hurl : l.maxUrl.toNat < 2 ^ 63) (hheader : l.maxHeader.toNat < 2 ^ 63)
    (hb : Begins l q head r rest) : AsksToKeep l q ↔ keeps head r = true := by
  obtain ⟨after, hh, hbody⟩ := hb
  have hF := Script.feeds_brings (promptLink l q).session
  have hsteady := steady_promptScript (show 0 < Session.defaultTimeout by decide) q
  have hread := readRequest_reads (x := promptLink l q) hF ⟨_, rfl, hsteady, dataOf_promptScript q⟩
    (acceptedFits_of_lt hurl hheader _)
  have hstream : (promptLink l q).slot.buffer ++ q = q := rfl
  have hslot : (promptLink l q).slot = Slot.new l := rfl
  rw [hstream, hslot, hh] at hread
  obtain ⟨y, hy, hread⟩ := hread
  rw [AsksToKeep, hread]
  by_cases hexp : head.expectContinue = true
  · have hreq : y.slot.request = head := by rw [hy.slot]
    rw [if_pos hexp, hreq, keeps]
    by_cases hwaits : waits head = true
    · rw [if_pos hwaits]
    · have hnone := expectsBody_of_not_waits hexp hwaits
      have hr := bodyOf?_of_not_expectsBody (s := { Slot.new l with request := head }) hnone hbody
      rw [if_neg hwaits, hr.1]
  · have hwaits := not_waits hexp
    have hreads := readBody_of_leaves hF hy
    rw [hslot, hbody] at hreads
    obtain ⟨-, hleaves⟩ := hreads
    rw [if_neg hexp, keeps, if_neg hwaits, hleaves.slot]

/-- What a request gets alone. -/
theorem alone_eq (hback : w.takesBack = true) (hsite : w.site.IsLocal)
    (hurl : l.maxUrl.toNat < 2 ^ 63) (hheader : l.maxHeader.toNat < 2 ^ 63)
    (hb : Begins l q head r []) : w.alone l peer q = w.output l peer head r := by
  have hpos : 0 < w.patience := Nat.lt_of_lt_of_le Nat.zero_lt_one (Nat.le_max_right _ _)
  have hrec : Recording (Script.BringsAndTakes w.patience) []
      ⟨({ inner := promptScript q } : Recorded Script), w.patience⟩ q :=
    ⟨⟨rfl, steady_promptScript hpos q, dataOf_promptScript q,
      show (none : Option Nat) ≠ some 0 by decide, rfl, hpos⟩, rfl⟩
  have hrequests : Requests l ([] ++ q) [(head, r)] := .cons hb (Or.inr ⟨rfl, rfl⟩) .nil
  have hreset : (Slot.new l).reset = Slot.new l := rfl
  let conn : Connection (Recorded Script) := ⟨{ inner := promptScript q }, peer, []⟩
  have hpeer : conn.peer = peer := rfl
  rw [Worker.alone, rounds_written (Script.duplex_brings w.patience) hback hsite hurl hheader hreset
    hpeer hrec hrequests 2]
  simp

/-- Requests that are accepted alone, put together, are a stream of requests. -/
theorem exists_requests (peer : String) (hback : w.takesBack = true) (hsite : w.site.IsLocal)
    (hurl : l.maxUrl.toNat < 2 ^ 63) (hheader : l.maxHeader.toNat < 2 ^ 63) {qs : List Bytes}
    (hq : ∀ q ∈ qs, IsAccepted l q) (hkeep : ∀ q ∈ qs.dropLast, AsksToKeep l q) :
    ∃ requests, Requests l qs.flatten requests ∧
      requests.map (fun p => w.output l peer p.1 p.2) = qs.map (w.alone l peer) := by
  induction qs with
  | nil => exact ⟨[], .nil, rfl⟩
  | cons q qs ih =>
    have hkeep' : ∀ p ∈ qs.dropLast, AsksToKeep l p := by
      intro p hp
      cases qs with
      | nil => exact absurd hp List.not_mem_nil
      | cons q' qs => exact hkeep p (List.mem_cons_of_mem q hp)
    obtain ⟨requests, hrequests, houtputs⟩ := ih (fun p hp => hq p (List.mem_cons_of_mem q hp)) hkeep'
    obtain ⟨head, r, hb⟩ := (isAccepted_iff hurl hheader).1 (hq q List.mem_cons_self)
    refine ⟨(head, r) :: requests, ?_, ?_⟩
    · have hbegins : Begins l (q ++ qs.flatten) head r qs.flatten := hb.append qs.flatten
      rw [List.flatten_cons]
      refine .cons hbegins ?_ hrequests
      cases qs with
      | nil => exact Or.inr ⟨List.map_eq_nil_iff.1 houtputs, rfl⟩
      | cons q' qs =>
        exact Or.inl ((asksToKeep_iff hurl hheader hb).1 (hkeep q List.mem_cons_self))
    · rw [List.map_cons, List.map_cons, houtputs, alone_eq hback hsite hurl hheader hb]

end Alone

/-- Requests that come in a row on one connection, in whatever pieces, are served as each of them is alone:
after so many cycles the connection has got what as many of the requests get alone, in order, and cycles after
the last request add nothing. -/
theorem pipelined_served_as_alone {w : Worker} {l : Limits} {slot : Slot}
    {conn : Connection (Recorded Script)} {qs : List Bytes} (hback : w.takesBack = true)
    (hsite : w.site.IsLocal) (hurl : l.maxUrl.toNat < 2 ^ 63) (hheader : l.maxHeader.toNat < 2 ^ 63)
    (hslot : slot.reset = Slot.new l) (hq : ∀ q ∈ qs, IsAccepted l q)
    (hkeep : ∀ q ∈ qs.dropLast, AsksToKeep l q)
    (hsteady : Script.Steady w.patience 0 conn.transport.inner.deliveries)
    (htakes : Script.Takes w.patience conn.transport.inner)
    (hstream : conn.pending ++ Script.dataOf conn.transport.inner.deliveries = qs.flatten) (n : Nat) :
    (w.rounds n slot conn).written =
      conn.transport.written ++ ((qs.take n).map (w.alone l conn.peer)).flatten := by
  obtain ⟨requests, hrequests, houtputs⟩ :=
    exists_requests conn.peer hback hsite hurl hheader hq hkeep
  rw [← hstream] at hrequests
  rw [rounds_written (Script.duplex_brings w.patience) hback hsite hurl hheader hslot rfl
    ⟨⟨rfl, hsteady, rfl, htakes⟩, rfl⟩ hrequests n, List.flatMap_def, List.map_take, houtputs,
    List.map_take]

/-- A worker with one service, which sends back what it gets. -/
def echoWorker : Worker where
  site :=
    { settings := {}
      registry :=
        { table := ⟨[⟨{ pattern := "/echo", name := "echo", library := "demo" }, (· == "/echo")⟩]⟩
          libraries := { known := [("demo", [("echo", Route.Canned.service { recipe := some .echo })])] } }
      documents := ⟨"./htdocs", Files.emptyFolder.storage⟩
      date := "Thu, 01 Jan 1970 00:00:00 GMT" }

theorem isLocal_echoWorker : echoWorker.site.IsLocal := by
  refine Site.isLocal_of_known rfl ?_
  intro library hl entry he
  obtain rfl := List.mem_singleton.1 hl
  obtain rfl := List.mem_singleton.1 he
  exact Route.isLocal_canned { recipe := some .echo }

/-- A request whose client waits for the go-ahead, body included. -/
def waitingRequest : Bytes :=
  Text.utf8 "POST /echo HTTP/1.1\r\nExpect: 100-continue\r\nContent-Length: 2\r\n\r\nhi"

/-- A request that does not keep the connection. -/
def lastRequest : Bytes := Text.utf8 "GET / HTTP/1.0\r\n\r\n"

/-- Both requests in a row, cut inside the first line of each. -/
def rowTransport : Recorded Script where
  inner :=
    { deliveries :=
        [.bytes (waitingRequest.take 20), .stall 49, .bytes (waitingRequest.drop 20 ++ lastRequest.take 1),
          .bytes (lastRequest.drop 1)]
      writeMax := some 7 }

theorem waitingRequest_begins :
    ∃ head r, Begins {} waitingRequest head r [] ∧ keeps head r = true := by
  refine ⟨
    { expectContinue := true
      method := .post
      target := "/echo"
      fields := .ofPairs [("Expect", "100-continue"), ("Content-Length", "2")] },
    _, ⟨Text.utf8 "hi", ?_, rfl⟩, ?_⟩
  · decide +kernel
  · decide +kernel

theorem lastRequest_begins : ∃ head r, Begins {} lastRequest head r [] := by
  refine ⟨{ version := .http10, target := "/" }, _, ⟨[], ?_, rfl⟩⟩
  decide +kernel

theorem row_served_as_alone :
    (echoWorker.rounds 3 (.new {}) ⟨rowTransport, "127.0.0.1:4711", []⟩).written =
      echoWorker.alone {} "127.0.0.1:4711" waitingRequest ++
        echoWorker.alone {} "127.0.0.1:4711" lastRequest := by
  obtain ⟨head, r, hb, hk⟩ := waitingRequest_begins
  obtain ⟨head', r', hb'⟩ := lastRequest_begins
  have hurl : (({} : Limits).maxUrl).toNat < 2 ^ 63 := by decide
  have hheader : (({} : Limits).maxHeader).toNat < 2 ^ 63 := by decide
  have hq : ∀ q ∈ [waitingRequest, lastRequest], IsAccepted {} q := by
    intro q hq
    rcases List.mem_cons.1 hq with rfl | hq
    · exact (isAccepted_iff hurl hheader).2 ⟨head, r, hb⟩
    · obtain rfl := List.mem_singleton.1 hq
      exact (isAccepted_iff hurl hheader).2 ⟨head', r', hb'⟩
  have hkeep : ∀ q ∈ [waitingRequest, lastRequest].dropLast, AsksToKeep {} q := by
    intro q hq
    obtain rfl := List.mem_singleton.1 hq
    exact (asksToKeep_iff hurl hheader hb).2 hk
  let conn : Connection (Recorded Script) := ⟨rowTransport, "127.0.0.1:4711", []⟩
  have hstream : conn.pending ++ Script.dataOf conn.transport.inner.deliveries =
      [waitingRequest, lastRequest].flatten := by
    show waitingRequest.take 20 ++ ((waitingRequest.drop 20 ++ lastRequest.take 1) ++
      (lastRequest.drop 1 ++ [])) = waitingRequest ++ (lastRequest ++ [])
    rw [List.append_nil, List.append_nil, List.append_assoc, List.take_append_drop,
      ← List.append_assoc, List.take_append_drop]
  have hreset : (Slot.new {}).reset = Slot.new {} := rfl
  have htakes : Script.Takes echoWorker.patience conn.transport.inner := ⟨by decide, rfl, by decide⟩
  have hnew : conn.transport.written = [] := rfl
  have htake : [waitingRequest, lastRequest].take 3 = [waitingRequest, lastRequest] := rfl
  rw [pipelined_served_as_alone rfl isLocal_echoWorker hurl hheader hreset hq hkeep (by decide) htakes hstream 3,
    hnew, htake, List.map_cons, List.map_singleton, List.flatten_cons, List.flatten_singleton,
    List.nil_append]

end Switchboard.Server
