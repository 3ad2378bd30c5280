import Switchboard.Proofs.Exchange.Endless
import Switchboard.Proofs.Exchange.Offers
import Switchboard.Proofs.Exchange.RoundTrip
import Switchboard.Proofs.Server.Reuse

/-!
The protocol of one request and one answer, over any channel (`cycle_obeys`). A channel may give bytes for ever, so a
cycle over it is run with a meter. Where some meter is long enough the cycle is the same with every longer one, and it
comes back to wait. Otherwise reading goes on for ever (`ends_or_reads_on`), which takes a channel that neither
completes a request nor makes it too long: nothing bounds the line ends before a request, or the name of a chunk
extension (`blankLines_read_on`, `extension_reads_on`). A service may do what it likes to the slot, but it is taken to
return. Time is not looked at: the patience of a session is a number of polls.

Two conditions on the channel are named where they are needed. One that takes something of every write takes the whole
of what is written (`not_unsent`), and if none of its polls and reads stops the program, only a sum of limits that is
no machine word does (`not_dropped`).
-/

namespace Switchboard.Server

open Http
open Exchange
open Readiness (Mask)

variable {σ κ : Type}

/-! ## What stops a cycle, and what keeps it from answering -/

section Intake

variable [Transport σ] {x : Link (Recorded σ)}

/-- Reading in a cycle from the link `x` has come to an outcome. -/
structure Intake.Behaves (x : Link (Recorded σ)) (p : Intake × Link (Recorded σ)) : Prop where
  timeout : p.2.session.timeout = x.session.timeout
  fault : ∀ f, p.1 = .failed f → StopsFor (Recorded σ) x.slot.limits f
  said : Channel.Accepting (Recorded σ) → 0 < x.session.timeout → p.1 ≠ .mute

theorem takeBody_behaves (keepAlive : Bool) (x : Link (Recorded σ)) : Intake.Behaves x (takeBody keepAlive x) := by
  have hsends := x.send_sends (Response.interim x.slot.request.version).head
  have hsent : Channel.Accepting (Recorded σ) → 0 < x.session.timeout → (x.sendContinue).1 = .ok () := by
    intro haccepting hpos
    obtain ⟨session, hsend, -⟩ := send_accepts (accepts_of_accepting haccepting) hpos
      (Response.interim x.slot.request.version).head
    exact congrArg Prod.fst hsend
  unfold takeBody
  change x.Sends _ x.sendContinue at hsends
  rcases hs : x.sendContinue with ⟨f | _, y⟩ <;> rw [hs] at hsends hsent
  · exact ⟨hsends.timeout, fun f hf => absurd hf (by simp), fun ha hpos => absurd (hsent ha hpos) (by simp)⟩
  have hbody := Link.behaves_readBody y
  have hlimits : y.slot.limits = x.slot.limits := congrArg Slot.limits hsends.slot
  simp only
  rcases hb : y.readBody with ⟨f | _, z⟩ <;> rw [hb] at hbody
  · refine ⟨hbody.timeout.trans hsends.timeout, fun g hg => ?_, fun _ _ => by simp⟩
    obtain rfl := Intake.failed.inj hg
    exact hlimits ▸ hbody.fault f rfl
  · exact ⟨hbody.timeout.trans hsends.timeout, fun g hg => absurd hg (by simp), fun _ _ => by simp⟩

theorem takeIn_behaves (x : Link (Recorded σ)) : Intake.Behaves x (takeIn x).2 := by
  have hread := Link.behaves_readRequest x
  unfold takeIn
  rcases hr : x.readRequest with ⟨f | _, y⟩ <;> rw [hr] at hread
  · refine ⟨hread.timeout, fun g hg => ?_, fun _ _ => by simp⟩
    obtain rfl := Intake.failed.inj hg
    exact hread.fault f rfl
  simp only
  split
  · have hbody := takeBody_behaves y.slot.request.keepAlive y
    refine ⟨hbody.timeout.trans hread.timeout, fun f hf => hread.limits ▸ hbody.fault f hf, fun ha hpos => ?_⟩
    exact hbody.said ha (hread.timeout.symm ▸ hpos)
  · exact ⟨hread.timeout, fun g hg => absurd hg (by simp), fun _ _ => by simp⟩

/-- Reading in a cycle goes by the limits of the slot and the patience of the worker. -/
theorem intake_behaves (w : Worker) (slot : Slot) (conn : Connection (Recorded σ)) (mask : Mask) :
    Intake.Behaves (w.opening slot conn) (w.intake slot conn mask) := by
  unfold Worker.intake Worker.reading
  simp only
  split
  · exact ⟨rfl, fun f hf => absurd hf (by simp), fun _ _ => by simp⟩
  split
  · have htimeout := (w.opening slot conn).session.timeout_urgent Worker.urgentAttempts
    rcases hu : (w.opening slot conn).session.urgent Worker.urgentAttempts with ⟨f | _ | b, session⟩ <;>
      rw [hu] at htimeout
    · exact ⟨htimeout, fun f hf => absurd hf (by simp), fun _ _ => by simp⟩
    · exact ⟨htimeout, fun f hf => absurd hf (by simp), fun _ _ => by simp⟩
    · have htaken := takeIn_behaves { w.opening slot conn with session }
      exact ⟨htaken.timeout.trans htimeout, htaken.fault, fun ha hpos =>
        htaken.said ha (Nat.lt_of_lt_of_eq hpos htimeout.symm)⟩
  split
  · exact takeIn_behaves (w.opening slot conn)
  · exact ⟨rfl, fun f hf => absurd hf (by simp), fun _ _ => by simp⟩

end Intake

section Conditions

variable [Transport σ] {w : Worker} {slot : Slot} {conn : Connection (Recorded (Taped σ))} {mask : Mask}

/-- Go-ahead and answer are written whole over a transport that takes something of every write. -/
theorem not_unsent (haccepting : Channel.Accepting (Recorded (Taped σ))) : ¬ w.Unsent slot conn mask := by
  have hintake := intake_behaves w slot conn mask
  have hpos : 0 < (w.opening slot conn).session.timeout := Nat.lt_of_lt_of_le Nat.zero_lt_one (Nat.le_max_right _ 1)
  rintro (hmute | ⟨a, keepAlive, -, f, y, hsend⟩)
  · exact hintake.said haccepting hpos hmute
  · obtain ⟨session, hsent, -⟩ := sendParts_accepts (accepts_of_accepting haccepting)
      (x := { (w.intake slot conn mask).2 with slot := a.complete w.site keepAlive })
      (Nat.lt_of_lt_of_eq hpos hintake.timeout.symm) (a.complete w.site keepAlive).response.head
      (if (a.complete w.site keepAlive).request.method == .head then []
        else (a.complete w.site keepAlive).response.body)
    exact absurd (hsent.symm.trans hsend) (by simp)

/-- A cycle comes back to wait if the sums of limits are machine words and the transport does not stop the program. -/
theorem not_dropped (hsums : SumsFit slot.limits) (hreturns : Channel.Returns (Recorded (Taped σ))) :
    ∀ t, (w.cycle slot conn mask).fate ≠ .dropped t := by
  intro t ht
  obtain ⟨got, goAhead, hobeys⟩ := obeys_due w slot conn mask
  obtain ⟨-, f, hf, hcrash⟩ := hobeys.stopped t ht
  exact (intake_behaves w slot conn mask).fault f hf hcrash hsums hreturns

end Conditions

/-! ## Cycles over channels -/

section Channels

variable [Channel κ]

/-- A connection over a channel of which `n` bytes may be read, with a tape and a record. -/
def Connection.metered (conn : Connection κ) (n : Nat) : Connection (Recorded (Taped (Metered κ))) :=
  ⟨{ inner := { inner := { channel := conn.transport, left := n } } }, conn.peer, conn.pending⟩

/-- The meter of a run is spent. -/
def Run.Spent (r : Run (Recorded (Taped (Metered κ)))) : Prop := r.fate.transport.inner.inner.spent = true

/-- The meter of a round is spent. -/
def Round.Spent (r : Round (Recorded (Taped (Metered κ)))) : Prop :=
  ∃ f, r.fate = some f ∧ f.transport.inner.inner.spent = true

/-- One channel on two meters, the second longer by `k`, with tapes and records that are the same. -/
def Longer (k : Nat) : Recorded (Taped (Metered κ)) → Recorded (Taped (Metered κ)) → Prop :=
  Recorded.Alike (Taped.Alike (Metered.Longer k))

/-- Reading in a cycle has spent the meter. -/
def Exhausted (p : Intake × Link (Recorded (Taped (Metered κ)))) : Prop :=
  Intake.Broken (fun f s => Metered.Spent f s.inner.inner) p

variable (w : Worker) (slot : Slot) (conn : Connection κ) (mask : Mask)

theorem exhausted_or_longer (n k : Nat) :
    Exhausted (w.intake slot (conn.metered n) mask) ∨
      (w.cycle slot (conn.metered n) mask).Alike (Longer k) (w.cycle slot (conn.metered (n + k)) mask) :=
  (cycle_unless (Metered.mirrorsUnless_longer k).taped.recorded w rfl
    (t := (conn.metered n).transport) (u := (conn.metered (n + k)).transport)
    ⟨⟨⟨rfl, rfl⟩, rfl⟩, rfl, rfl, rfl⟩ conn.peer conn.pending mask).imp id And.right

variable {w slot conn mask} {n : Nat}

theorem spent_of_exhausted (h : Exhausted (w.intake slot (conn.metered n) mask)) :
    (w.cycle slot (conn.metered n) mask).Spent ∧ w.due slot (conn.metered n) mask = none ∧
      calls (w.cycle slot (conn.metered n) mask).marks = [] := by
  obtain ⟨f, hf, rfl, hspent⟩ := h
  have hclose : w.settle (conn.metered n).peer (w.intake slot (conn.metered n) mask) =
      Worker.close [] (w.intake slot (conn.metered n) mask).2 := settle_of_intake hf
  have hset : Settled (conn.metered n).peer false [] [] [] False
      (w.intake slot (conn.metered n) mask).2.session.transport
      (w.settle (conn.metered n).peer (w.intake slot (conn.metered n) mask)) := by
    rw [hclose]
    exact close_settled _ [] rfl
  obtain ⟨hset, hfate⟩ := cycle_settled hset
  refine ⟨?_, due_of_failed hf rfl, hset.waits.calls_marks.1⟩
  unfold Run.Spent
  rw [hfate, hclose]
  exact hspent

omit [Channel κ] in
theorem not_spent_of_longer {r s : Run (Recorded (Taped (Metered κ)))} {k : Nat} (h : r.Alike (Longer k) s) :
    ¬ r.Spent := by
  have hfresh : r.fate.transport.inner.inner.spent = false := h.fate.transport.inner.inner.1
  unfold Run.Spent
  rw [hfresh]
  exact Bool.false_ne_true

omit [Channel κ] in
theorem Round.Shows.spent_iff {w : Worker} {size : Nat} {r : Round (Recorded (Taped (Metered κ)))}
    {r' : Run (Recorded (Taped (Metered κ)))} (h : r.Shows w size r') : r.Spent ↔ r'.Spent := by
  constructor
  · rintro ⟨f, hf, hspent⟩
    obtain rfl := Option.some.inj (hf.symm.trans h.fate)
    exact hspent
  · exact fun hspent => ⟨_, h.fate, hspent⟩

/-- A cycle over a channel comes to the same end with every meter that is long enough, or it spends every meter. -/
theorem ends_or_reads_on (w : Worker) (slot : Slot) (conn : Connection κ) (mask : Mask) :
    (∃ n, ¬ (w.cycle slot (conn.metered n) mask).Spent ∧
      ∀ k, (w.cycle slot (conn.metered n) mask).Alike (Longer k) (w.cycle slot (conn.metered (n + k)) mask)) ∨
    ∀ n, (w.cycle slot (conn.metered n) mask).Spent ∧ w.due slot (conn.metered n) mask = none ∧
      calls (w.cycle slot (conn.metered n) mask).marks = [] := by
  by_cases hall : ∀ n, Exhausted (w.intake slot (conn.metered n) mask)
  · exact Or.inr fun n => spent_of_exhausted (hall n)
  · obtain ⟨n, hn⟩ := Classical.not_forall.1 hall
    have halike := fun k => (exhausted_or_longer w slot conn mask n k).resolve_left hn
    exact Or.inl ⟨n, not_spent_of_longer (halike 0), halike⟩

end Channels

/-! ## Channels that never end -/

section Loops

variable {w : Worker} {slot : Slot} {conn : Connection Endless} {n : Nat}

theorem spent_of_readRequest
    (h : Fails (Link.Broken fun f s => Metered.Spent f s.inner.inner) (w.opening slot (conn.metered n)).readRequest) :
    (w.cycle slot (conn.metered n) .read).Spent := by
  refine (spent_of_exhausted ?_).1
  obtain ⟨f, hf, hE⟩ := h.cause
  have htake : w.intake slot (conn.metered n) .read = (takeIn (w.opening slot (conn.metered n))).2 := rfl
  rw [htake, takeIn, hf]
  exact ⟨f, rfl, hE⟩

/-- Line ends before a request are skipped, for ever if no request comes. -/
theorem blankLines_read_on (w : Worker) (hsums : SumsFit slot.limits) (hsize : 2 ≤ slot.limits.readSize)
    (hbytes : conn.transport.bytes = Text.crlf) (hpending : Head.dropBlankLines conn.pending = []) (n : Nat) :
    (w.cycle slot (conn.metered n) .read).Spent := by
  refine spent_of_readRequest ?_
  have hpump : Fails (Link.Broken fun f s => Metered.Spent f s.inner.inner)
      (((w.opening slot (conn.metered n)).mapSlot Slot.cleared).pump (headTest .request)) := by
    refine Endless.pump_endless
      (I := fun s => Head.dropBlankLines s.buffer = [] ∧ s.limits = slot.limits) ?_ ⟨?_, hbytes⟩ ⟨hpending, rfl⟩
    · rintro s ⟨hblank, hlimits⟩
      have htake : Text.crlf.take s.limits.readSize = Text.crlf := by
        rw [hlimits]
        exact List.take_of_length_le hsize
      have hroom : 0 < lineRoom s.limits .request := by
        rw [hlimits, lineRoom_of_lt hsums.line]
        exact Nat.succ_pos _
      refine ⟨{ s with buffer := [] }, (headTest_of_line hblank rfl).trans (if_pos hroom), ?_, ?_, hlimits⟩
      · rw [htake]
        exact List.cons_ne_nil _ _
      · rw [htake]
        rfl
    · exact Nat.lt_of_lt_of_le Nat.zero_lt_one (Nat.le_max_right _ 1)
  obtain ⟨f, hf, hE⟩ := hpump.cause
  rw [readRequest_eq, hf]
  exact .intro hE

/-- The name of a chunk extension is read for ever if it does not end. -/
theorem extension_reads_on (w : Worker) {after : Bytes} {head : Request} {size : Nat} {b : UInt8}
    (hbytes : conn.transport.bytes = [b])
    (hhead : (w.opening slot (conn.metered n)).slot.headOf? conn.pending = some (head, after))
    (hchunked : head.isChunked = true) (hexpect : head.expectContinue = false)
    (hfault : (slot.decoder.start.decode after).fault = none)
    (hphase : (slot.decoder.start.decode after).decoder.phase = .extName size true) (hb : Text.isTokenByte b = true) :
    (w.cycle slot (conn.metered n) .read).Spent := by
  refine spent_of_readRequest ?_
  rw [readRequest_of_chunked hhead hchunked hexpect]
  refine Endless.pump_endless (I := fun s => (s.decoder.decode s.buffer).fault = none ∧
    (s.decoder.decode s.buffer).decoder.phase = .extName size true) ?_ ⟨?_, hbytes⟩ ⟨hfault, hphase⟩
  · rintro s ⟨hfault, hphase⟩
    have htake : ∀ l : Limits, [b].take l.readSize = [b] := fun l =>
      List.take_of_length_le (Link.readSize_pos l)
    have hgoes : (s.decoder.decode s.buffer).decoder.isFinished = false := by
      rw [Chunk.Decoder.isFinished, hphase]
      rfl
    obtain ⟨f, hf, -⟩ | ⟨-, ⟨hfin, -⟩ | ⟨-, ht⟩⟩ := chunkTest_cases .request s
    · rw [hfault] at hf
      exact absurd hf (by simp)
    · rw [hgoes] at hfin
      exact absurd hfin Bool.false_ne_true
    · refine ⟨_, ht, ?_, ?_⟩
      · rw [htake]
        exact List.cons_ne_nil _ _
      · rw [htake]
        exact Chunk.decode_extName hphase hb
  · exact Nat.lt_of_lt_of_le Nat.zero_lt_one (Nat.le_max_right _ 1)

end Loops

/-! ## The protocol -/

/-- A cycle of a task over any channel, with any services, for any readiness, keeps the protocol: with every meter it is
the cycle of its worker on the slot that its registers stand for, and of final responses this writes the one that is
due, and no other. It comes to the same end with every meter that is long enough, or else it reads for ever, and then
no service is called and no final response is written. It comes back to wait if the sums of limits are machine words
and the channel does not stop the program, and what it writes is written whole if the channel takes something of every
write. The scratch area of a task is made of the size that reads have, and keeps it (`Used.reset`). -/
theorem cycle_obeys [Channel κ] (t : Task (Recorded (Taped (Metered κ))))
    (hsize : t.ctx.scratch.length = t.ctx.limits.readSize) (conn : Connection κ) (mask : Mask) :
    (∀ n, (t.runCycle (conn.metered n) mask).Shows t.worker t.ctx.scratch.length
        (t.worker.cycle t.ctx.slot (conn.metered n) mask) ∧
      ∃ got goAhead, Obeys t.worker t.ctx.slot (conn.metered n) mask got goAhead
        (t.worker.finalBytes (t.worker.due t.ctx.slot (conn.metered n) mask))) ∧
    ((∃ n, ¬ (t.runCycle (conn.metered n) mask).Spent ∧
        ∀ k, (t.runCycle (conn.metered n) mask).Alike (Longer k) (t.runCycle (conn.metered (n + k)) mask)) ∨
      ∀ n, (t.runCycle (conn.metered n) mask).Spent ∧ t.worker.due t.ctx.slot (conn.metered n) mask = none ∧
        calls (t.runCycle (conn.metered n) mask).marks = []) ∧
    (SumsFit t.ctx.limits → Channel.Returns κ →
      ∀ n, (t.runCycle (conn.metered n) mask).marks.getLast? = some (.enter .wait)) ∧
    (Channel.Accepting κ → ∀ n, ¬ t.worker.Unsent t.ctx.slot (conn.metered n) mask) := by
  have hshows := fun n => runCycle_shows t hsize (conn.metered n) mask
  have hobeys := fun n => obeys_due t.worker t.ctx.slot (conn.metered n) mask
  refine ⟨fun n => ⟨hshows n, hobeys n⟩, ?_, fun hsums hreturns n => ?_, fun haccepting n => ?_⟩
  · refine (ends_or_reads_on t.worker t.ctx.slot conn mask).imp ?_ fun hall n => ?_
    · rintro ⟨n, hn, halike⟩
      refine ⟨n, fun hspent => hn ((hshows n).spent_iff.1 hspent), fun k => ?_⟩
      have hleft := hshows n
      have hright := hshows (n + k)
      refine ⟨?_, ?_, _, _, hleft.fate, hright.fate, (halike k).fate⟩
      · rw [hleft.marks, hright.marks, (halike k).marks]
      · rw [hleft.slot, hright.slot, (halike k).slot]
    · obtain ⟨hspent, hdue, hcalls⟩ := hall n
      exact ⟨(hshows n).spent_iff.2 hspent, hdue, (congrArg calls (hshows n).marks).trans hcalls⟩
  · obtain ⟨got, goAhead, h⟩ := hobeys n
    rw [(hshows n).marks]
    obtain ⟨u, hu⟩ | hwaits := h.waits
    · exact absurd hu (not_dropped hsums hreturns.metered.taped.recorded u)
    · exact hwaits
  · exact not_unsent haccepting.metered.taped.recorded

/-- A connection on which one request comes after the other, in one read each. -/
def endlessRequests : Connection Endless := ⟨⟨lastRequest⟩, "192.0.2.7:4321", []⟩

theorem endlessRequests_obey :
    let t : Task (Recorded (Taped (Metered Endless))) := .new echoWorker
    t.ctx.scratch.length = t.ctx.limits.readSize ∧ SumsFit t.ctx.limits ∧ Channel.Returns Endless ∧
      Channel.Accepting Endless ∧
      (∃ n, ∀ k, (t.runCycle (endlessRequests.metered n) .read).Alike (Longer k)
        (t.runCycle (endlessRequests.metered (n + k)) .read)) ∧
      (t.runCycle (endlessRequests.metered 100) .read).marks.getLast? = some (.enter .wait) ∧
      ¬ t.worker.Unsent t.ctx.slot (endlessRequests.metered 100) .read := by
  intro t
  have hsize : t.ctx.scratch.length = t.ctx.limits.readSize := List.length_replicate
  have hsums : SumsFit t.ctx.limits := by decide
  obtain ⟨hobeys, hends, hwaits, hsent⟩ := cycle_obeys t hsize endlessRequests .read
  refine ⟨hsize, hsums, Endless.returns, Endless.accepting, ?_, hwaits hsums Endless.returns 100,
    hsent Endless.accepting 100⟩
  obtain ⟨n, -, halike⟩ | hall := hends
  · exact ⟨n, halike⟩
  · have hdue : (t.worker.due t.ctx.slot (endlessRequests.metered 100) .read).isSome = true := by decide +kernel
    rw [(hall 100).2.1] at hdue
    exact absurd hdue (by simp)

/-- A connection on which line ends come for ever. -/
def endlessLines : Connection Endless := ⟨⟨Text.crlf⟩, "192.0.2.7:4321", []⟩

/-- A connection on which the name of a chunk extension has begun, and does not end. -/
def endlessExtension : Connection Endless where
  transport := ⟨Text.utf8 "a"⟩
  peer := "192.0.2.7:4321"
  pending := Text.utf8 "POST /echo HTTP/1.1\r\nTransfer-Encoding: chunked\r\n\r\n1;a"

/-- The worker, with no limit on the length of a target but that of a machine word. -/
def boundlessWorker : Worker :=
  { echoWorker with site := { echoWorker.site with settings := { limits := boundlessLimits } } }

/-- A cycle need not come back to wait: line ends before a request and the name of a chunk extension are read for ever, and
the program stops on a request without an answer if the limits leave no room for what is added to them. -/
theorem cycles_without_return :
    (∀ n, ((Task.new echoWorker).runCycle (endlessLines.metered n) .read).Spent) ∧
      (∀ n, ((Task.new echoWorker).runCycle (endlessExtension.metered n) .read).Spent) ∧
      ((Task.new boundlessWorker).runCycle (endlessRequests.metered 100) .read).marks.getLast? ≠
        some (.enter .wait) ∧
      ((Task.new boundlessWorker).runCycle (endlessRequests.metered 100) .read).written = some [] := by
  have hshows := fun (conn : Connection Endless) n =>
    runCycle_shows (Task.new echoWorker) List.length_replicate (conn.metered n) .read
  refine ⟨fun n => ?_, fun n => ?_, ?_, ?_⟩
  · exact (hshows endlessLines n).spent_iff.2 (blankLines_read_on _ (by decide) (by decide) rfl rfl n)
  · have hhead : (echoWorker.opening (Slot.new {}) (endlessExtension.metered 0)).slot.headOf? endlessExtension.pending =
        some ({ method := .post, target := "/echo", fields := .ofPairs [("Transfer-Encoding", "chunked")] },
          Text.utf8 "1;a") := by decide +kernel
    refine (hshows endlessExtension n).spent_iff.2 ?_
    have hphase : ((Slot.new {}).decoder.start.decode (Text.utf8 "1;a")).decoder.phase = .extName 1 true := by
      decide +kernel
    exact extension_reads_on (b := 97) echoWorker rfl hhead (by decide +kernel) rfl (by decide +kernel) hphase
      (by decide +kernel)
  · decide +kernel
  · decide +kernel

end Switchboard.Server
