import Switchboard.Proofs.Exchange.Room
import Switchboard.Proofs.Server.Protocol

/-!
How much a worker holds of its connections. A connection is handed back with the bytes past the request that was
answered, which are no more than one read gives; so the next cycle starts within the same bound as the first, and the
room that the limits give is never exceeded on a connection, however many cycles it is served in
(`reading_within_room`).
-/

namespace Switchboard.Server

open Http
open Exchange
open Readiness (Mask)

variable {σ : Type} [Transport σ]

/-! ## What is seen of a cycle -/

/-- The slots that reading a request goes through, and after a go-ahead reading its body. -/
def takeInSeen (x : Link σ) : List Slot :=
  x.watchRequest.2 ++
    match x.watchRequest.1 with
    | (.error _, _) => []
    | (.ok (), y) =>
      if y.slot.wantsContinue && y.slot.request.expectsBody then
        match y.sendContinue with
        | (.error _, _) => []
        | (.ok (), z) => z.watchBody.2
      else []

/-- The slots that a cycle goes through while it reads. -/
def Worker.intakeSeen (w : Worker) (slot : Slot) (conn : Connection σ) (mask : Mask) : List Slot :=
  let x := w.opening slot conn
  x.slot ::
    if mask.intersects .error then []
    else if mask.contains .urgent then
      match x.session.urgent urgentAttempts with
      | (.ok (some _), session) => takeInSeen { x with session }
      | _ => []
    else if mask.contains .read then takeInSeen x
    else []

/-- The connections that a worker comes to serve, with the slots it serves them with: one that has just been opened,
and one that was handed back after a cycle. Between two cycles the slot may have served other connections, and the
transport may have changed. -/
inductive Serves (w : Worker) (l : Limits) : Slot → Connection σ → Prop where
  | first {slot : Slot} {conn : Connection σ} (hslot : slot.reset = Slot.new l) (hpending : conn.pending = []) :
    Serves w l slot conn
  | again {slot slot' : Slot} {conn next : Connection σ} (h : Serves w l slot conn) (mask : Mask)
    (hfate : (w.cycle slot conn mask).fate = .handedBack next) (hslot : slot'.reset = Slot.new l) (transport : σ) :
    Serves w l slot' { next with transport }

/-! ## One cycle -/

section Cycle

variable {l : Limits} {w : Worker} {x : Link σ}

/-- A request is taken in within the room. -/
theorem takeIn_sees (hurl : l.maxUrl.toNat < 2 ^ 62) (hheader : l.maxHeader.toNat < 2 ^ 62)
    (hunder : x.slot.Under l) (hbuffer : x.slot.buffer.length ≤ l.readSize) :
    (∀ s ∈ takeInSeen x, InRoom l s) ∧
      ∀ keepAlive y, (takeIn x).2 = (.read keepAlive, y) → ReadInRoom l y.slot := by
  obtain ⟨hall, hout⟩ := watchRequest_sees hurl hheader hunder hbuffer
  unfold takeInSeen takeIn
  rw [← x.watchRequest_fst]
  rcases hr : x.watchRequest.1 with ⟨f | _, y⟩ <;> simp only
  · exact ⟨by simpa using hall, fun _ _ h => absurd (congrArg Prod.fst h) (by simp)⟩
  obtain ⟨hread, hfresh⟩ := hout y hr
  split
  next hwaits =>
    have hfresh := hfresh (Bool.and_eq_true_iff.1 hwaits).1
    unfold takeBody
    have hslot : y.sendContinue.2.slot = y.slot := rfl
    rcases hs : y.sendContinue with ⟨f | _, z⟩ <;> rw [hs] at hslot <;> simp only
    · exact ⟨by simpa using hall, fun _ _ h => absurd (congrArg Prod.fst h) (by simp)⟩
    have hslot : z.slot = y.slot := hslot
    obtain ⟨hbody, hleaves⟩ := watchBody_sees (x := z) (hslot ▸ hfresh)
    refine ⟨fun s hs => ?_, fun keepAlive v h => ?_⟩
    · rcases List.mem_append.1 hs with hs | hs
      · exact hall s hs
      · exact hbody s hs
    · rw [← z.watchBody_fst] at h
      rcases hb : z.watchBody.1 with ⟨f | _, u⟩ <;> rw [hb] at h
      · exact absurd (congrArg Prod.fst h) (by simp)
      · obtain ⟨-, rfl⟩ := Prod.mk.inj h
        obtain ⟨hrequest, hleft⟩ := hleaves u hb
        refine ⟨?_, hleft⟩
        rw [hrequest, hslot]
        exact hread.target
  · refine ⟨by simpa using hall, fun keepAlive v h => ?_⟩
    obtain ⟨-, rfl⟩ := Prod.mk.inj h
    exact hread

omit [Transport σ] in
/-- A cycle begins with no more than what came past the last request. -/
theorem fresh_opening (w : Worker) {slot : Slot} {conn : Connection σ} (hslot : slot.reset = Slot.new l)
    (hpending : conn.pending.length ≤ l.readSize) : Fresh l (w.opening slot conn).slot := by
  unfold Worker.opening
  rw [hslot]
  refine ⟨⟨rfl, rfl⟩, rfl, ?_⟩
  show ([] ++ conn.pending).length ≤ _
  rw [List.nil_append]
  exact hpending

/-- A cycle reads within the room. -/
theorem intake_sees (hurl : l.maxUrl.toNat < 2 ^ 62) (hheader : l.maxHeader.toNat < 2 ^ 62) {slot : Slot}
    {conn : Connection σ} (hslot : slot.reset = Slot.new l) (hpending : conn.pending.length ≤ l.readSize)
    (mask : Mask) :
    (∀ s ∈ w.intakeSeen slot conn mask, InRoom l s) ∧
      ∀ keepAlive y, w.intake slot conn mask = (.read keepAlive, y) → ReadInRoom l y.slot := by
  have hfresh := fresh_opening w hslot hpending
  have htake := fun session : Session σ =>
    takeIn_sees (x := { w.opening slot conn with session }) hurl hheader hfresh.under hfresh.buffer
  unfold Worker.intakeSeen Worker.intake Worker.reading
  simp only [List.mem_cons, forall_eq_or_imp, hfresh.inRoom, true_and]
  split
  · exact ⟨by simp, fun _ _ h => absurd (congrArg Prod.fst h) (by simp)⟩
  split
  · rcases (w.opening slot conn).session.urgent Worker.urgentAttempts with ⟨f | _ | b, session⟩
    · exact ⟨by simp, fun _ _ h => absurd (congrArg Prod.fst h) (by simp)⟩
    · exact ⟨by simp, fun _ _ h => absurd (congrArg Prod.fst h) (by simp)⟩
    · exact htake session
  split
  · exact htake (w.opening slot conn).session
  · exact ⟨by simp, fun _ _ h => absurd (congrArg Prod.fst h) (by simp)⟩

/-! ## What is handed back -/

variable {peer : String}

/-- A connection that is handed back after an answer has the bytes past the request pending. -/
theorem pending_of_deliver {keepAlive : Bool} {a : Answer} {next : Connection σ}
    (h : (w.deliver peer keepAlive a x).fate = .handedBack next) :
    keepAlive = true ∧ next.pending = a.slot.buffer := by
  have hslot := Link.slot_sendParts (a.complete w.site keepAlive).response.head
    (if (a.complete w.site keepAlive).request.method == .head then []
      else (a.complete w.site keepAlive).response.body) ⟨a.complete w.site keepAlive, x.session⟩
  unfold Worker.deliver Link.sendResponse at h
  simp only at h
  rcases hs : Link.sendParts ⟨a.complete w.site keepAlive, x.session⟩ _ _ with ⟨f | _, y⟩ <;> rw [hs] at h hslot
  · exact absurd h (by simp [Worker.close, Run.through])
  have hslot : y.slot = a.complete w.site keepAlive := hslot
  have hbuffer : y.slot.buffer = a.slot.buffer := by
    rw [hslot]
    rfl
  unfold Worker.conclude at h
  cases keepAlive with
  | false => exact absurd h (by simp [Worker.close, Run.through])
  | true =>
    refine ⟨rfl, ?_⟩
    by_cases hback : w.takesBack = true
    · simp only [hback, if_true] at h
      obtain rfl := Fate.handedBack.inj h
      exact hbuffer
    · simp only [hback] at h
      exact absurd h (by simp [Worker.close, Run.through, Run.after])

/-- A connection is handed back only after its request was read and answered, with the bytes past the request. -/
theorem pending_of_cycle (hsite : w.site.LeavesRest) {slot : Slot} {conn next : Connection σ} {mask : Mask}
    (h : (w.cycle slot conn mask).fate = .handedBack next) :
    ∃ y, w.intake slot conn mask = (.read true, y) ∧ next.pending = y.slot.buffer := by
  obtain ⟨marks, -, hcycle⟩ := cycle_eq w slot conn mask
  rw [hcycle] at h
  rcases hi : w.intake slot conn mask with ⟨_ | _ | f | keepAlive, y⟩ <;> rw [hi] at h
  · exact absurd h (by simp [Worker.settle, Worker.close, Run.through])
  · exact absurd h (by simp [Worker.settle, Worker.close, Run.through])
  · have h : (w.refuse conn.peer f y).fate = .handedBack next := h
    unfold Worker.refuse at h
    split at h
    · exact absurd h (by simp [Worker.close])
    split at h
    · exact absurd h (by simp [Worker.drop])
    · exact absurd (pending_of_deliver h).1 Bool.false_ne_true
  · have h : (w.deliver conn.peer keepAlive (answer w.site y.slot) y).fate = .handedBack next := h
    obtain ⟨rfl, hpending⟩ := pending_of_deliver h
    exact ⟨y, rfl, hpending.trans (buffer_answer hsite y.slot)⟩

end Cycle

/-! ## Many cycles -/

section Cycles

variable {l : Limits} {w : Worker} {slot : Slot} {conn : Connection σ}

theorem Serves.reset (h : Serves w l slot conn) : slot.reset = Slot.new l := by
  cases h with
  | first hslot _ => exact hslot
  | again _ _ _ hslot _ => exact hslot

/-- However often a connection was handed back, no more is pending than one read gives. -/
theorem Serves.pending_le (hurl : l.maxUrl.toNat < 2 ^ 62) (hheader : l.maxHeader.toNat < 2 ^ 62)
    (hsite : w.site.LeavesRest) (h : Serves w l slot conn) : conn.pending.length ≤ l.readSize := by
  induction h with
  | first _ hpending =>
    rw [hpending]
    exact Nat.zero_le _
  | again h mask hfate _ _ ih =>
    obtain ⟨y, hintake, hpending⟩ := pending_of_cycle hsite hfate
    show List.length _ ≤ _
    rw [hpending]
    exact ((intake_sees hurl hheader h.reset ih mask).2 true y hintake).buffer

/-- However a transport behaves, reading a request stays within the room that the limits give, if no more is in the
buffer at first than one read gives: so do the body that is read after a go-ahead, and every cycle of a connection,
however often it was handed back. A request that was read has a target within its limit and leaves no more in the
buffer than one read gives. -/
theorem reading_within_room {l : Limits} (hurl : l.maxUrl.toNat < 2 ^ 62) (hheader : l.maxHeader.toNat < 2 ^ 62) :
    (∀ {σ : Type} [Transport σ] (x : Link σ), x.slot.reset = Slot.new l → x.slot.buffer.length ≤ l.readSize →
      x.watchRequest.1 = x.readRequest ∧ (∀ s ∈ x.watchRequest.2, InRoom l s) ∧
        ∀ y, x.readRequest = (.ok (), y) → ReadInRoom l y.slot ∧
          (y.slot.request.expectContinue = true → ∀ {τ : Type} [Transport τ] (session : Session τ),
            let z : Link τ := ⟨y.slot, session⟩
            z.watchBody.1 = z.readBody ∧ (∀ s ∈ z.watchBody.2, InRoom l s) ∧
              ∀ v, z.readBody = (.ok (), v) → ReadInRoom l v.slot)) ∧
    ∀ {σ : Type} [Transport σ] (w : Worker) (slot : Slot) (conn : Connection σ), w.site.LeavesRest →
      Serves w l slot conn → conn.pending.length ≤ l.readSize ∧
        ∀ mask, (∀ s ∈ w.intakeSeen slot conn mask, InRoom l s) ∧
          ∀ keepAlive y, w.intake slot conn mask = (.read keepAlive, y) → ReadInRoom l y.slot := by
  refine ⟨fun {σ} _ x hslot hbuffer => ?_, fun {σ} _ w slot conn hsite h => ?_⟩
  · obtain ⟨hall, hout⟩ := watchRequest_sees (x := x) hurl hheader (Slot.under_of_reset hslot) hbuffer
    refine ⟨x.watchRequest_fst, hall, fun y hy => ?_⟩
    rw [← x.watchRequest_fst] at hy
    obtain ⟨hread, hfresh⟩ := hout y hy
    refine ⟨hread, fun hexpect {τ} _ session => ?_⟩
    obtain ⟨hbody, hleaves⟩ := watchBody_sees (x := (⟨y.slot, session⟩ : Link τ)) (hfresh hexpect)
    refine ⟨Link.watchBody_fst _, hbody, fun v hv => ?_⟩
    rw [← Link.watchBody_fst] at hv
    obtain ⟨hrequest, hleft⟩ := hleaves v hv
    refine ⟨?_, hleft⟩
    rw [hrequest]
    exact hread.target
  · have hpending := h.pending_le hurl hheader hsite
    exact ⟨hpending, intake_sees hurl hheader h.reset hpending⟩

end Cycles

/-- Two requests that come at once: the second is pending after the first, and both are read within the room. -/
theorem row_within_room :
    (∀ s ∈ (promptLink {} (waitingRequest ++ lastRequest)).watchRequest.2, InRoom {} s) ∧
      ∃ next : Connection Script,
        (echoWorker.cycle (.new {}) ⟨promptScript (waitingRequest ++ lastRequest), "127.0.0.1:4711", []⟩ .read).fate =
            .handedBack next ∧
          next.pending = lastRequest ∧ ∀ s ∈ echoWorker.intakeSeen (.new {}) next .read, InRoom {} s := by
  have hurl : (({} : Limits).maxUrl).toNat < 2 ^ 62 := by decide
  have hheader : (({} : Limits).maxHeader).toNat < 2 ^ 62 := by decide
  obtain ⟨hlink, hconn⟩ := reading_within_room hurl hheader
  refine ⟨(hlink _ rfl (Nat.zero_le _)).2.1, ?_⟩
  have hpending : (match (echoWorker.cycle (.new {})
      ⟨promptScript (waitingRequest ++ lastRequest), "127.0.0.1:4711", []⟩ .read).fate with
      | .closed _ | .dropped _ => none
      | .handedBack next => some next.pending) = some lastRequest := by decide +kernel
  have hfirst : Serves echoWorker {} (.new {})
      (⟨promptScript (waitingRequest ++ lastRequest), "127.0.0.1:4711", []⟩ : Connection Script) :=
    .first rfl rfl
  rcases hfate : (echoWorker.cycle (.new {})
    ⟨promptScript (waitingRequest ++ lastRequest), "127.0.0.1:4711", []⟩ .read).fate with t | next | t <;>
    rw [hfate] at hpending
  · exact absurd hpending (by simp)
  · refine ⟨next, rfl, Option.some.inj hpending, ?_⟩
    exact ((hconn echoWorker _ _ isLocal_echoWorker.leavesRest (.again hfirst .read hfate rfl next.transport)).2
      .read).1
  · exact absurd hpending (by simp)

end Switchboard.Server
