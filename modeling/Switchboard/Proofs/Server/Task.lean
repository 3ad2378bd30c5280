import Switchboard.Proofs.Exchange.Context
import Switchboard.Server.Task

/-!
A task does what its worker does. The stages are gone through backwards: from a stage on, a task that serves a link
(`Task.Serves`) leaves the marks that the worker leaves from there on, and comes to the same fate (`Round.Shows`). Up to the
service the registers are sound; a service may leave any slot, and after it the registers are only written, until the
next connection is taken. So a whole cycle on a task, whatever its registers held before, is the cycle of its worker on
the slot that the registers stand for (`runCycle_shows`).
-/

namespace Switchboard.Server

open Exchange (Context Link Port RequestRegisters Session Slot Transport)
open Readiness (Mask)
open Http

variable {σ : Type}

/-- A round with some marks before its marks, and a fate that was come to before. -/
def Round.behind (marks : List Mark) (fate : Option (Fate σ)) (r : Round σ) : Round σ :=
  ⟨marks ++ r.marks, r.task, fate <|> r.fate⟩

/-- The task `t` serves the link `x`, for a worker and with a scratch area of some size. -/
structure Task.Serves (w : Worker) (size : Nat) (peer : String) (t : Task σ) (x : Link σ) : Prop where
  worker : t.worker = w
  size : t.ctx.scratch.length = size
  session : t.session = some x.session
  peer : t.peer = some peer
  slot : t.ctx.slot = x.slot
  request : t.ctx.request.Sound

/-- A round of a task is a run of its worker, and leaves a scratch area of this size. -/
structure Round.Shows (w : Worker) (size : Nat) (r : Round σ) (r' : Run σ) : Prop where
  worker : r.task.worker = w
  size : r.task.ctx.scratch.length = size
  marks : r.marks = r'.marks
  slot : r.task.ctx.slot = r'.slot
  fate : r.fate = some r'.fate

namespace Round.Shows

variable {w : Worker} {size : Nat} {r : Round σ} {r' : Run σ}

theorem behind (h : r.Shows w size r') (marks : List Mark) :
    (r.behind marks none).Shows w size (r'.through marks) :=
  ⟨h.worker, h.size, congrArg (marks ++ ·) h.marks, h.slot, h.fate⟩

theorem after (h : r.Shows w size r') (m : Mark) : (r.behind [m] none).Shows w size (r'.after m) := h.behind [m]

end Round.Shows

variable [Transport σ] {w : Worker} {size : Nat} {peer : String} {t : Task σ} {x : Link σ}

/-! ## Runs by steps -/

/-- What comes of a turn when the task runs on. -/
def Turn.rest (turn : Turn σ) : Round σ :=
  match turn.next with
  | none => ⟨turn.marks, turn.task, turn.fate⟩
  | some next => (turn.task.run next).behind turn.marks turn.fate

theorem run_wait (t : Task σ) : t.run .wait = ⟨[.enter .wait], t, none⟩ := by
  rw [Task.run, dif_pos rfl]

theorem run_step (t : Task σ) {s : Stage} (hs : s ≠ .wait) :
    t.run s = (t.step s).rest.behind [.enter s] none := by
  rw [Task.run, dif_neg hs, Turn.rest]
  dsimp only
  split <;> rename_i hn <;> simp only [hn] <;> rfl

theorem rest_go (t : Task σ) (s : Stage) : (t.go s).rest = t.run s := rfl

/-- A mark that is left before the marks of a turn. -/
theorem rest_mark (turn : Turn σ) (m : Mark) :
    Turn.rest { turn with marks := m :: turn.marks } = turn.rest.behind [m] none := by
  obtain ⟨t, next, marks, fate⟩ := turn
  cases next <;> rfl

/-! ## Ends -/

theorem shows_close (h : t.Serves w size peer x) :
    (t.run .close).Shows w size
      (Worker.close (if t.responded then [.access (.ofSlot peer x.slot)] else []) x) := by
  have haccess : t.access = .access (.ofSlot peer x.slot) := by
    rw [Task.access, h.peer, h.slot]
    rfl
  rw [run_step t (by decide)]
  show (Turn.rest t.connClose |>.behind _ none).Shows w size _
  rw [Turn.rest]
  unfold Task.connClose
  rw [haccess, h.session]
  simp only [run_wait]
  exact ⟨h.worker, h.size, rfl, h.slot, rfl⟩

theorem shows_close_unlogged (h : t.Serves w size peer x) (hr : t.responded = false) :
    (t.run .close).Shows w size (Worker.close [] x) := by
  have hclose := shows_close h
  rwa [hr] at hclose

/-- After an answer was written the connection is handed back or closed. -/
theorem shows_conclude (h : t.Serves w size peer x) (hr : t.responded = true) (keepAlive : Bool) :
    (t.run (if keepAlive then .keepAlive else .close)).Shows w size (w.conclude peer keepAlive x) := by
  have haccess : t.access = .access (.ofSlot peer x.slot) := by
    rw [Task.access, h.peer, h.slot]
    rfl
  cases keepAlive with
  | false =>
    have hclose := shows_close h
    rw [hr] at hclose
    exact hclose
  | true =>
    have hslot : (t.ctx.takePending).2.slot = x.slot.takePending.2 := by
      rw [← h.slot]
      rfl
    have hpending : (t.ctx.takePending).1 = x.slot.takePending.1 := congrArg Slot.buffer h.slot
    show (t.run .keepAlive).Shows w size _
    rw [run_step t (by decide)]
    refine Round.Shows.after ?_ _
    show (Turn.rest t.connKeepAlive).Shows w size _
    unfold Task.connKeepAlive
    rw [h.session, h.peer, haccess, h.worker]
    cases hback : w.takesBack with
    | true =>
      simp only [if_true, Turn.rest, run_wait]
      refine ⟨rfl, h.size, rfl, hslot, ?_⟩
      rw [hpending]
      rfl
    | false =>
      simp only [Bool.false_eq_true, if_false, Turn.rest]
      have hserves : Task.Serves w size peer
          { t with
            worker := w
            ctx := t.ctx.takePending.2
            session := some (Session.new x.session.transport)
            peer := some peer
            responded := false }
          ⟨x.slot.takePending.2, Session.new x.session.transport⟩ := ⟨rfl, h.size, rfl, rfl, hslot, h.request⟩
      exact (shows_close_unlogged hserves rfl).after _

/-! ## Answers -/

/-- A complete answer is written as the worker writes it. -/
theorem shows_pack (h : t.Serves w size peer x) (hr : t.responded = false) :
    (t.run .pack).Shows w size
      (Run.after (.enter .pack) (match x.sendResponse (x.slot.request.method == .head) with
        | (.error _, x) => Worker.close [] x
        | (.ok (), x) => w.conclude peer t.keepAlive x)) := by
  obtain ⟨slot, session⟩ := x
  obtain ⟨rfl, rfl, hsession, hpeer, rfl, hrequest⟩ := h
  have hhead : (t.ctx.slot.request.method == .head) = (t.ctx.request.method == .head) := rfl
  obtain ⟨hsend, hctx⟩ := Port.sendParts_link ⟨t.ctx, session⟩ t.ctx.response.head
    (if t.ctx.request.method == .head then [] else t.ctx.response.body)
  have hlink : Link.sendResponse ⟨t.ctx.slot, session⟩ (t.ctx.request.method == .head) =
      ((Port.packResponse ⟨t.ctx, session⟩ (t.ctx.request.method == .head)).1,
        (Port.packResponse ⟨t.ctx, session⟩ (t.ctx.request.method == .head)).2.link) := hsend
  rw [run_step t (by decide)]
  refine Round.Shows.after ?_ _
  show (Turn.rest t.httpPack).Shows t.worker _ _
  unfold Task.httpPack
  rw [hsession, hhead, hlink]
  dsimp only
  have hctx : (Port.packResponse ⟨t.ctx, session⟩ (t.ctx.request.method == .head)).2.ctx =
      t.ctx.packHead t.ctx.response.head := hctx
  generalize Port.packResponse ⟨t.ctx, session⟩ (t.ctx.request.method == .head) = p at hctx ⊢
  obtain ⟨r, ctx, session'⟩ := p
  obtain rfl : ctx = t.ctx.packHead t.ctx.response.head := hctx
  rcases r with f | _
  · exact shows_close_unlogged
      (t := { t.withPort ⟨t.ctx.packHead t.ctx.response.head, session'⟩ with keepAlive := false })
      (x := ⟨t.ctx.slot, session'⟩) ⟨rfl, rfl, rfl, hpeer, rfl, hrequest⟩ hr
  · exact shows_conclude (t := { t.withPort ⟨t.ctx.packHead t.ctx.response.head, session'⟩ with responded := true })
      (x := ⟨t.ctx.slot, session'⟩) ⟨rfl, rfl, rfl, hpeer, rfl, hrequest⟩ rfl t.keepAlive

/-- A task whose registers hold an answer completes it and writes it. -/
theorem shows_deliver {a : Answer} (ha : a.marks = []) (h : t.Serves w size peer ⟨a.slot, x.session⟩)
    (hr : t.responded = false) :
    (t.run (.ofClass a.way)).Shows w size (w.deliver peer t.keepAlive a x) := by
  obtain ⟨slot, marks, way⟩ := a
  obtain ⟨rfl, rfl, hsession, hpeer, rfl, hrequest⟩ := h
  obtain rfl : marks = [] := ha
  have hpack := fun f => shows_pack (t := t.mapResponse f) (x := ⟨mapResponse f t.ctx.slot, x.session⟩)
    ⟨rfl, rfl, hsession, hpeer, rfl, hrequest⟩ hr
  let finish := completeResponse t.worker.site t.keepAlive t.ctx.request.version
  cases way with
  | success =>
    rw [run_step t (by simp [Stage.ofClass])]
    exact Round.Shows.after (hpack finish) _
  | redirection =>
    rw [run_step t (by simp [Stage.ofClass])]
    exact Round.Shows.after (hpack finish) _
  | clientError =>
    rw [run_step t (by simp [Stage.ofClass])]
    exact Round.Shows.after (hpack (finish ∘ withPage)) _
  | serverError =>
    rw [run_step t (by simp [Stage.ofClass])]
    exact Round.Shows.after (hpack (finish ∘ withPage)) _

omit [Transport σ] in
theorem Task.Serves.mapResponse (h : t.Serves w size peer x) (f : Response → Response) :
    (t.mapResponse f).Serves w size peer { x with slot := Server.mapResponse f x.slot } := by
  obtain ⟨slot, session⟩ := x
  obtain ⟨rfl, rfl, hsession, hpeer, rfl, hrequest⟩ := h
  exact ⟨rfl, rfl, hsession, hpeer, rfl, hrequest⟩

theorem shows_fail (h : t.Serves w size peer x) (hr : t.responded = false) (status : Status) :
    (t.fail status).rest.Shows w size (w.deliver peer t.keepAlive (failWith status x.slot) x) := by
  have hway : (if status.isServerError then Stage.serverError else .clientError) = .ofClass (failureWay status) := by
    unfold failureWay
    split <;> rfl
  rw [Task.fail, hway, rest_go]
  exact shows_deliver (a := failWith status x.slot) rfl (h.mapResponse _) hr

/-- The document of the requested path is read as the worker reads it. -/
theorem shows_httpStatic (h : t.Serves w size peer x) (hr : t.responded = false) :
    t.httpStatic.rest.Shows w size (w.deliver peer t.keepAlive (documentAnswer w.site x.slot) x) := by
  have hpath : t.ctx.request.path = x.slot.request.path := by
    rw [h.request.path, ← h.slot]
    rfl
  unfold Task.httpStatic documentAnswer
  rw [h.worker, hpath]
  rcases w.site.documents.read x.slot.request.path with ⟨r, content⟩
  have hread := h.mapResponse fun r => { r with body := r.body ++ content }
  rcases r with f | type
  · exact shows_fail hread hr (fileStatus f)
  · have htyped := hread.mapResponse fun r => { r with fields := withMediaType type r.fields }
    exact shows_deliver (a := ⟨_, [], .success⟩) rfl htyped hr

theorem deliver_after (w : Worker) (peer : String) (keepAlive : Bool) (a : Answer) (m : Mark) (x : Link σ) :
    w.deliver peer keepAlive (a.after m) x = (w.deliver peer keepAlive a x).after m := rfl

/-- What came of serving the path is answered as the worker answers it. -/
theorem shows_served (h : t.Serves w size peer x) (hr : t.responded = false) (o : Route.Outcome) :
    (t.served o).rest.Shows w size (w.deliver peer t.keepAlive (outcomeAnswer w.site x.slot o) x) := by
  cases o with
  | ok =>
    have hstatus : t.ctx.response.status = x.slot.response.status := congrArg (·.response.status) h.slot
    unfold Task.served outcomeAnswer serviceAnswer
    dsimp only
    rw [hstatus]
    split
    · exact shows_deliver (a := ⟨x.slot, [], x.slot.response.status.classify⟩) rfl h hr
    · have hok := h.mapResponse (·.setStatus .ok)
      exact shows_deliver (a := ⟨_, [], x.slot.response.status.classify⟩) rfl hok hr
  | notFound =>
    have hmethod : t.ctx.request.method = x.slot.request.method := congrArg (·.request.method) h.slot
    unfold Task.served outcomeAnswer unroutedAnswer
    dsimp only
    rw [hmethod]
    cases x.slot.request.method with
    | get =>
      dsimp only
      rw [rest_go, run_step t (by decide), deliver_after]
      exact (shows_httpStatic h hr).after (.enter .getFile)
    | head =>
      dsimp only
      rw [rest_go, run_step t (by decide), deliver_after]
      exact (shows_httpStatic h hr).after (.enter .headFile)
    | _ => exact shows_fail h hr .notFound
  | unsupported => exact shows_fail h hr .notImplemented
  | serviceError code => exact shows_fail h hr .internalServerError
  | noSuchLibrary => exact shows_fail h hr .internalServerError

omit [Transport σ] in
/-- A service may leave any slot. -/
theorem Task.Serves.put (h : t.Serves w size peer x) (left : Slot) :
    { t with ctx := t.ctx.put left }.Serves w size peer { x with slot := left } :=
  ⟨h.worker, h.size, h.session, h.peer, t.ctx.slot_put left, RequestRegisters.sound_setTarget _ _⟩

/-- The service is found and run as the worker does, and is shown the same slot. -/
theorem shows_execute (h : t.Serves w size peer x) (hr : t.responded = false) :
    (t.run .execute).Shows w size (w.execute peer t.keepAlive x) := by
  rw [run_step t (by decide)]
  refine Round.Shows.after ?_ _
  show (Turn.rest t.execService).Shows w size _
  have hstart := h.mapResponse (·.setStatus .ok)
  have hmethod : (t.mapResponse (·.setStatus .ok)).ctx.request.method =
      (mapResponse (·.setStatus .ok) x.slot).request.method := congrArg (·.request.method) h.slot
  have hpath : (t.mapResponse (·.setStatus .ok)).ctx.request.path =
      (mapResponse (·.setStatus .ok) x.slot).request.path := by
    refine hstart.request.path.trans ?_
    exact congrArg (·.request.path) hstart.slot
  have hkeep : (t.mapResponse (·.setStatus .ok)).keepAlive = t.keepAlive := rfl
  have hquiet : (t.mapResponse (·.setStatus .ok)).responded = false := hr
  unfold Task.execService answer routedAnswer
  dsimp only
  rw [hmethod, hpath, hstart.slot, ← hkeep]
  generalize t.mapResponse (·.setStatus .ok) = t', mapResponse (·.setStatus .ok) x.slot = slot at hstart hquiet ⊢
  obtain rfl := hstart.worker
  cases slot.request.method.isDispatchable with
  | false =>
    have hrefused := hstart.mapResponse (·.setStatus .methodNotAllowed)
    exact shows_deliver (a := ⟨_, [], .clientError⟩) rfl hrefused hquiet
  | true =>
    rcases t'.worker.site.registry.resolve slot.request.path with o | service
    · exact shows_served hstart hquiet o
    · dsimp only
      rcases service t'.worker.site.registry.table slot with ⟨left, code⟩
      have hserved := shows_served (hstart.put left) hquiet (.ofCode code)
      simp only [Bool.not_true, Bool.false_eq_true, if_false, if_true, rest_mark, deliver_after]
      exact hserved.after (.call slot)

/-! ## Reading -/

theorem shows_clientFailure (h : t.Serves w size peer x) (hr : t.responded = false) (f : Fault) :
    (t.clientFailure f).rest.Shows w size (w.refuse peer f x) := by
  unfold Task.clientFailure Worker.refuse
  split
  · exact shows_close_unlogged h hr
  split
  · unfold Task.stop Turn.rest
    rw [h.session]
    exact ⟨h.worker, h.size, rfl, h.slot, rfl⟩
  · have hstatus := h.mapResponse (·.setStatus ⟨f.statusCodeOf⟩)
    have hway : (if f.statusCodeOf ≥ 500 then Stage.serverError else .clientError) =
        .ofClass (faultAnswer f x.slot).way := by
      unfold faultAnswer
      dsimp only
      split <;> rfl
    rw [hway, rest_go]
    exact shows_deliver (t := { t with keepAlive := false }.mapResponse (·.setStatus ⟨f.statusCodeOf⟩))
      (a := faultAnswer f x.slot) rfl ⟨hstatus.worker, hstatus.size, hstatus.session, hstatus.peer, hstatus.slot,
        hstatus.request⟩ hr

omit [Transport σ] in
theorem Task.Serves.withPort (h : t.Serves w size peer x) (hs : t.ctx.Sound) {y : Port σ} (hy : y.ctx.Sound)
    (hlimits : y.link.slot.limits = x.slot.limits) : (t.withPort y).Serves w size peer y.link := by
  have hkept : y.ctx.limits = t.ctx.limits := hlimits.trans (congrArg (·.limits) h.slot).symm
  have hsize : y.ctx.scratch.length = size := by
    rw [hy.scratch, hkept, ← hs.scratch, h.size]
  exact ⟨h.worker, hsize, rfl, h.peer, rfl, hy.request⟩

/-- Telling the client to go ahead, the task reads the body as the worker does. -/
theorem shows_shake (h : t.Serves w size peer x) (hs : t.ctx.Sound) (hr : t.responded = false) :
    (t.run .shake).Shows w size ((w.settle peer (takeBody t.keepAlive x)).after (.enter .shake)) := by
  have hlink : Port.link ⟨t.ctx, x.session⟩ = x := congrArg (Link.mk · x.session) h.slot
  have hsend := Port.follows_packContinue (x := ⟨t.ctx, x.session⟩) hs
  have hkept : x.sendContinue.2.slot = x.slot := rfl
  rw [hlink] at hsend
  rw [run_step t (by decide)]
  refine Round.Shows.after ?_ _
  show (Turn.rest t.httpShake).Shows w size _
  unfold Task.httpShake takeBody
  rw [h.session]
  dsimp only
  generalize Port.packContinue ⟨t.ctx, x.session⟩ = p, x.sendContinue = q at hsend hkept ⊢
  obtain @⟨r, y, hy⟩ := hsend
  have hserves := h.withPort hs hy (congrArg Slot.limits hkept)
  rcases r with f | _
  · exact shows_close_unlogged hserves hr
  have hread := Port.follows_readBody hy
  have hreceives := Link.receives_readBody y.link
  dsimp only
  generalize y.readBody = p, y.link.readBody = q at hread hreceives ⊢
  obtain @⟨r, z, hz⟩ := hread
  have hserves' := hserves.withPort (t := t.withPort y) hy hz hreceives.limits
  rcases r with f | _
  · exact shows_clientFailure (t := t.withPort z) hserves' hr f
  · exact shows_execute (t := t.withPort z) hserves' hr

/-- Reading the request, the task goes on as the worker does with what it has taken in. -/
theorem shows_parse (h : t.Serves w size peer x) (hs : t.ctx.Sound) (hr : t.responded = false) :
    (t.run .parse).Shows w size ((w.settle peer (takeIn x).2).through (takeIn x).1) := by
  have hlink : Port.link ⟨t.ctx, x.session⟩ = x := congrArg (Link.mk · x.session) h.slot
  have hread := Port.follows_parseRequest (x := ⟨t.ctx, x.session⟩) hs
  have hreceives := Link.receives_readRequest x
  rw [hlink] at hread
  rw [run_step t (by decide)]
  show (Round.behind _ none (Turn.rest t.httpParse)).Shows w size _
  unfold Task.httpParse takeIn
  rw [h.session]
  dsimp only
  generalize Port.parseRequest ⟨t.ctx, x.session⟩ = p, x.readRequest = q at hread hreceives ⊢
  obtain @⟨r, y, hy⟩ := hread
  have hserves := h.withPort hs hy hreceives.limits
  rcases r with f | _
  · exact (shows_clientFailure (t := t.withPort y) hserves hr f).after (.enter .parse)
  have hnext : Task.Serves w size peer { t.withPort y with keepAlive := y.link.slot.request.keepAlive } y.link :=
    ⟨hserves.worker, hserves.size, hserves.session, hserves.peer, hserves.slot, hserves.request⟩
  have hwaits : (y.ctx.request.view.expectContinue && y.ctx.request.view.expectsBody) =
      (y.link.slot.wantsContinue && y.link.slot.request.expectsBody) := rfl
  dsimp only
  rw [rest_go, hwaits]
  cases y.link.slot.wantsContinue && y.link.slot.request.expectsBody with
  | true => exact (shows_shake hnext hy hr).after (.enter .parse)
  | false => exact (shows_execute hnext hr).after (.enter .parse)

/-! ## Cycles -/

omit [Transport σ] in
/-- What serves a connection is a task that was cleared, whatever was left in its registers. -/
theorem serves_getWait (t : Task σ) (hsize : t.ctx.scratch.length = t.ctx.limits.readSize) (conn : Connection σ)
    (mask : Mask) :
    (t.getWait conn mask).2.Serves t.worker t.ctx.scratch.length conn.peer (t.worker.opening t.ctx.slot conn) ∧
      (t.getWait conn mask).2.ctx.Sound ∧ (t.getWait conn mask).2.responded = false := by
  have hreset := Context.sound_reset hsize
  exact ⟨⟨rfl, rfl, rfl, rfl, rfl, hreset.request⟩, ⟨hreset.request, hreset.chunk, hreset.scratch⟩, rfl⟩

/-- A cycle of a task is the cycle of its worker on the slot that its registers stand for. -/
theorem runCycle_shows (t : Task σ) (hsize : t.ctx.scratch.length = t.ctx.limits.readSize) (conn : Connection σ)
    (mask : Mask) :
    (t.runCycle conn mask).Shows t.worker t.ctx.scratch.length (t.worker.cycle t.ctx.slot conn mask) := by
  obtain ⟨hserves, hsound, hquiet⟩ := serves_getWait t hsize conn mask
  have hentry : (t.getWait conn mask).1 = Task.entry mask := rfl
  unfold Task.runCycle Worker.cycle Worker.intake Worker.reading
  dsimp only
  rw [hentry]
  unfold Task.entry
  generalize (t.getWait conn mask).2 = t', t.worker.opening t.ctx.slot conn = x at hserves hsound hquiet ⊢
  split
  · exact shows_close_unlogged hserves hquiet
  split
  · rw [run_step t' (by decide)]
    show (Round.behind _ none (Turn.rest t'.isOob)).Shows _ _ _
    unfold Task.isOob
    rw [hserves.session]
    dsimp only
    have hother : ∀ session : Session σ, Task.Serves t.worker t.ctx.scratch.length conn.peer
        { t' with session := some session } { x with session } := fun session =>
      ⟨hserves.worker, hserves.size, rfl, hserves.peer, hserves.slot, hserves.request⟩
    rcases x.session.urgent Worker.urgentAttempts with ⟨f | _ | b, session⟩
    · exact (shows_close_unlogged (hother session) hquiet).after (.enter .urgent)
    · exact (shows_close_unlogged (hother session) hquiet).after (.enter .urgent)
    · exact (shows_parse (hother session) hsound hquiet).after (.enter .urgent)
  split
  · exact shows_parse hserves hsound hquiet
  · exact shows_close_unlogged hserves hquiet

end Switchboard.Server
