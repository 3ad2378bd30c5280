import Switchboard.Exchange.Context
import Switchboard.Server.Cycle

/-!
Tasks: a worker as it is run. A task keeps a context, the session of the connection that it serves, and flags that are
written in one stage and read in a later one. A cycle takes the next connection (`Task.getWait`) and goes from stage to
stage (`Task.step`) until it waits again. Each step leads to a stage of a lower rank, so a cycle ends (`Task.run`).
-/

namespace Switchboard.Server

open Exchange (Context Port Session Transport)
open Readiness (Mask)
open Http

/-- How far a stage is from the end of a cycle. -/
def Stage.rank : Stage → Nat
  | wait => 0
  | close => 1
  | keepAlive => 2
  | pack => 3
  | success | redirection | clientError | serverError => 4
  | getFile | headFile => 5
  | execute => 6
  | shake => 7
  | parse => 8
  | urgent => 9

/-- A task. -/
structure Task (σ : Type) where
  worker : Worker
  ctx : Context
  session : Option (Session σ)
  peer : Option String
  mask : Mask
  keepAlive : Bool
  responded : Bool

/-- What a step comes to: the task after it, the next stage unless the program has stopped, the marks that it left, and
the fate of the connection if it was let go. -/
structure Turn (σ : Type) where
  task : Task σ
  next : Option Stage
  marks : List Mark := []
  fate : Option (Fate σ) := none

/-- What a cycle comes to. -/
structure Round (σ : Type) where
  marks : List Mark
  task : Task σ
  fate : Option (Fate σ)

namespace Task

variable {σ : Type}

/-- A task that has not served a connection. -/
def new (worker : Worker) : Task σ where
  worker := worker
  ctx := .new worker.site.settings.limits
  session := none
  peer := none
  mask := .none
  keepAlive := false
  responded := false

/-- Applies a function to the response. -/
def mapResponse (f : Response → Response) (t : Task σ) : Task σ :=
  { t with ctx := { t.ctx with response := f t.ctx.response } }

/-- Goes on to a stage. -/
def go (t : Task σ) (next : Stage) : Turn σ := { task := t, next := some next }

/-- Stops the program. -/
def stop (t : Task σ) : Turn σ where
  task := t
  next := none
  fate := t.session.map fun session => .dropped session.transport

/-- Takes over what an operation on the context and the session has left. -/
def withPort (t : Task σ) (x : Port σ) : Task σ := { t with ctx := x.ctx, session := some x.session }

/-- The line of the access log. -/
def access (t : Task σ) : Mark := .access (.ofSlot (t.peer.getD "") t.ctx.slot)

/-! ## Taking a connection -/

/-- The stage that a connection with this readiness is taken to. -/
def entry (mask : Mask) : Stage :=
  if mask.intersects .error then .close
  else if mask.contains .urgent then .urgent
  else if mask.contains .read then .parse
  else .close

/-- Clears what the last connection has left, and takes the next one. -/
def getWait (t : Task σ) (conn : Connection σ) (mask : Mask) : Stage × Task σ :=
  let t : Task σ := { t with
    ctx := t.ctx.reset
    session := none
    peer := none
    keepAlive := false
    responded := false }
  let session := (Session.new conn.transport).setTimeout t.worker.site.settings.timeout
  let t := { t with session := some session, peer := some conn.peer, mask }
  let ctx := { t.ctx with peer := some conn.peer }
  (entry mask, { t with ctx := ctx.setPending conn.pending })

/-! ## Stages -/

/-- Gives up: drops the body of the answer and tells the status. -/
def fail (t : Task σ) (status : Status) : Turn σ :=
  (t.mapResponse fun r => { r with body := [] }.setStatus status).go
    (if status.isServerError then .serverError else .clientError)

/-- Goes on after a request or its body could not be read. -/
def clientFailure (t : Task σ) (f : Fault) : Turn σ :=
  if f.isTransport then t.go .close
  else if f.isCrash then t.stop
  else
    ({ t with keepAlive := false }.mapResponse (·.setStatus ⟨f.statusCodeOf⟩)).go
      (if f.statusCodeOf ≥ 500 then .serverError else .clientError)

/-- Goes on with what came of serving the path. -/
def served (t : Task σ) : Route.Outcome → Turn σ
  | .ok =>
    let status := t.ctx.response.status
    (if status.isValid then t else t.mapResponse (·.setStatus .ok)).go (.ofClass status.classify)
  | .notFound =>
    match t.ctx.request.method with
    | .get => t.go .getFile
    | .head => t.go .headFile
    | _ => t.fail .notFound
  | .unsupported => t.fail .notImplemented
  | .serviceError _ => t.fail .internalServerError
  | .noSuchLibrary => t.fail .internalServerError

/-- Finds the route and runs its service. -/
def execService (t : Task σ) : Turn σ :=
  let t := t.mapResponse (·.setStatus .ok)
  if !t.ctx.request.method.isDispatchable then
    (t.mapResponse (·.setStatus .methodNotAllowed)).go .clientError
  else
    match t.worker.site.registry.resolve t.ctx.request.path with
    | .error o => t.served o
    | .ok service =>
      let shown := t.ctx.slot
      let (left, code) := service t.worker.site.registry.table shown
      let turn := { t with ctx := t.ctx.put left }.served (.ofCode code)
      { turn with marks := .call shown :: turn.marks }

/-- Reads the document of the requested path into the answer. -/
def httpStatic (t : Task σ) : Turn σ :=
  let (r, content) := t.worker.site.documents.read t.ctx.request.path
  let t := t.mapResponse fun r => { r with body := r.body ++ content }
  match r with
  | .error f => t.fail (fileStatus f)
  | .ok type => (t.mapResponse fun r => { r with fields := withMediaType type r.fields }).go .success

/-- Gives the answer the fields that every answer has. -/
def setBaseHeaders (t : Task σ) : Task σ :=
  t.mapResponse (completeResponse t.worker.site t.keepAlive t.ctx.request.version)

/-- Completes an answer. -/
def finalizeSuccess (t : Task σ) : Turn σ := t.setBaseHeaders.go .pack

/-- Completes an error, which gets its page if it has no body. -/
def finalizeError (t : Task σ) : Turn σ := (t.mapResponse withPage).setBaseHeaders.go .pack

/-- Closes the connection, and logs an answer that was written. -/
def connClose [Transport σ] (t : Task σ) : Turn σ where
  task := { t with session := none }
  next := some .wait
  marks := if t.responded then [t.access] else []
  fate := t.session.map fun session => .closed session.close.2.transport

/-- Logs the answer and hands the connection back. One that is not taken back is closed, without another line. -/
def connKeepAlive (t : Task σ) : Turn σ :=
  let line := t.access
  match t.session, t.peer with
  | some session, some peer =>
    let (pending, ctx) := t.ctx.takePending
    if t.worker.takesBack then
      { task := { t with ctx, session := none }
        next := some .wait
        marks := [line]
        fate := some (.handedBack ⟨session.transport, peer, pending⟩) }
    else
      { task := { t with ctx, responded := false, session := some (Session.new session.transport) }
        next := some .close
        marks := [line] }
  | _, _ => { task := { t with session := none }, next := some .close, marks := [line] }

variable [Transport σ]

/-- Drains the urgent byte. -/
def isOob (t : Task σ) : Turn σ :=
  match t.session with
  | none => t.go .close
  | some session =>
    match session.urgent Worker.urgentAttempts with
    | (.ok (some _), session) => { t with session := some session }.go .parse
    | (_, session) => { t with session := some session }.go .close

/-- Reads the request. -/
def httpParse (t : Task σ) : Turn σ :=
  match t.session with
  | none => t.go .close
  | some session =>
    match Port.parseRequest ⟨t.ctx, session⟩ with
    | (.error f, x) => (t.withPort x).clientFailure f
    | (.ok (), x) =>
      let request := x.ctx.request.view
      { t.withPort x with keepAlive := request.keepAlive }.go
        (if request.expectContinue && request.expectsBody then .shake else .execute)

/-- Tells the client to go ahead, and reads the body. -/
def httpShake (t : Task σ) : Turn σ :=
  match t.session with
  | none => t.go .close
  | some session =>
    match Port.packContinue ⟨t.ctx, session⟩ with
    | (.error _, x) => (t.withPort x).go .close
    | (.ok (), x) =>
      match x.readBody with
      | (.error f, x) => (t.withPort x).clientFailure f
      | (.ok (), x) => (t.withPort x).go .execute

/-- Writes the answer. -/
def httpPack (t : Task σ) : Turn σ :=
  match t.session with
  | none => t.go .close
  | some session =>
    match Port.packResponse ⟨t.ctx, session⟩ (t.ctx.request.method == .head) with
    | (.error _, x) => { t.withPort x with keepAlive := false }.go .close
    | (.ok (), x) => { t.withPort x with responded := true }.go (if t.keepAlive then .keepAlive else .close)

/-- One step from a stage. -/
def step (t : Task σ) : Stage → Turn σ
  | .wait => t.go .wait
  | .urgent => t.isOob
  | .parse => t.httpParse
  | .shake => t.httpShake
  | .execute => t.execService
  | .getFile | .headFile => t.httpStatic
  | .success | .redirection => t.finalizeSuccess
  | .clientError | .serverError => t.finalizeError
  | .pack => t.httpPack
  | .keepAlive => t.connKeepAlive
  | .close => t.connClose

/-! ## Cycles -/

section Ranks

omit [Transport σ]

theorem rank_ofClass (c : Status.Class) : (Stage.ofClass c).rank < 6 := by
  cases c <;> decide

theorem rank_fail {t : Task σ} {status : Status} {next : Stage} (h : (t.fail status).next = some next) :
    next.rank < 5 := by
  obtain rfl := Option.some.inj h
  split <;> decide

theorem rank_clientFailure {t : Task σ} {f : Fault} {next : Stage} (h : (t.clientFailure f).next = some next) :
    next.rank < 5 := by
  unfold clientFailure at h
  split at h
  · obtain rfl := Option.some.inj h
    decide
  split at h
  · exact absurd h (by simp [stop])
  · obtain rfl := Option.some.inj h
    split <;> decide

theorem rank_served {t : Task σ} {o : Route.Outcome} {next : Stage} (h : (t.served o).next = some next) :
    next.rank < 6 := by
  cases o with
  | ok =>
    obtain rfl := Option.some.inj h
    exact rank_ofClass _
  | notFound =>
    unfold served at h
    dsimp only at h
    split at h
    · obtain rfl := Option.some.inj h
      decide
    · obtain rfl := Option.some.inj h
      decide
    · exact Nat.lt_of_lt_of_le (rank_fail h) (by decide)
  | _ => exact Nat.lt_of_lt_of_le (rank_fail h) (by decide)

theorem rank_execService {t : Task σ} {next : Stage} (h : t.execService.next = some next) : next.rank < 6 := by
  unfold execService at h
  dsimp only at h
  split at h
  · obtain rfl := Option.some.inj h
    decide
  split at h
  · exact rank_served h
  · exact rank_served h

theorem rank_httpStatic {t : Task σ} {next : Stage} (h : t.httpStatic.next = some next) : next.rank < 5 := by
  unfold httpStatic at h
  dsimp only at h
  split at h
  · exact rank_fail h
  · obtain rfl := Option.some.inj h
    decide

theorem rank_connKeepAlive {t : Task σ} {next : Stage} (h : t.connKeepAlive.next = some next) : next.rank < 2 := by
  unfold connKeepAlive at h
  dsimp only at h
  repeat' split at h
  all_goals
    obtain rfl := Option.some.inj h
    decide

end Ranks

theorem rank_isOob {t : Task σ} {next : Stage} (h : t.isOob.next = some next) : next.rank < 9 := by
  unfold isOob at h
  repeat' split at h
  all_goals
    obtain rfl := Option.some.inj h
    decide

theorem rank_httpParse {t : Task σ} {next : Stage} (h : t.httpParse.next = some next) : next.rank < 8 := by
  unfold httpParse at h
  repeat' split at h
  · obtain rfl := Option.some.inj h
    decide
  · exact Nat.lt_of_lt_of_le (rank_clientFailure h) (by decide)
  · obtain rfl := Option.some.inj h
    split <;> decide

theorem rank_httpShake {t : Task σ} {next : Stage} (h : t.httpShake.next = some next) : next.rank < 7 := by
  unfold httpShake at h
  repeat' split at h
  · obtain rfl := Option.some.inj h
    decide
  · obtain rfl := Option.some.inj h
    decide
  · exact Nat.lt_of_lt_of_le (rank_clientFailure h) (by decide)
  · obtain rfl := Option.some.inj h
    decide

theorem rank_httpPack {t : Task σ} {next : Stage} (h : t.httpPack.next = some next) : next.rank < 3 := by
  unfold httpPack at h
  repeat' split at h
  all_goals
    obtain rfl := Option.some.inj h
    cases t.keepAlive <;> decide

/-- A step leads to a stage of a lower rank. -/
theorem rank_step {t : Task σ} {s next : Stage} (hs : s ≠ .wait) (h : (t.step s).next = some next) :
    next.rank < s.rank := by
  cases s with
  | wait => exact absurd rfl hs
  | urgent => exact rank_isOob h
  | parse => exact rank_httpParse h
  | shake => exact rank_httpShake h
  | execute => exact rank_execService h
  | getFile => exact rank_httpStatic h
  | headFile => exact rank_httpStatic h
  | pack => exact rank_httpPack h
  | keepAlive => exact rank_connKeepAlive h
  | close | success | redirection | clientError | serverError =>
    obtain rfl := Option.some.inj h
    decide

/-- Goes from stage to stage until the task waits again, or the program has stopped. -/
def run (t : Task σ) (s : Stage) : Round σ :=
  if _hs : s = .wait then ⟨[.enter .wait], t, none⟩
  else
    let turn := t.step s
    match _hn : turn.next with
    | none => ⟨.enter s :: turn.marks, turn.task, turn.fate⟩
    | some next =>
      let r := turn.task.run next
      ⟨.enter s :: turn.marks ++ r.marks, r.task, turn.fate <|> r.fate⟩
termination_by s.rank
decreasing_by exact rank_step _hs _hn

/-- Serves one connection, from waiting to waiting. -/
def runCycle (t : Task σ) (conn : Connection σ) (mask : Mask) : Round σ :=
  let (s, t) := t.getWait conn mask
  t.run s

end Task
end Switchboard.Server
