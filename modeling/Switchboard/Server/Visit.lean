import Switchboard.Server.Task

/-!
Visits: a connection from its first cycle to its end. A connection that was handed back is served again when
it has bytes left or something to read, and is dropped as idle otherwise. Each cycle but the last takes a
byte or more, which bounds their number.
-/

namespace Switchboard.Server

open Exchange (Channel Transport)
open Readiness (Mask)

/-- A visit: the marks of each cycle, the task after it, and the transport as it was left. -/
structure Visit (σ : Type) where
  cycles : List (List Mark)
  task : Task σ
  transport : σ
  /-- The program has stopped in the last cycle. -/
  stopped : Bool := false

variable {σ : Type} [Transport σ]

/-- A connection that was handed back can be served again, without waiting. -/
def Connection.isReady (conn : Connection σ) : Bool × Connection σ :=
  if conn.pending.isEmpty then
    match Channel.poll .reading conn.transport with
    | (.ok true, transport) => (true, { conn with transport })
    | (_, transport) => (false, { conn with transport })
  else (true, conn)

namespace Task

/-- Serves a connection in so many cycles at most. -/
def visitIn (t : Task σ) : Nat → Connection σ → Mask → Visit σ
  | 0, conn, _ => { cycles := [], task := t, transport := conn.transport }
  | n + 1, conn, mask =>
    let r := t.runCycle conn mask
    match r.fate.getD (.dropped conn.transport) with
    | .closed transport => { cycles := [r.marks], task := r.task, transport }
    | .dropped transport => { cycles := [r.marks], task := r.task, transport, stopped := true }
    | .handedBack conn =>
      match conn.isReady with
      | (false, conn) => { cycles := [r.marks], task := r.task, transport := conn.transport }
      | (true, conn) =>
        let v := r.task.visitIn n conn .read
        { v with cycles := r.marks :: v.cycles }

/-- Serves a connection to its end. -/
def visit (t : Task σ) (conn : Connection σ) (mask : Mask) : Visit σ :=
  t.visitIn (conn.pending.length + Transport.supply conn.transport + 2) conn mask

end Task
end Switchboard.Server
