import Switchboard.Exchange.Send
import Switchboard.Readiness.Mask
import Switchboard.Server.Answer

/-!
The cycle of a connection: one request is read (`Worker.reading`), and what reading came to is settled
(`Worker.settle`): the request is answered, and the connection is handed back or closed. A fault of the transport closes
it without an answer; what the client got wrong is answered, and then the connection is closed. An overflow is none of
the two: the program stops where it stands. The slot is cleared before each cycle.
-/

namespace Switchboard.Server

open Exchange (Slot Session Transport Link)
open Readiness (Mask)
open Http

/-- A connection between its cycles: the transport, the address of the client, and the bytes that came past
the last request. -/
structure Connection (σ : Type) where
  transport : σ
  peer : String
  pending : Bytes := []

/-- A worker: the site that it serves, and whether connections are taken back. -/
structure Worker where
  site : Site
  takesBack : Bool := true

/-- What becomes of a connection after a cycle. -/
inductive Fate (σ : Type) where
  | closed (transport : σ)
  | handedBack (conn : Connection σ)
  /-- The program has stopped, with the transport as it was then. -/
  | dropped (transport : σ)

/-- The transport that a connection ends up with. -/
def Fate.transport {σ : Type} : Fate σ → σ
  | .closed t => t
  | .handedBack conn => conn.transport
  | .dropped t => t

/-- A cycle as it was run: the marks that it left, the slot after it, and the fate of the connection. -/
structure Run (σ : Type) where
  marks : List Mark
  slot : Slot
  fate : Fate σ

/-- The run with a mark before its marks. -/
def Run.after {σ : Type} (m : Mark) (r : Run σ) : Run σ := { r with marks := m :: r.marks }

/-- The run with some marks before its marks. -/
def Run.through {σ : Type} (marks : List Mark) (r : Run σ) : Run σ :=
  { r with marks := marks ++ r.marks }

namespace Worker

variable {σ : Type} [Transport σ]

/-- Closes the connection; some marks are left on the way. -/
def close (marks : List Mark) (x : Link σ) : Run σ where
  marks := .enter .close :: marks ++ [.enter .wait]
  slot := x.slot
  fate := .closed x.session.close.2.transport

/-- Ends a cycle whose answer was written: hands the connection back, or closes it. One that is not taken
back is closed. -/
def conclude (w : Worker) (peer : String) (keepAlive : Bool) (x : Link σ) : Run σ :=
  let line := Mark.access (.ofSlot peer x.slot)
  if keepAlive then
    let (pending, slot) := x.slot.takePending
    let r : Run σ :=
      if w.takesBack then
        ⟨[.enter .wait], slot, .handedBack ⟨x.session.transport, peer, pending⟩⟩
      else close [] { x with slot }
    (r.after line).after (.enter .keepAlive)
  else close [line] x

/-- Completes an answer and writes it. -/
def deliver (w : Worker) (peer : String) (keepAlive : Bool) (a : Answer) (x : Link σ) : Run σ :=
  let x := { x with slot := a.complete w.site keepAlive }
  let r := match x.sendResponse (x.slot.request.method == .head) with
    | (.error _, x) => close [] x
    | (.ok (), x) => w.conclude peer keepAlive x
  r.through (a.marks ++ [.enter (.ofClass a.way), .enter .pack])

/-- Stops the program in the middle of a cycle. -/
def drop (x : Link σ) : Run σ where
  marks := []
  slot := x.slot
  fate := .dropped x.session.transport

/-- Ends a cycle whose request could not be read. -/
def refuse (w : Worker) (peer : String) (f : Fault) (x : Link σ) : Run σ :=
  if f.isTransport then close [] x
  else if f.isCrash then drop x
  else w.deliver peer false (faultAnswer f x.slot) x

/-- Answers a request that was read. -/
def execute (w : Worker) (peer : String) (keepAlive : Bool) (x : Link σ) : Run σ :=
  (w.deliver peer keepAlive (answer w.site x.slot) x).after (.enter .execute)

end Worker

/-- What reading in a cycle came to. -/
inductive Intake where
  /-- There was nothing to read. -/
  | idle
  /-- The go-ahead could not be written. -/
  | mute
  /-- The request or its body could not be read. -/
  | failed (f : Fault)
  /-- The request was read with its body; `keepAlive` tells whether the client asks to keep the connection. -/
  | read (keepAlive : Bool)
  deriving DecidableEq

section Reading

variable {σ : Type} [Transport σ]

/-- Tells the client to go ahead, and reads the body. -/
def takeBody (keepAlive : Bool) (x : Link σ) : Intake × Link σ :=
  match x.sendContinue with
  | (.error _, x) => (.mute, x)
  | (.ok (), x) =>
    match x.readBody with
    | (.error f, x) => (.failed f, x)
    | (.ok (), x) => (.read keepAlive, x)

/-- Reads a request with its body, and tells the client to go ahead if it waits for that. The marks are those of the
stages gone through. -/
def takeIn (x : Link σ) : List Mark × Intake × Link σ :=
  match x.readRequest with
  | (.error f, x) => ([.enter .parse], .failed f, x)
  | (.ok (), x) =>
    let keepAlive := x.slot.request.keepAlive
    if x.slot.wantsContinue && x.slot.request.expectsBody then
      ([.enter .parse, .enter .shake], takeBody keepAlive x)
    else ([.enter .parse], .read keepAlive, x)

namespace Worker

/-- The attempts made at an urgent byte. -/
def urgentAttempts : Nat := 3

/-- What a cycle starts with: the cleared slot with the peer and the pending bytes of the connection. -/
def opening (w : Worker) (slot : Slot) (conn : Connection σ) : Link σ where
  slot := { slot.reset with peer := some conn.peer }.addPending conn.pending
  session := (Session.new conn.transport).setTimeout w.site.settings.timeout

/-- Reads what there is to read on a connection that woke with this readiness. After a failure there is nothing, urgent
data comes before other data, and without data there is nothing either. -/
def reading (w : Worker) (slot : Slot) (conn : Connection σ) (mask : Mask) : List Mark × Intake × Link σ :=
  let x := w.opening slot conn
  if mask.intersects .error then ([], .idle, x)
  else if mask.contains .urgent then
    match x.session.urgent urgentAttempts with
    | (.ok (some _), session) =>
      let (marks, taken) := takeIn { x with session }
      (.enter .urgent :: marks, taken)
    | (_, session) => ([.enter .urgent], .idle, { x with session })
  else if mask.contains .read then takeIn x
  else ([], .idle, x)

/-- What reading comes to, with the link after it. -/
def intake (w : Worker) (slot : Slot) (conn : Connection σ) (mask : Mask) : Intake × Link σ :=
  (w.reading slot conn mask).2

/-- Ends a cycle with what it has read. -/
def settle (w : Worker) (peer : String) : Intake × Link σ → Run σ
  | (.idle, x) => close [] x
  | (.mute, x) => close [] x
  | (.failed f, x) => w.refuse peer f x
  | (.read keepAlive, x) => w.execute peer keepAlive x

/-- Runs a cycle on a connection that woke with this readiness. -/
def cycle (w : Worker) (slot : Slot) (conn : Connection σ) (mask : Mask) : Run σ :=
  (w.settle conn.peer (w.intake slot conn mask)).through (w.reading slot conn mask).1

end Worker
end Reading
end Switchboard.Server
