import Switchboard.Exchange.Receive

/-!
Sending messages, in pieces of bounded size. The slot is not changed by sending.
-/

namespace Switchboard.Exchange.Link

open Http

variable {σ : Type} [Transport σ]

/-- Writes bytes through the session. -/
def send (x : Link σ) (bytes : Bytes) : Except Fault Unit × Link σ :=
  let (r, session) := x.session.writeAll x.slot.limits.writeSize bytes
  (r, { x with session })

/-- Writes a head, then a body. -/
def sendParts (x : Link σ) (head body : Bytes) : Except Fault Unit × Link σ :=
  match x.send head with
  | (.error f, x) => (.error f, x)
  | (.ok (), x) => x.send body

/-- Writes the request. -/
def sendRequest (x : Link σ) : Except Fault Unit × Link σ :=
  x.sendParts x.slot.request.head x.slot.request.body

/-- Writes the response, or its head only. -/
def sendResponse (x : Link σ) (headOnly : Bool) : Except Fault Unit × Link σ :=
  x.sendParts x.slot.response.head (if headOnly then [] else x.slot.response.body)

/-- Writes the interim response that asks for the body. -/
def sendContinue (x : Link σ) : Except Fault Unit × Link σ :=
  x.send (Response.interim x.slot.request.version).head

end Switchboard.Exchange.Link
