import Switchboard.Exchange.Client
import Switchboard.Proofs.Exchange.Offers

/-!
What sending leaves on the wire. Whenever sending succeeds, what was to be sent has been written after what was written
before, in whatever pieces (`written_send`, `written_sendParts`, `written_sendRequest`).
-/

namespace Switchboard.Exchange

open Http

variable {σ : Type} [Transport σ]

/-- What was sent without a fault is on the wire. -/
theorem Link.Sends.written {x y : Link (Recorded σ)} {bytes : Bytes} (h : x.Sends bytes (.ok (), y)) :
    y.session.transport.written = x.session.transport.written ++ bytes := by
  obtain ⟨-, -, made, hsent⟩ := h
  rw [hsent.written, hsent.all.1 rfl]

theorem written_send {x y : Link (Recorded σ)} {bytes : Bytes} (h : x.send bytes = (.ok (), y)) :
    y.session.transport.written = x.session.transport.written ++ bytes :=
  Link.Sends.written (h ▸ x.send_sends bytes)

theorem written_sendParts {x y : Link (Recorded σ)} {head body : Bytes}
    (h : x.sendParts head body = (.ok (), y)) :
    y.session.transport.written = x.session.transport.written ++ (head ++ body) :=
  Link.Sends.written (h ▸ x.sendParts_sends head body)

/-- A request that has been sent is on the wire. -/
theorem written_sendRequest {c c' : Client (Recorded σ)} {r : Request}
    (h : c.sendRequest r = (.ok (), c')) :
    c'.link.session.transport.written = c.link.session.transport.written ++ r.wire := by
  obtain ⟨hok, rfl⟩ := Prod.mk.inj h
  exact written_sendParts (x := c.link.mapSlot fun s => { s with request := r }) (Prod.ext hok rfl)

end Switchboard.Exchange
