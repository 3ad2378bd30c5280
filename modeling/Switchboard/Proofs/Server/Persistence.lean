import Switchboard.Proofs.Server.Protocol

/-!
Whether the client's wish to keep a connection is that of the head of its request. A request is asked for the wish
where it stands when it has been read: a client that waits for a go-ahead is asked with the head, any other with the
whole request, to whose fields the trailer fields have been added by then. So the decision is that of the head if and
only if the client waits, or the head names the deciding token itself, or no trailer field names it
(`decision_of_head_iff`).
-/

namespace Switchboard

namespace Http

namespace Fields

theorem getAll_append (h : Fields) (fs : List Field) (name : String) :
    (h.append fs).getAll name = h.getAll name ++ getAll ⟨fs⟩ name := by
  rw [getAll, toList_append, List.filter_append, List.map_append]
  rfl

/-- A token is named in a longer list if it is named in either part. -/
theorem hasToken_append (h : Fields) (fs : List Field) (name token : String) :
    (h.append fs).hasToken name token = (h.hasToken name token || hasToken ⟨fs⟩ name token) := by
  rw [hasToken, getAll_append, List.any_append]
  rfl

end Fields

/-- The token of a connection field that turns what a version does without it. -/
def Version.turningToken : Version → String
  | .http11 => "close"
  | .http10 => "keep-alive"

/-- A connection field of the list names the deciding token of the version. -/
def Fields.turns (h : Fields) (v : Version) : Bool := h.hasToken "Connection" v.turningToken

namespace Request

variable {head r : Request}

theorem keepAlive_eq (r : Request) :
    r.keepAlive = if r.fields.turns r.version then r.version == .http10 else r.version == .http11 := by
  unfold keepAlive Fields.turns
  cases r.version with
  | http11 => cases h : r.fields.hasToken "Connection" "close" <;> simp [Version.turningToken, h]
  | http10 => cases h : r.fields.hasToken "Connection" "keep-alive" <;> simp [Version.turningToken, h]

/-- More fields leave the wish as it is unless they name the deciding token, and nothing before them does. -/
theorem keepAlive_append_iff {more : List Field} (hversion : r.version = head.version)
    (hfields : r.fields = head.fields.append more) :
    r.keepAlive = head.keepAlive ↔
      head.fields.turns head.version = true ∨ Fields.turns ⟨more⟩ head.version = false := by
  have hturns : r.fields.turns r.version = (head.fields.turns head.version || Fields.turns ⟨more⟩ head.version) := by
    rw [hversion, hfields]
    exact Fields.hasToken_append _ _ _ _
  rw [keepAlive_eq, keepAlive_eq, hturns, hversion]
  cases head.fields.turns head.version <;> cases Fields.turns ⟨more⟩ head.version <;> cases head.version <;> decide

end Request
end Http

namespace Exchange

open Http

/-- The trailer fields of the body that a head announces and that is at the front of a stream. -/
def Slot.trailersOf (s : Slot) (head : Request) (after : Bytes) : List Field :=
  if head.isChunked then (s.decoder.start.decode after).trailers else []

/-- Reading the body adds its trailer fields to the fields of the head. -/
theorem fields_of_bodyOf? {s : Slot} {head r : Request} {after rest : Bytes}
    (h : Slot.bodyOf? { s with request := head } after = some (r, rest)) :
    r.version = head.version ∧ r.fields = head.fields.append (s.trailersOf head after) := by
  have hnone : head.fields.append [] = head.fields := by
    rw [Fields.append, List.append_nil]
  unfold Slot.bodyOf? at h
  unfold Slot.trailersOf
  by_cases hc : head.isChunked = true
  · have hc' : ({ s with request := head } : Slot).request.isChunked = true := hc
    rw [if_pos hc'] at h
    rw [if_pos hc]
    simp only at h
    split at h
    · obtain ⟨rfl, -⟩ := Prod.mk.inj (Option.some.inj h)
      exact ⟨rfl, rfl⟩
    · exact absurd h (by simp)
  · have hc' : ¬ ({ s with request := head } : Slot).request.isChunked = true := hc
    rw [if_neg hc'] at h
    rw [if_neg hc, hnone]
    split at h
    · exact absurd h (by simp)
    · obtain ⟨rfl, -⟩ := Prod.mk.inj (Option.some.inj h)
      exact ⟨rfl, rfl⟩
    · split at h
      · obtain ⟨rfl, -⟩ := Prod.mk.inj (Option.some.inj h)
        exact ⟨rfl, hnone⟩
      · exact absurd h (by simp)

end Exchange

namespace Server

open Http
open Exchange
open Readiness (Mask)

section Decision

variable {σ : Type} [Transport σ] {w : Worker} {slot : Slot} {conn : Connection (Recorded (Taped σ))} {mask : Mask}
  {keepAlive : Bool} {x : Link (Recorded (Taped σ))}

/-- The answer to the request in a link is written as a whole, which leaves the link `y`. -/
def Worker.Answers (w : Worker) (keepAlive : Bool) (x y : Link (Recorded (Taped σ))) : Prop :=
  let s := (answer w.site x.slot).complete w.site keepAlive
  Link.sendResponse { x with slot := s } (s.request.method == .head) = (.ok (), y)

/-- A worker that takes connections back is handed back one that is to be kept, once the answer is written. -/
theorem handedBack_of_answers (hread : w.intake slot conn mask = (.read true, x)) {y : Link (Recorded (Taped σ))}
    (hanswers : w.Answers true x y) (hback : w.takesBack = true) :
    ∃ next, (w.cycle slot conn mask).fate = .handedBack next := by
  obtain ⟨marks, -, hcycle⟩ := cycle_eq w slot conn mask
  have hfate : (w.cycle slot conn mask).fate = (w.conclude conn.peer true y).fate := by
    rw [hcycle, hread]
    show (w.execute conn.peer true x).fate = _
    unfold Worker.execute Worker.deliver
    simp only
    rw [hanswers]
    rfl
  have hconclude : (w.conclude conn.peer true y).fate =
      .handedBack ⟨y.session.transport, conn.peer, y.slot.buffer⟩ := by
    unfold Worker.conclude
    rw [if_pos rfl]
    simp only [if_pos hback]
    rfl
  exact ⟨_, hfate.trans hconclude⟩

/-- A cycle has read a request, and decides to keep the connection or not, says so in the answer, and hands the
connection back only if it keeps it, which it does if the answer can be written and connections are taken back. The
decision is the wish of the head if and only if the client waits for a go-ahead, or the head names the deciding token,
or no trailer field names it. -/
theorem decision_of_head_iff (hread : w.intake slot conn mask = (.read keepAlive, x)) :
    ∃ got goAhead head after rest,
      Obeys w slot conn mask got goAhead (responseBytes ((answer w.site x.slot).complete w.site keepAlive)) ∧
      (w.opening slot conn).slot.headOf? (conn.pending ++ got) = some (head, after) ∧
      Slot.bodyOf? { (w.opening slot conn).slot with request := head } after = some (x.slot.request, rest) ∧
      ((answer w.site x.slot).complete w.site keepAlive).response.fields.get? "Connection" =
        some (if keepAlive then "keep-alive" else "close") ∧
      (∀ next, (w.cycle slot conn mask).fate = .handedBack next → keepAlive = true) ∧
      (∀ y, w.Answers keepAlive x y → w.takesBack = true → keepAlive = true →
        ∃ next, (w.cycle slot conn mask).fate = .handedBack next) ∧
      (keepAlive = head.keepAlive ↔
        waits head = true ∨ head.fields.turns head.version = true ∨
          Fields.turns ⟨(w.opening slot conn).slot.trailersOf head after⟩ head.version = false) := by
  obtain ⟨got, goAhead, head, rest, hobeys, ⟨after, hhead, hbody⟩, hkeep⟩ := obeys_of_intake hread
  obtain ⟨hversion, hfields⟩ := fields_of_bodyOf? hbody
  refine ⟨got, goAhead, head, after, rest, hobeys, hhead, hbody, connection_complete _ _ _, ?_, ?_, ?_⟩
  · intro next hnext
    have hintake := (hobeys.handedBack next hnext).1
    rw [hread] at hintake
    exact Intake.read.inj hintake
  · rintro y hanswers hback rfl
    exact handedBack_of_answers hread hanswers hback
  · rw [hkeep, keeps]
    by_cases hwaits : waits head = true
    · rw [if_pos hwaits]
      exact iff_of_true rfl (Or.inl hwaits)
    · rw [if_neg hwaits, Request.keepAlive_append_iff hversion hfields]
      exact ⟨Or.inr, fun h => h.resolve_left hwaits⟩

end Decision

/-- A request whose head asks to keep the connection, and whose trailer asks to close it. -/
def trailerRequest : Bytes :=
  Text.utf8 "POST /echo HTTP/1.1\r\nTransfer-Encoding: chunked\r\n\r\n0\r\nConnection: close\r\n\r\n"

/-- The head of that request. -/
def trailerHead : Request where
  method := .post
  target := "/echo"
  fields := .ofPairs [("Transfer-Encoding", "chunked")]

/-- A connection on which the request comes. -/
def trailerConnection : Connection (Recorded (Taped Script)) where
  transport := { inner := { inner := promptScript trailerRequest } }
  peer := "127.0.0.1:4711"

/-- What reading on the connection comes to. -/
def trailerLink : Link (Recorded (Taped Script)) := (echoWorker.intake (.new {}) trailerConnection .read).2

theorem trailer_ends_connection :
    ∃ goAhead after,
      Obeys echoWorker (.new {}) trailerConnection .read trailerRequest goAhead
        (responseBytes ((answer echoWorker.site trailerLink.slot).complete echoWorker.site false)) ∧
      (echoWorker.opening (.new {}) trailerConnection).slot.headOf? trailerRequest = some (trailerHead, after) ∧
      trailerHead.keepAlive = true ∧
      ((answer echoWorker.site trailerLink.slot).complete echoWorker.site false).response.fields.get? "Connection" =
        some "close" := by
  have hread : echoWorker.intake (.new {}) trailerConnection .read = (.read false, trailerLink) :=
    Prod.ext (by decide +kernel) rfl
  obtain ⟨got, goAhead, head, after, rest, hobeys, hhead, -, hconnection, -, -, hiff⟩ :=
    decision_of_head_iff hread
  obtain ⟨sent, hpassed, -, -⟩ := hobeys.written
  have hreceived : (echoWorker.cycle (.new {}) trailerConnection .read).fate.transport.inner.received =
      trailerRequest := by decide +kernel
  obtain rfl : got = trailerRequest := hpassed.received.symm.trans hreceived
  have hopens : (echoWorker.opening (.new {}) trailerConnection).slot.headOf? trailerRequest =
      some (trailerHead, Text.utf8 "0\r\nConnection: close\r\n\r\n") := by decide +kernel
  obtain ⟨rfl, rfl⟩ := Prod.mk.inj (Option.some.inj (hhead.symm.trans hopens))
  have hturned : ¬ (waits trailerHead = true ∨ trailerHead.fields.turns trailerHead.version = true ∨
      Fields.turns ⟨(echoWorker.opening (.new {}) trailerConnection).slot.trailersOf trailerHead
        (Text.utf8 "0\r\nConnection: close\r\n\r\n")⟩ trailerHead.version = false) := by decide +kernel
  have hdiffers : ¬ false = trailerHead.keepAlive := fun h => hturned (hiff.1 h)
  exact ⟨goAhead, _, hobeys, hopens, by simpa using hdiffers, hconnection⟩

end Server
end Switchboard
