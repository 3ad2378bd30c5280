import Switchboard.Proofs.Server.Settling
import Switchboard.Proofs.Server.Taking

/-!
What one cycle may do, over any transport and with any services. Reading writes nothing but the go-ahead
(`intake_takes`); settling writes the answer that is due, or closes the connection without one (`deliver_settled`).
Together they keep the protocol of one request and one answer (`obeys_due`): go-ahead and answer are written whole
unless the transport does not take them. Reading comes to an end here, since a transport knows how much it can still
give; a channel that does not know is a transport with a meter.
-/

namespace Switchboard.Server

open Http
open Exchange
open Readiness (Mask)

variable {σ : Type}

/-! ## Reading and settling -/

section Cycle

variable [Transport σ]

/-- A run with some marks before its marks, none of which tells of a call. -/
def Follows (r s : Run σ) : Prop := ∃ marks, calls marks = [] ∧ s = r.through marks

omit [Transport σ] in
theorem calls_cons {m : Mark} (hm : m.shown? = none) (marks : List Mark) : calls (m :: marks) = calls marks :=
  List.filterMap_cons_none hm

theorem calls_takeIn (x : Link σ) : calls (takeIn x).1 = [] := by
  unfold takeIn
  rcases x.readRequest with ⟨f | _, y⟩
  · rfl
  · simp only
    split <;> rfl

/-- No service is called in reading. -/
theorem calls_reading (w : Worker) (slot : Slot) (conn : Connection σ) (mask : Mask) :
    calls (w.reading slot conn mask).1 = [] := by
  unfold Worker.reading
  simp only
  split
  · rfl
  split
  · rcases (w.opening slot conn).session.urgent Worker.urgentAttempts with ⟨f | _ | b, session⟩
    · rfl
    · rfl
    · exact (calls_cons rfl _).trans (calls_takeIn _)
  split
  · exact calls_takeIn _
  · rfl

/-- A cycle reads, then settles what it has read. -/
theorem cycle_eq (w : Worker) (slot : Slot) (conn : Connection σ) (mask : Mask) :
    Follows (w.settle conn.peer (w.intake slot conn mask)) (w.cycle slot conn mask) :=
  ⟨_, calls_reading w slot conn mask, rfl⟩

/-- The answer that a cycle is to write once it has read, with whether the connection is to be kept. There is none if
there was no request, if the transport broke, or if the program stops. -/
def Worker.due (w : Worker) (slot : Slot) (conn : Connection σ) (mask : Mask) : Option (Answer × Bool) :=
  match w.intake slot conn mask with
  | (.idle, _) => none
  | (.mute, _) => none
  | (.failed f, x) => if f.isTransport || f.isCrash then none else some (faultAnswer f x.slot, false)
  | (.read keepAlive, x) => some (answer w.site x.slot, keepAlive)

/-- The bytes of the final response that is due. -/
def Worker.finalBytes (w : Worker) : Option (Answer × Bool) → Bytes
  | none => []
  | some (a, keepAlive) => responseBytes (a.complete w.site keepAlive)

/-- The transport does not take the whole of the go-ahead, or of the answer that is due. -/
def Worker.Unsent (w : Worker) (slot : Slot) (conn : Connection σ) (mask : Mask) : Prop :=
  (w.intake slot conn mask).1 = .mute ∨
    ∃ a keepAlive, w.due slot conn mask = some (a, keepAlive) ∧
      w.Undelivered keepAlive a (w.intake slot conn mask).2

end Cycle

/-! ## The protocol -/

section Obeying

variable [Transport σ] {w : Worker} {peer : String} {keepAlive : Bool}

/-- A cycle keeps the protocol: `got` is what it receives, `goAhead` the go-ahead that it may write and `final` the
answer that it may write after that, either of them empty if it may not. -/
structure Obeys (w : Worker) (slot : Slot) (conn : Connection (Recorded (Taped σ))) (mask : Mask)
    (got goAhead final : Bytes) : Prop where
  /-- The cycle comes back to wait, unless the program stops. -/
  waits : (∃ t, (w.cycle slot conn mask).fate = .dropped t) ∨
    (w.cycle slot conn mask).marks.getLast? = some (.enter .wait)
  /-- The program stops for an overflow in reading only, and then nothing is answered. -/
  stopped : ∀ t, (w.cycle slot conn mask).fate = .dropped t →
    final = [] ∧ ∃ f, (w.intake slot conn mask).1 = .failed f ∧ f.isCrash = true
  /-- Go-ahead and answer are written, or a first part of them if the transport does not take them, and all of both if
  the connection is handed back. -/
  written : ∃ sent, Passed conn.transport (w.cycle slot conn mask).fate.transport got sent ∧
    sent <+: goAhead ++ final ∧ (sent = goAhead ++ final ∨ w.Unsent slot conn mask) ∧
    ∀ next, (w.cycle slot conn mask).fate = .handedBack next → sent = goAhead ++ final
  /-- The go-ahead is for a client that asked for it and announced a body. -/
  asked : goAhead = [] ∨ IsGoAhead (w.opening slot conn).slot (conn.pending ++ got) goAhead
  /-- The answer is one response. -/
  answer : final = [] ∨ ∃ s, final = responseBytes s
  /-- One service is called at most. -/
  once : (calls (w.cycle slot conn mask).marks).length ≤ 1
  /-- A service is called on the request that was received, with the whole body that its head announces. -/
  called : ∀ shown ∈ calls (w.cycle slot conn mask).marks, ∃ head after rest,
    (w.opening slot conn).slot.headOf? (conn.pending ++ got) = some (head, after) ∧
    Complete (w.opening slot conn).slot (conn.pending ++ got) head shown.request rest ∧
    HasBody (w.opening slot conn).slot head shown.request after
  /-- Without a request, or without the go-ahead that it asks for, nothing is answered. -/
  unread : (w.intake slot conn mask).1 = .idle ∨ (w.intake slot conn mask).1 = .mute →
    final = [] ∧ ∃ t, (w.cycle slot conn mask).fate = .closed t
  /-- A fault of the transport in reading closes the connection without an answer. -/
  broken : ∀ f, (w.intake slot conn mask).1 = .failed f → f.isTransport = true →
    final = [] ∧ ∃ t, (w.cycle slot conn mask).fate = .closed t
  /-- A fault in what the client sent is answered by its status, and the connection is closed. -/
  refused : ∀ f, (w.intake slot conn mask).1 = .failed f → f.isTransport = false → f.isCrash = false →
    (∃ s, final = responseBytes s ∧ s.response.status.code = f.statusCodeOf ∧
      s.response.fields.get? "Connection" = some "close") ∧
    ∃ t, (w.cycle slot conn mask).fate = .closed t
  /-- A connection is handed back for a client that asked to keep it and was told so, with the bytes past the request
  as the services left them, which are all that was received and not read if they left them alone. -/
  handedBack : ∀ next, (w.cycle slot conn mask).fate = .handedBack next →
    (w.intake slot conn mask).1 = .read true ∧
    ∃ head r rest s, Complete (w.opening slot conn).slot (conn.pending ++ got) head r rest ∧
      keeps head r = true ∧ final = responseBytes s ∧
      s.response.fields.get? "Connection" = some "keep-alive" ∧
      next.peer = conn.peer ∧ next.pending = s.buffer ∧
      (w.site.LeavesRest → next.pending = rest)

variable {slot : Slot} {conn : Connection (Recorded (Taped σ))} {mask : Mask} {got goAhead sent final b : Bytes}
  {shown : List Slot} {cut : Prop}

theorem settle_of_intake {i : Intake} (h : (w.intake slot conn mask).1 = i) :
    w.settle conn.peer (w.intake slot conn mask) =
      w.settle conn.peer (i, (w.intake slot conn mask).2) := by
  rw [← h]

/-- What a cycle does is what settling its intake does, marks aside that tell of no call. -/
theorem cycle_settled (h : Settled conn.peer keepAlive final b shown cut (w.intake slot conn mask).2.session.transport
      (w.settle conn.peer (w.intake slot conn mask))) :
    Settled conn.peer keepAlive final b shown cut (w.intake slot conn mask).2.session.transport
        (w.cycle slot conn mask) ∧
      (w.cycle slot conn mask).fate = (w.settle conn.peer (w.intake slot conn mask)).fate := by
  obtain ⟨marks, hmarks, hcycle⟩ := cycle_eq w slot conn mask
  have hthrough := h.through marks
  rw [hmarks, List.nil_append] at hthrough
  rw [hcycle]
  exact ⟨hthrough, rfl⟩

/-- What is written in reading and in settling is a first part of go-ahead and answer. -/
theorem written_of_parts
    (htaken : Taken (w.opening slot conn).slot conn.transport (w.intake slot conn mask) got goAhead sent)
    (hset : Settled conn.peer keepAlive final b shown cut (w.intake slot conn mask).2.session.transport
      (w.cycle slot conn mask)) (hcut : cut → w.Unsent slot conn mask)
    (hsent : sent = goAhead ∨ final = [] ∧ w.Unsent slot conn mask ∧
      ∃ t, (w.cycle slot conn mask).fate = .closed t) :
    ∃ all, Passed conn.transport (w.cycle slot conn mask).fate.transport got all ∧
      all <+: goAhead ++ final ∧ (all = goAhead ++ final ∨ w.Unsent slot conn mask) ∧
      ∀ next, (w.cycle slot conn mask).fate = .handedBack next → all = goAhead ++ final := by
  obtain ⟨sent', hpassed', hpart', hwhole, hall⟩ := hset.written
  have hpassed := htaken.passed.trans hpassed'
  rw [List.append_nil] at hpassed
  refine ⟨sent ++ sent', hpassed, ?_, ?_, fun next hnext => ?_⟩
  · rcases hsent with rfl | ⟨rfl, -, -⟩
    · exact (List.prefix_append_right_inj _).2 hpart'
    · obtain rfl := List.prefix_nil.1 hpart'
      rw [List.append_nil, List.append_nil]
      exact htaken.part
  · rcases hsent with rfl | ⟨-, hunsent, -⟩
    · exact hwhole.imp (congrArg _) hcut
    · exact Or.inr hunsent
  · rcases hsent with rfl | ⟨-, -, t, ht⟩
    · rw [hall next hnext]
    · rw [ht] at hnext
      exact absurd hnext (by simp)

/-- A cycle that closes the connection, or hands it back, has not stopped the program. -/
theorem exists_closed (hset : Settled conn.peer keepAlive final b shown cut
      (w.intake slot conn mask).2.session.transport (w.cycle slot conn mask)) (hkeep : keepAlive = false) :
    ∃ t, (w.cycle slot conn mask).fate = .closed t := by
  rcases hfate : (w.cycle slot conn mask).fate with t | next | t
  · exact ⟨t, rfl⟩
  · exact absurd (hkeep.symm.trans (hset.handedBack next hfate).1) Bool.false_ne_true
  · exact absurd hfate (hset.stays t)

/-- A cycle that has nothing to answer closes the connection. -/
theorem obeys_of_silent
    (htaken : Taken (w.opening slot conn).slot conn.transport (w.intake slot conn mask) got goAhead sent)
    (hsettle : w.settle conn.peer (w.intake slot conn mask) = Worker.close [] (w.intake slot conn mask).2)
    (hsent : sent = goAhead ∨ (w.intake slot conn mask).1 = .mute)
    (hfailed : ∀ f, (w.intake slot conn mask).1 = .failed f → f.isTransport = true) :
    Obeys w slot conn mask got goAhead [] := by
  have hclose : Settled conn.peer false [] [] [] False (w.intake slot conn mask).2.session.transport
      (w.settle conn.peer (w.intake slot conn mask)) := by
    rw [hsettle]
    exact close_settled _ [] rfl
  obtain ⟨hset, -⟩ := cycle_settled hclose
  have hclosed := exists_closed hset rfl
  obtain ⟨hcalls, hlast⟩ := hset.waits.calls_marks
  exact
    { waits := Or.inr hlast
      stopped := fun t ht => absurd ht (hset.stays t)
      written := written_of_parts htaken hset False.elim (hsent.imp id fun hmute => ⟨rfl, Or.inl hmute, hclosed⟩)
      asked := htaken.asked
      answer := Or.inl rfl
      once := by rw [hcalls]; exact Nat.zero_le _
      called := fun shown hshown => by rw [hcalls] at hshown; exact absurd hshown List.not_mem_nil
      unread := fun _ => ⟨rfl, hclosed⟩
      broken := fun _ _ _ => ⟨rfl, hclosed⟩
      refused := fun f hf hclient => by
        rw [hfailed f hf] at hclient
        exact absurd hclient (by simp)
      handedBack := fun next hnext => by
        obtain ⟨t, ht⟩ := hclosed
        rw [ht] at hnext
        exact absurd hnext (by simp) }

/-- After an overflow the program stops, with nothing answered. -/
theorem obeys_of_overflow
    (htaken : Taken (w.opening slot conn).slot conn.transport (w.intake slot conn mask) got goAhead sent)
    {f : Fault} (hf : (w.intake slot conn mask).1 = .failed f) (hcrash : f.isCrash = true) :
    Obeys w slot conn mask got goAhead [] := by
  have hclient : f.isTransport = false := Fault.isTransport_of_isCrash hcrash
  have hsettle : w.settle conn.peer (w.intake slot conn mask) = Worker.drop (w.intake slot conn mask).2 := by
    rw [settle_of_intake hf]
    show w.refuse conn.peer f _ = _
    rw [Worker.refuse, if_neg (by rw [hclient]; exact Bool.false_ne_true), if_pos hcrash]
  obtain ⟨marks, hmarks, hcycle⟩ := cycle_eq w slot conn mask
  rw [hsettle] at hcycle
  have hfate : (w.cycle slot conn mask).fate = .dropped (w.intake slot conn mask).2.session.transport := by
    rw [hcycle]
    rfl
  have hcalls : calls (w.cycle slot conn mask).marks = [] := by
    rw [hcycle]
    exact (congrArg calls (List.append_nil marks)).trans hmarks
  obtain rfl := htaken.whole (by rw [hf]; simp)
  exact
    { waits := Or.inl ⟨_, hfate⟩
      stopped := fun _ _ => ⟨rfl, f, hf, hcrash⟩
      written := by
        rw [List.append_nil, hfate]
        exact ⟨sent, htaken.passed, List.prefix_rfl, Or.inl rfl, fun _ _ => rfl⟩
      asked := htaken.asked
      answer := Or.inl rfl
      once := by rw [hcalls]; exact Nat.zero_le _
      called := fun shown hshown => by rw [hcalls] at hshown; exact absurd hshown List.not_mem_nil
      unread := fun h => by rw [hf] at h; exact absurd h (by simp)
      broken := fun g hg htransport => by
        obtain rfl := Intake.failed.inj (hf.symm.trans hg)
        rw [hclient] at htransport
        exact absurd htransport (by simp)
      refused := fun g hg _ hnot => by
        obtain rfl := Intake.failed.inj (hf.symm.trans hg)
        rw [hcrash] at hnot
        exact absurd hnot (by simp)
      handedBack := fun next hnext => by
        rw [hfate] at hnext
        exact absurd hnext (by simp) }

theorem due_of_silent (h : (w.intake slot conn mask).1 = .idle ∨ (w.intake slot conn mask).1 = .mute) :
    w.due slot conn mask = none := by
  unfold Worker.due
  rcases hi : w.intake slot conn mask with ⟨i, x⟩
  rw [hi] at h
  rcases h with h | h
  · obtain rfl : i = .idle := h
    rfl
  · obtain rfl : i = .mute := h
    rfl

theorem due_of_failed {f : Fault} (hf : (w.intake slot conn mask).1 = .failed f)
    (hsilent : (f.isTransport || f.isCrash) = true) : w.due slot conn mask = none := by
  unfold Worker.due
  rcases hi : w.intake slot conn mask with ⟨i, x⟩
  rw [hi] at hf
  obtain rfl : i = .failed f := hf
  exact if_pos hsilent

theorem due_of_refused {f : Fault} (hf : (w.intake slot conn mask).1 = .failed f) (hclient : f.isTransport = false)
    (hgoes : f.isCrash = false) :
    w.due slot conn mask = some (faultAnswer f (w.intake slot conn mask).2.slot, false) := by
  unfold Worker.due
  rcases hi : w.intake slot conn mask with ⟨i, x⟩
  rw [hi] at hf
  obtain rfl : i = .failed f := hf
  exact if_neg (by rw [hclient, hgoes]; exact Bool.false_ne_true)

theorem due_of_read {keepAlive : Bool} (hread : (w.intake slot conn mask).1 = .read keepAlive) :
    w.due slot conn mask = some (Server.answer w.site (w.intake slot conn mask).2.slot, keepAlive) := by
  unfold Worker.due
  rcases hi : w.intake slot conn mask with ⟨i, x⟩
  rw [hi] at hread
  obtain rfl : i = .read keepAlive := hread
  rfl

/-- A fault in what the client sent is answered, and the connection is closed. -/
theorem obeys_of_refused
    (htaken : Taken (w.opening slot conn).slot conn.transport (w.intake slot conn mask) got goAhead sent)
    {f : Fault} (hf : (w.intake slot conn mask).1 = .failed f) (hclient : f.isTransport = false)
    (hgoes : f.isCrash = false) :
    Obeys w slot conn mask got goAhead
      (responseBytes ((faultAnswer f (w.intake slot conn mask).2.slot).complete w.site false)) := by
  have hsettle : w.settle conn.peer (w.intake slot conn mask) =
      w.deliver conn.peer false (faultAnswer f (w.intake slot conn mask).2.slot)
        (w.intake slot conn mask).2 := by
    rw [settle_of_intake hf]
    show w.refuse conn.peer f _ = _
    rw [Worker.refuse, if_neg (by rw [hclient]; exact Bool.false_ne_true),
      if_neg (by rw [hgoes]; exact Bool.false_ne_true)]
  have hdeliver := deliver_settled w conn.peer false
    (faultAnswer f (w.intake slot conn mask).2.slot) (w.intake slot conn mask).2
  rw [← hsettle] at hdeliver
  obtain ⟨hset, -⟩ := cycle_settled hdeliver
  have hclosed := exists_closed hset rfl
  obtain ⟨hcalls, hlast⟩ := hset.waits.calls_marks
  have hcalls : calls (w.cycle slot conn mask).marks = [] := hcalls
  exact
    { waits := Or.inr hlast
      stopped := fun t ht => absurd ht (hset.stays t)
      written := written_of_parts htaken hset (fun hcut => Or.inr ⟨_, _, due_of_refused hf hclient hgoes, hcut⟩)
        (Or.inl (htaken.whole (by rw [hf]; simp)))
      asked := htaken.asked
      answer := Or.inr ⟨_, rfl⟩
      once := by rw [hcalls]; exact Nat.zero_le _
      called := fun shown hshown => by rw [hcalls] at hshown; exact absurd hshown List.not_mem_nil
      unread := fun h => by rw [hf] at h; exact absurd h (by simp)
      broken := fun g hg htransport => by
        obtain rfl := Intake.failed.inj (hf.symm.trans hg)
        rw [hclient] at htransport
        exact absurd htransport (by simp)
      refused := fun g hg _ _ => by
        obtain rfl := Intake.failed.inj (hf.symm.trans hg)
        refine ⟨⟨_, rfl, ?_, connection_complete _ _ _⟩, hclosed⟩
        rw [status_complete]
        rfl
      handedBack := fun next hnext => by
        obtain ⟨t, ht⟩ := hclosed
        rw [ht] at hnext
        exact absurd hnext (by simp) }

/-- A request that was read is answered. -/
theorem obeys_of_read
    (htaken : Taken (w.opening slot conn).slot conn.transport (w.intake slot conn mask) got goAhead sent)
    {keepAlive : Bool} (hread : (w.intake slot conn mask).1 = .read keepAlive) :
    Obeys w slot conn mask got goAhead
      (responseBytes ((answer w.site (w.intake slot conn mask).2.slot).complete w.site keepAlive)) := by
  obtain ⟨hsent, head, r, rest, d, hcomplete, hkeep, hslot⟩ := htaken.read keepAlive hread
  have hsettle : w.settle conn.peer (w.intake slot conn mask) =
      w.execute conn.peer keepAlive (w.intake slot conn mask).2 := settle_of_intake hread
  have hexecute := (deliver_settled w conn.peer keepAlive
    (answer w.site (w.intake slot conn mask).2.slot) (w.intake slot conn mask).2).after
      (m := .enter .execute) rfl
  rw [← Worker.execute, ← hsettle] at hexecute
  obtain ⟨hset, -⟩ := cycle_settled hexecute
  obtain ⟨hcalls, hlast⟩ := hset.waits.calls_marks
  have hshown := calls_answer w.site (w.intake slot conn mask).2.slot
  have hcomplete : Complete (w.opening slot conn).slot (conn.pending ++ got) head r rest := hcomplete
  exact
    { waits := Or.inr hlast
      stopped := fun t ht => absurd ht (hset.stays t)
      written := written_of_parts htaken hset (fun hcut => Or.inr ⟨_, _, due_of_read hread, hcut⟩) (Or.inl hsent)
      asked := htaken.asked
      answer := Or.inr ⟨_, rfl⟩
      once := by
        rw [hcalls]
        rcases hshown with h | h <;> rw [h]
        · exact Nat.zero_le _
        · exact Nat.le_refl _
      called := fun shown hmem => by
        rw [hcalls] at hmem
        rcases hshown with h | h <;> rw [h] at hmem
        · exact absurd hmem List.not_mem_nil
        · obtain rfl := List.mem_singleton.1 hmem
          obtain ⟨after, hhead, hbody⟩ := hcomplete.hasBody
          rw [hslot]
          exact ⟨head, after, rest, hhead, hcomplete, hbody⟩
      unread := fun h => by rw [hread] at h; exact absurd h (by simp)
      broken := fun f hf => by rw [hread] at hf; exact absurd hf (by simp)
      refused := fun f hf => by rw [hread] at hf; exact absurd hf (by simp)
      handedBack := fun next hnext => by
        obtain ⟨rfl, hpeer, hpending⟩ := hset.handedBack next hnext
        refine ⟨hread, head, r, rest, _, hcomplete, hkeep.symm, rfl, connection_complete _ _ _, hpeer,
          hpending, fun hsite => ?_⟩
        rw [hpending]
        refine (buffer_answer hsite _).trans ?_
        rw [hslot] }

/-- What a cycle writes for a request that it has read is the answer of the site, and the request is the one at the
front of what was received. -/
theorem obeys_of_intake {keepAlive : Bool} {x : Link (Recorded (Taped σ))}
    (hread : w.intake slot conn mask = (.read keepAlive, x)) :
    ∃ got goAhead head rest,
      Obeys w slot conn mask got goAhead (responseBytes ((answer w.site x.slot).complete w.site keepAlive)) ∧
      Complete (w.opening slot conn).slot (conn.pending ++ got) head x.slot.request rest ∧
      keepAlive = keeps head x.slot.request := by
  obtain ⟨got, goAhead, sent, htaken⟩ := intake_takes w slot conn mask
  obtain ⟨-, head, r, rest, d, hcomplete, hkeep, hslot⟩ := htaken.read keepAlive (congrArg Prod.fst hread)
  have hobeys := obeys_of_read htaken (congrArg Prod.fst hread)
  have hrequest : x.slot.request = r := by
    rw [hread] at hslot
    rw [hslot]
  rw [hread] at hobeys
  rw [hrequest]
  exact ⟨got, goAhead, head, rest, hobeys, hcomplete, hkeep⟩

/-- A cycle over any transport, with any services, for any readiness, keeps the protocol. Of final responses it writes
the one that is due, and no other. -/
theorem obeys_due (w : Worker) (slot : Slot) (conn : Connection (Recorded (Taped σ))) (mask : Mask) :
    ∃ got goAhead, Obeys w slot conn mask got goAhead (w.finalBytes (w.due slot conn mask)) := by
  obtain ⟨got, goAhead, sent, htaken⟩ := intake_takes w slot conn mask
  refine ⟨got, goAhead, ?_⟩
  rcases hi : (w.intake slot conn mask).1 with _ | _ | f | keepAlive
  · have hdue : w.due slot conn mask = none := due_of_silent (Or.inl hi)
    rw [hdue]
    exact obeys_of_silent htaken (settle_of_intake hi) (Or.inl (htaken.whole (by rw [hi]; simp)))
      fun f hf => absurd (hi.symm.trans hf) (by simp)
  · have hdue : w.due slot conn mask = none := due_of_silent (Or.inr hi)
    rw [hdue]
    exact obeys_of_silent htaken (settle_of_intake hi) (Or.inr hi)
      fun f hf => absurd (hi.symm.trans hf) (by simp)
  · rcases htransport : f.isTransport
    · rcases hcrash : f.isCrash
      · rw [due_of_refused hi htransport hcrash]
        exact obeys_of_refused htaken hi htransport hcrash
      · rw [due_of_failed hi (by rw [hcrash, Bool.or_true])]
        exact obeys_of_overflow htaken hi hcrash
    · rw [due_of_failed hi (by rw [htransport, Bool.true_or])]
      refine obeys_of_silent htaken ((settle_of_intake hi).trans (if_pos htransport))
        (Or.inl (htaken.whole (by rw [hi]; simp))) fun g hg => ?_
      obtain rfl := Intake.failed.inj (hi.symm.trans hg)
      exact htransport
  · rw [due_of_read hi]
    exact obeys_of_read htaken hi
end Obeying

end Switchboard.Server
