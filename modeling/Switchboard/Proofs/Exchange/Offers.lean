import Switchboard.Exchange.Recorded
import Switchboard.Exchange.Send

/-!
The writes that sending makes. Whatever a transport does with them (take all of an offer, a part of it or nothing, let
the session wait in vain, fail), the bytes taken are a first part of those to be sent, and sending succeeds if and only
if they are all of them. No write offers more than the limit, one that takes nothing ends the sending, and it ends early
only when the transport makes it (`Sent`). The same holds of a head and a body sent one after the other
(`messages_sent_exactly`).

What can be read from a transport plays no part in this. Any polls and writes are those of a transport
(`Transport.ofWrites`), so nothing is assumed of them but that a write takes no more than it is offered.
-/

namespace Switchboard.Exchange

open Http

/-- The transport with these polls and writes that gives nothing to read. -/
@[reducible] def Transport.ofWrites {σ : Type} (poll : σ → Except Fault Bool × σ)
    (write : Bytes → σ → Except Fault Nat × σ)
    (bound : ∀ bytes s n, (write bytes s).1 = .ok n → n ≤ bytes.length) : Transport σ where
  poll _ := poll
  read _ s := (.ok [], s)
  write := write
  urgent s := (.ok none, s)
  close s := (.ok (), s)
  read_length n s bytes h := by
    obtain rfl : [] = bytes := Except.ok.inj h
    exact Nat.zero_le n
  write_bound := bound
  supply _ := 0
  supply_poll _ _ := Nat.le_refl 0
  supply_read _ _ := Nat.le_refl 0
  read_supply n s bytes h := by
    obtain rfl : [] = bytes := Except.ok.inj h
    exact Nat.le_refl 0
  supply_write _ _ := Nat.le_refl 0

/-- The bytes taken of a list of offers. -/
def accepted (made : List Offer) : Bytes := (made.map Offer.accepted).flatten

theorem accepted_append (made more : List Offer) : accepted (made ++ more) = accepted made ++ accepted more := by
  rw [accepted, accepted, accepted, List.map_append, List.flatten_append]

theorem accepted_singleton (o : Offer) : accepted [o] = o.accepted := List.append_nil _

variable {σ : Type} [Transport σ]

/-! ## Ways to end -/

/-- Why sending ended early: the transport was not ready for writing, or the last write failed, or it took nothing. -/
inductive Stops (patience : Nat) (made : List Offer) (u : Recorded σ) : Fault → Prop
  | unready {t : Recorded σ} {f : Fault} (h : waitFor .writing patience t = (.error f, u)) : Stops patience made u f
  | failed {t : Recorded σ} {o : Offer} {f : Fault} (hlast : o ∈ made.getLast?)
      (h : Channel.write o.bytes t = (.error f, u)) : Stops patience made u f
  | closed {o : Offer} (hlast : o ∈ made.getLast?) (hnone : o.taken = some 0) : Stops patience made u .closed

theorem Stops.after {patience : Nat} {made : List Offer} {u : Recorded σ} {f : Fault} (h : Stops patience made u f)
    (before : List Offer) : Stops patience (before ++ made) u f := by
  have hlast : ∀ o ∈ made.getLast?, o ∈ (before ++ made).getLast? := fun o ho => by
    rw [List.getLast?_append, Option.mem_def.1 ho]
    rfl
  cases h with
  | unready h => exact .unready h
  | failed ho h => exact .failed (hlast _ ho) h
  | closed ho hnone => exact .closed (hlast _ ho) hnone

/-- How bytes were sent: between two states of a transport some writes were made, which took a first part of the bytes,
all of them if and only if it succeeded. -/
structure Sent (patience chunk : Nat) (bytes : Bytes) (t u : Recorded σ) (made : List Offer)
    (r : Except Fault Unit) : Prop where
  record : u.offers = made.reverse ++ t.offers
  taken : accepted made <+: bytes
  all : r = .ok () ↔ accepted made = bytes
  offered : ∀ o ∈ made, o.bytes ≠ [] ∧ o.bytes.length ≤ chunk
  closed : ∀ o ∈ made, o.taken = some 0 → r = .error .closed
  stopped : ∀ f, r = .error f → Stops patience made u f

namespace Sent

variable {patience chunk : Nat} {bytes head body : Bytes} {t u v : Recorded σ} {made made' : List Offer}
  {r : Except Fault Unit}

theorem written (h : Sent patience chunk bytes t u made r) : u.written = t.written ++ accepted made := by
  rw [Recorded.written, Recorded.written, h.record, List.reverse_append, List.reverse_reverse, List.map_append,
    List.flatten_append]
  rfl

/-- Nothing is sent in no write. -/
theorem nothing (t : Recorded σ) : Sent patience chunk [] t t [] (.ok ()) where
  record := rfl
  taken := List.nil_prefix
  all := iff_of_true rfl rfl
  offered := List.forall_mem_nil _
  closed := List.forall_mem_nil _
  stopped _ h := absurd h (by simp)

/-- Some bytes are sent, then others. -/
theorem append (hhead : Sent patience chunk head t u made (.ok ())) (hbody : Sent patience chunk body u v made' r) :
    Sent patience chunk (head ++ body) t v (made ++ made') r := by
  have hall := hhead.all.1 rfl
  refine ⟨?_, ?_, ?_, ?_, ?_, fun f hf => (hbody.stopped f hf).after made⟩
  · rw [hbody.record, hhead.record, List.reverse_append, List.append_assoc]
  · rw [accepted_append, hall]
    exact (List.prefix_append_right_inj head).2 hbody.taken
  · rw [accepted_append, hall, List.append_cancel_left_eq]
    exact hbody.all
  · exact List.forall_mem_append.2 ⟨hhead.offered, hbody.offered⟩
  · refine List.forall_mem_append.2 ⟨fun o ho hnone => ?_, hbody.closed⟩
    exact absurd (hhead.closed o ho hnone) (by simp)

/-- What did not send some bytes does not send them with others after them. -/
theorem short {f : Fault} (h : Sent patience chunk head t u made (.error f)) (body : Bytes) :
    Sent patience chunk (head ++ body) t u made (.error f) := by
  refine ⟨h.record, h.taken.trans (List.prefix_append head body), ?_, h.offered, h.closed, h.stopped⟩
  refine iff_of_false (by simp) fun hall => ?_
  -- as much as the head and the body together is in the head, hence all of the head
  have hle := h.taken.length_le
  have hlength := congrArg List.length hall
  rw [List.length_append] at hlength
  exact absurd (h.all.2 (h.taken.eq_of_length (by omega))) (by simp)

end Sent

/-! ## Sessions -/

theorem offers_waitFor (i : Interest) (n : Nat) (t : Recorded σ) : (waitFor i n t).2.offers = t.offers := by
  induction n generalizing t with
  | zero => rfl
  | succ n ih =>
    have hp : (Channel.poll i t).2.offers = t.offers := rfl
    rw [waitFor]
    rcases he : Channel.poll i t with ⟨f | _ | _, t'⟩ <;> rw [he] at hp
    · exact hp
    · exact (ih t').trans hp
    · exact hp

theorem offers_write {bytes : Bytes} {t u : Recorded σ} {r : Except Fault Nat}
    (h : Channel.write bytes t = (r, u)) : u.offers = ⟨bytes, r.toOption⟩ :: t.offers := by
  have hrecord : (Channel.write bytes t).2.offers = ⟨bytes, (Channel.write bytes t).1.toOption⟩ :: t.offers := rfl
  rwa [h] at hrecord

/-- What came of offering some bytes: the wait for readiness failed, or a write was made. -/
inductive Attempt (patience : Nat) (bytes : Bytes) (t u : Recorded σ) : Except Fault Nat → Prop
  | unready {f : Fault} (h : waitFor .writing patience t = (.error f, u)) : Attempt patience bytes t u (.error f)
  | made {t' : Recorded σ} {r : Except Fault Nat} (hrecord : u.offers = ⟨bytes, r.toOption⟩ :: t.offers)
      (h : Channel.write bytes t' = (r, u)) : Attempt patience bytes t u r

theorem attempt_of_write {x y : Session (Recorded σ)} {bytes : Bytes} {r : Except Fault Nat}
    (h : x.write bytes = (r, y)) : y.timeout = x.timeout ∧ Attempt x.timeout bytes x.transport y.transport r := by
  have hoffers := offers_waitFor .writing x.timeout x.transport
  rw [Session.write] at h
  rcases he : waitFor .writing x.timeout x.transport with ⟨f | _, t⟩ <;> rw [he] at h hoffers
  · obtain ⟨rfl, rfl⟩ := Prod.mk.inj h
    exact ⟨rfl, .unready he⟩
  · obtain ⟨hr, rfl⟩ := Prod.mk.inj h
    have hw : Channel.write bytes t = (r, (Channel.write bytes t).2) := Prod.ext hr rfl
    have hoffers : t.offers = x.transport.offers := hoffers
    exact ⟨rfl, .made (hoffers ▸ offers_write hw) hw⟩

namespace Sent

variable {patience chunk n : Nat} {bytes piece : Bytes} {t u : Recorded σ} {f : Fault}

/-- One write sent some bytes, or not. -/
theorem single {o : Offer} {r : Except Fault Unit} (hrecord : u.offers = o :: t.offers)
    (hoffer : o.bytes ≠ [] ∧ o.bytes.length ≤ chunk) (htaken : o.accepted <+: bytes)
    (hall : r = .ok () ↔ o.accepted = bytes) (hclosed : o.taken = some 0 → r = .error .closed)
    (hstopped : ∀ f, r = .error f → Stops patience [o] u f) : Sent patience chunk bytes t u [o] r where
  record := hrecord
  taken := by rwa [accepted_singleton]
  all := by rwa [accepted_singleton]
  offered := List.forall_mem_singleton.2 hoffer
  closed := List.forall_mem_singleton.2 hclosed
  stopped := hstopped

/-- An attempt that fails ends the sending. -/
theorem failed (hpiece : piece ≠ [] ∧ piece.length ≤ chunk) (hbytes : bytes ≠ [])
    (h : Attempt patience piece t u (.error f)) : ∃ made, Sent patience chunk bytes t u made (.error f) := by
  have hshort : (Except.error f : Except Fault Unit) = .ok () ↔ [] = bytes :=
    iff_of_false (by simp) fun h => hbytes h.symm
  cases h with
  | unready h =>
    have hoffers := offers_waitFor .writing patience t
    rw [h] at hoffers
    refine ⟨[], hoffers, List.nil_prefix, hshort, List.forall_mem_nil _, List.forall_mem_nil _, fun g hg => ?_⟩
    obtain rfl := Except.error.inj hg
    exact .unready h
  | made hrecord h =>
    refine ⟨[⟨piece, none⟩], single hrecord hpiece List.nil_prefix hshort (by simp) fun g hg => ?_⟩
    obtain rfl := Except.error.inj hg
    exact .failed rfl h

/-- A write that takes nothing ends the sending. -/
theorem refused (hpiece : piece ≠ [] ∧ piece.length ≤ chunk) (hbytes : bytes ≠ [])
    (h : Attempt patience piece t u (.ok 0)) : ∃ made, Sent patience chunk bytes t u made (.error .closed) := by
  cases h with
  | made hrecord h =>
    refine ⟨[⟨piece, some 0⟩], single hrecord hpiece List.nil_prefix ?_ (fun _ => rfl) fun g hg => ?_⟩
    · exact iff_of_false (by simp) fun h => hbytes h.symm
    · obtain rfl := Except.error.inj hg
      exact .closed rfl rfl

/-- A write that takes some bytes has sent these. -/
theorem took (hpiece : piece ≠ [] ∧ piece.length ≤ chunk) (hn : n ≠ 0) (h : Attempt patience piece t u (.ok n)) :
    n ≤ piece.length ∧ ∃ made, Sent patience chunk (piece.take n) t u made (.ok ()) := by
  cases h with
  | @made t' _ hrecord h =>
    refine ⟨Channel.write_bound piece t' n (congrArg Prod.fst h), [⟨piece, some n⟩], ?_⟩
    refine single hrecord hpiece (List.prefix_refl _) (iff_of_true rfl rfl) (fun hnone => ?_) fun g hg => ?_
    · exact absurd (Option.some.inj hnone) hn
    · exact absurd hg (by simp)

end Sent

/-- Writing all bytes sends them, as far as the transport lets it. -/
theorem writeAll_sent (x : Session (Recorded σ)) (chunk : Nat) (bytes : Bytes) :
    (x.writeAll chunk bytes).2.timeout = x.timeout ∧
      ∃ made, Sent x.timeout (max chunk 1) bytes x.transport (x.writeAll chunk bytes).2.transport made
        (x.writeAll chunk bytes).1 := by
  have hpiece {bytes : Bytes} (hb : ¬ bytes = []) :
      bytes.take (max chunk 1) ≠ [] ∧ (bytes.take (max chunk 1)).length ≤ max chunk 1 := by
    rw [ne_eq, List.take_eq_nil_iff, not_or]
    exact ⟨⟨by omega, hb⟩, List.length_take_le _ _⟩
  fun_induction Session.writeAll chunk x bytes with
  | case1 x => exact ⟨rfl, [], .nothing _⟩
  | case2 x bytes hb f y hw =>
    obtain ⟨htimeout, hattempt⟩ := attempt_of_write hw
    exact ⟨htimeout, Sent.failed (hpiece hb) hb hattempt⟩
  | case3 x bytes hb y hw =>
    obtain ⟨htimeout, hattempt⟩ := attempt_of_write hw
    exact ⟨htimeout, Sent.refused (hpiece hb) hb hattempt⟩
  | case4 x bytes hb n y hw hn ih =>
    obtain ⟨htimeout, hattempt⟩ := attempt_of_write hw
    obtain ⟨hle, made, htook⟩ := Sent.took (hpiece hb) hn hattempt
    obtain ⟨htimeout', made', hrest⟩ := ih
    -- what the write took is the front of all that is left, not of the offer only
    have htake : (bytes.take (max chunk 1)).take n = bytes.take n := by
      rw [List.length_take] at hle
      rw [List.take_take, Nat.min_eq_left (by omega)]
    have hsent := htook.append (htimeout ▸ hrest)
    rw [htake, List.take_append_drop] at hsent
    exact ⟨htimeout'.trans htimeout, made ++ made', hsent⟩

namespace Link

/-- Sending leaves the slot and the patience as they were, and sends the bytes as far as the transport lets it. -/
structure Sends (x : Link (Recorded σ)) (bytes : Bytes) (sent : Except Fault Unit × Link (Recorded σ)) : Prop where
  slot : sent.2.slot = x.slot
  timeout : sent.2.session.timeout = x.session.timeout
  made : ∃ made, Sent x.session.timeout (max x.slot.limits.writeCache.toNat 1) bytes x.session.transport
    sent.2.session.transport made sent.1

theorem send_sends (x : Link (Recorded σ)) (bytes : Bytes) : x.Sends bytes (x.send bytes) := by
  obtain ⟨htimeout, made, hmade⟩ := writeAll_sent x.session x.slot.limits.writeSize bytes
  have hsize : max x.slot.limits.writeSize 1 = max x.slot.limits.writeCache.toNat 1 :=
    Nat.max_eq_left (Nat.le_max_right _ 1)
  rw [hsize] at hmade
  exact ⟨rfl, htimeout, made, hmade⟩

/-- A head and a body are sent as if they were one. -/
theorem sendParts_sends (x : Link (Recorded σ)) (head body : Bytes) :
    x.Sends (head ++ body) (x.sendParts head body) := by
  obtain ⟨hslot, htimeout, made, hhead⟩ := x.send_sends head
  unfold sendParts
  rcases he : x.send head with ⟨f | _, y⟩ <;> rw [he] at hslot htimeout hhead
  · exact ⟨hslot, htimeout, made, hhead.short body⟩
  · obtain ⟨hslot', htimeout', made', hbody⟩ := y.send_sends body
    have hslot : y.slot = x.slot := hslot
    have htimeout : y.session.timeout = x.session.timeout := htimeout
    rw [hslot, htimeout] at hbody
    exact ⟨hslot'.trans hslot, htimeout'.trans htimeout, made ++ made', hhead.append hbody⟩

/-- Messages are sent exactly, over any transport. A request is sent as its head and its body, a response as its head
and, unless only the head is wanted, its body, and the go-ahead as the head of the interim response: the writes take a
first part of these bytes, all of them if and only if sending succeeds; each offers some bytes, no more than the limit
(one at least); one that takes nothing ends the sending as closed; and sending ends early only where the transport was
not ready, or the last write failed or took nothing. The message stays as it was. -/
theorem messages_sent_exactly (x : Link (Recorded σ)) (headOnly : Bool) :
    x.Sends (x.slot.request.head ++ x.slot.request.body) x.sendRequest ∧
      x.Sends (x.slot.response.head ++ if headOnly then [] else x.slot.response.body) (x.sendResponse headOnly) ∧
      x.Sends (Response.interim x.slot.request.version).head x.sendContinue :=
  ⟨x.sendParts_sends _ _, x.sendParts_sends _ _, x.send_sends _⟩

/-- Of a go-ahead, three bytes are taken, then two, then one and then none. -/
example :
    letI : Transport Nat := .ofWrites (fun s => (.ok true, s))
      (fun bytes s => (.ok (min s bytes.length), s - 1)) (fun bytes s n h => by cases h; exact Nat.min_le_right _ _)
    (sendContinue ⟨.new {}, .new (⟨3, 0, [], 0⟩ : Recorded Nat)⟩).2.session.transport.written =
      Text.utf8 "HTTP/1" := by
  decide +kernel

end Link
end Switchboard.Exchange
