import Switchboard.Proofs.Exchange.Bounds
import Switchboard.Proofs.Exchange.RoundTrip
import Switchboard.Proofs.Http.Chunk.WiderBounds

/-!
Reading under higher limits. A request that is read under some limits is read under higher ones too, over the same
transport, to the same slot and with the same bytes left: each limit is only compared with what has come so far. But the
two bounds on what is buffered of a head are sums of machine words, and with a limit near the end of the words such a sum
is no word any more. So reading ends with an overflow under higher limits just if the loop that waits for the head has
to wait, at some point, with a buffer that is compared with such a sum (`raised_limits_iff`); and it does not if both
sums are machine words.
-/

namespace Switchboard.Exchange

open Http

/-! ## Higher limits -/

/-- The limits `m` are as high as `l` at least, and ask for as many bytes at a time. -/
structure RaisesTo (l m : Limits) : Prop where
  readCache : m.readCache = l.readCache
  maxUrl : l.maxUrl ≤ m.maxUrl
  maxHeader : l.maxHeader ≤ m.maxHeader
  maxBody : l.maxBody ≤ m.maxBody

/-- The sum that the beginning of a head is compared with is a machine word. -/
structure Comparable (m : Limits) (b : Bytes) : Prop where
  unended : Head.splitLine? b = none → m.maxUrl.toNat + 32 < 2 ^ 64
  ended : ∀ line rest, Head.splitLine? b = some (line, rest) → m.maxHeader.toNat + 4 < 2 ^ 64

theorem SumsFit.comparable {m : Limits} (h : SumsFit m) (b : Bytes) : Comparable m b :=
  ⟨fun _ => h.line, fun _ _ _ => h.header⟩

/-- The slot under other limits. -/
def Slot.withLimits (s : Slot) (m : Limits) : Slot :=
  { s with limits := m, decoder := s.decoder.withBounds m.maxBody.toNat m.maxHeader.toNat }

/-- A slot works under limits that are no higher than these, and so does its decoder. -/
structure Slot.Below (m : Limits) (s : Slot) : Prop where
  limits : RaisesTo s.limits m
  maxBody : s.decoder.maxBody ≤ m.maxBody.toNat
  maxTrailer : s.decoder.maxTrailer ≤ m.maxHeader.toNat

theorem Slot.Below.of_receives {m : Limits} {s t : Slot} (h : s.Below m) (ht : s.Receives t) : t.Below m := by
  obtain ⟨hbody, htrailer⟩ := Chunk.limits_of_reset ht.decoder
  refine ⟨?_, ?_, ?_⟩
  · rw [ht.limits]
    exact h.limits
  · rw [hbody]
    exact h.maxBody
  · rw [htrailer]
    exact h.maxTrailer

namespace Link

variable {σ : Type}

/-- The link with its slot under other limits. -/
def withLimits (x : Link σ) (m : Limits) : Link σ := x.mapSlot (·.withLimits m)

variable [Transport σ]

/-- The slots with which a loop asks for more bytes. -/
def waits {α : Type} (test : Slot → Verdict Slot α) (x : Link σ) : List Slot :=
  match test x.slot with
  | .done _ _ => []
  | .failed _ _ => []
  | .more slot =>
    match _h : fill { x with slot } with
    | (.error _, _) => [slot]
    | (.ok (), next) => slot :: waits test next
termination_by x.supply
decreasing_by
  have := supply_fill (x := { x with slot }) (by rw [_h])
  rw [_h] at this
  exact this

/-! ## The loop -/

section Loop

variable {α : Type} {test : Slot → Verdict Slot α} {m : Limits} {x y : Link σ}

/-- As many bytes are asked for under the higher limits, and the same come. -/
theorem fill_withLimits (h : x.slot.Below m) : (x.withLimits m).fill = (x.fill.1, x.fill.2.withLimits m) := by
  have hsize : m.readSize = x.slot.limits.readSize := by
    rw [Limits.readSize, Limits.readSize, h.limits.readCache]
  unfold fill
  rw [show (x.withLimits m).slot.limits.readSize = x.slot.limits.readSize from hsize,
    show (x.withLimits m).session = x.session from rfl]
  rcases x.session.read x.slot.limits.readSize with ⟨f | _ | ⟨b, bytes⟩, session⟩ <;> rfl

/-- A test under higher limits. Where it was satisfied it is satisfied. Where it asked for more, it asks for more if the
buffer is `May`, and fails otherwise. -/
structure Lifts (m : Limits) (test : Slot → Verdict Slot α) (May : Slot → Prop) (Refusal : Fault → Prop) : Prop where
  receives (s : Slot) : s.Receives (test s).slot
  done {s t : Slot} {a : α} (hs : s.Below m) (ht : test s = .done a t) :
    test (s.withLimits m) = .done a (t.withLimits m)
  more {s t : Slot} (hs : s.Below m) (ht : test s = .more t) (hmay : May t) :
    test (s.withLimits m) = .more (t.withLimits m)
  refused {s t : Slot} (hs : s.Below m) (ht : test s = .more t) (hmay : ¬ May t) :
    ∃ f u, Refusal f ∧ test (s.withLimits m) = .failed f u

/-- A loop that succeeds goes the same way under higher limits, unless it waits with a buffer that it may not have. -/
theorem pump_raised {May : Slot → Prop} {Refusal : Fault → Prop} (hlift : Lifts m test May Refusal)
    (hx : x.slot.Below m) {a : α} (hok : x.pump test = (.ok a, y)) :
    (∀ s ∈ x.waits test, May s) ∧ (x.withLimits m).pump test = (.ok a, y.withLimits m) ∨
      (∃ s ∈ x.waits test, ¬ May s) ∧ ∃ f z, Refusal f ∧ (x.withLimits m).pump test = (.error f, z) := by
  fun_induction waits test x with
  | case1 x b t ht =>
    rw [pump_done ht] at hok
    obtain ⟨hb, rfl⟩ := Prod.mk.inj hok
    obtain rfl := Except.ok.inj hb
    refine Or.inl ⟨fun s hs => absurd hs List.not_mem_nil, ?_⟩
    exact pump_done (x := x.withLimits m) (hlift.done hx ht)
  | case2 x f t ht =>
    rw [pump_failed ht] at hok
    exact absurd (congrArg Prod.fst hok) (by simp)
  | case3 x t ht f z hf =>
    rw [pump_more_error ht hf] at hok
    exact absurd (congrArg Prod.fst hok) (by simp)
  | case4 x t ht next hf ih =>
    rw [pump_more_ok ht hf] at hok
    have ht' := hlift.receives x.slot
    rw [ht] at ht'
    have hbelow : t.Below m := hx.of_receives ht'
    by_cases hmay : May t
    · have hfill := fill_withLimits (x := { x with slot := t }) hbelow
      rw [hf] at hfill
      obtain ⟨piece, -, hslot⟩ := slot_of_fill hf
      have hnext : next.slot.Below m := by
        rw [hslot]
        exact hbelow.of_receives ((Slot.Receives.refl t).withBuffer _)
      have hwide := pump_more_ok (x := x.withLimits m) (hlift.more hx ht hmay) hfill
      rw [hwide]
      rcases ih hnext hok with ⟨hall, hpump⟩ | ⟨⟨s, hs, hnot⟩, hrefused⟩
      · exact Or.inl ⟨List.forall_mem_cons.2 ⟨hmay, hall⟩, hpump⟩
      · exact Or.inr ⟨⟨s, List.mem_cons_of_mem t hs, hnot⟩, hrefused⟩
    · obtain ⟨f, u, hrefusal, hfailed⟩ := hlift.refused hx ht hmay
      exact Or.inr ⟨⟨t, List.mem_cons_self, hmay⟩, f, _, hrefusal, pump_failed (x := x.withLimits m) hfailed⟩

end Loop

end Link

/-! ## The tests -/

section Tests

variable {m : Limits}

/-- What a head is waited with for is waited with under higher limits, unless the sum that it is compared with is not a
machine word. -/
theorem headTest_raised {s t : Slot} (hs : s.Below m) (ht : headTest .request s = .more t) :
    (Comparable m t.buffer → headTest .request (s.withLimits m) = .more (t.withLimits m)) ∧
      (¬ Comparable m t.buffer → ∃ u, headTest .request (s.withLimits m) = .failed .overflow u) := by
  have hallows := allows_of_more ht
  obtain ⟨hnone, rfl⟩ := headTest_of_more ht
  have hurl := UInt64.le_iff_toNat_le.1 hs.limits.maxUrl
  have hheader := UInt64.le_iff_toNat_le.1 hs.limits.maxHeader
  rcases hline : Head.splitLine? (Head.dropBlankLines s.buffer) with _ | ⟨line, rest⟩
  · have htest : headTest .request (s.withLimits m) = _ :=
      headTest_of_line (s := s.withLimits m) (b := Head.dropBlankLines s.buffer) rfl hline
    have hroom := hallows.unended hline
    refine ⟨fun hsum => ?_, fun hsum => ?_⟩
    · have hsum := hsum.unended hline
      rw [lineRoom_of_lt (by omega)] at hroom
      rw [show (s.withLimits m).limits = m from rfl, lineRoom_of_lt hsum] at htest
      exact htest.trans (if_pos (by omega))
    · have hsum : ¬ m.maxUrl.toNat + 32 < 2 ^ 64 := fun h => hsum ⟨fun _ => h, fun l r hl => by
        rw [show _ = _ from hline] at hl
        exact absurd hl (by simp)⟩
      rw [show (s.withLimits m).limits = m from rfl, lineRoom_of_overflow hsum, lineFault_of_overflow hsum] at htest
      exact ⟨_, htest.trans (if_neg (Nat.not_lt_zero _))⟩
  · have htest : headTest .request (s.withLimits m) = _ :=
      headTest_of_section (s := s.withLimits m) (b := Head.dropBlankLines s.buffer) rfl hnone hline
    have hroom := hallows.ended line rest hline
    refine ⟨fun hsum => ?_, fun hsum => ?_⟩
    · have hsum := hsum.ended line rest hline
      rw [sectionRoom_of_lt (by omega)] at hroom
      rw [show (s.withLimits m).limits = m from rfl, sectionRoom_of_lt hsum] at htest
      exact htest.trans (if_pos (by omega))
    · have hsum : ¬ m.maxHeader.toNat + 4 < 2 ^ 64 := fun h => hsum ⟨fun hl => by
        rw [show _ = _ from hline] at hl
        exact absurd hl (by simp), fun _ _ _ => h⟩
      rw [show (s.withLimits m).limits = m from rfl, sectionRoom_of_overflow hsum, sectionFault_of_overflow hsum] at htest
      exact ⟨_, htest.trans (if_neg (Nat.not_lt_zero _))⟩

theorem lifts_headTest (m : Limits) :
    Link.Lifts m (headTest .request) (fun t => Comparable m t.buffer) (· = .overflow) where
  receives := receives_headTest .request
  done {s t head} _ ht := by
    obtain ⟨rest, hs, rfl⟩ := headTest_of_done ht
    have hs' : Head.split? (Head.dropBlankLines (s.withLimits m).buffer) = some (head, rest) := hs
    simp only [headTest, hs']
    rfl
  more hs ht hsum := (headTest_raised hs ht).1 hsum
  refused hs ht hsum := by
    obtain ⟨u, hu⟩ := (headTest_raised hs ht).2 hsum
    exact ⟨_, u, rfl, hu⟩

/-- The decoder goes the same way under higher limits, as long as no byte is refused under the lower ones. -/
theorem decode_withLimits {s : Slot} (hs : s.Below m) (h : (s.decoder.decode s.buffer).fault = none) :
    (s.withLimits m).decoder.decode (s.withLimits m).buffer =
      { s.decoder.decode s.buffer with
        decoder := (s.decoder.decode s.buffer).decoder.withBounds m.maxBody.toNat m.maxHeader.toNat } :=
  Chunk.decode_widened h hs.maxBody hs.maxTrailer

theorem lifts_chunkTest (m : Limits) :
    Link.Lifts m (chunkTest .request) (fun _ => True) (fun _ => False) where
  receives := receives_chunkTest
  done {s t _} hs ht := by
    obtain ⟨hnone, hfin, rfl⟩ := chunkTest_eq_done_iff.1 ht
    rw [chunkTest_eq_done_iff, decode_withLimits hs hnone]
    exact ⟨hnone, hfin, rfl⟩
  more {s t} hs ht _ := by
    obtain ⟨hnone, hfin, rfl⟩ := chunkTest_eq_more_iff.1 ht
    rw [chunkTest_eq_more_iff, decode_withLimits hs hnone]
    exact ⟨hnone, hfin, rfl⟩
  refused _ _ hmay := absurd trivial hmay

theorem lifts_sizedTest (m : Limits) (n : Nat) :
    Link.Lifts m (sizedTest n) (fun _ => True) (fun _ => False) where
  receives := receives_sizedTest n
  done {s t _} _ ht := by
    obtain ⟨hlen, rfl, rfl⟩ := sizedTest_eq_done_iff.1 ht
    exact sizedTest_eq_done_iff.2 ⟨hlen, rfl, rfl⟩
  more {s t} _ ht _ := by
    obtain ⟨hlen, rfl⟩ := sizedTest_eq_more_iff.1 ht
    exact sizedTest_eq_more_iff.2 ⟨hlen, rfl⟩
  refused _ _ hmay := absurd trivial hmay

end Tests

/-! ## Reading -/

/-- A request that is opened is opened under higher limits. -/
theorem openRequest_raised {m : Limits} {s t : Slot} {head : Bytes} (hs : s.Below m)
    (h : s.openRequest head = (.ok (), t)) : (s.withLimits m).openRequest head = (.ok (), t.withLimits m) := by
  obtain ⟨line, fields, r, hparse, hline, hcoding, hlength, rfl⟩ := openRequest_eq_ok_iff.1 h
  have hparse' := Head.parse_of_le hparse (UInt64.le_iff_toNat_le.1 hs.limits.maxHeader)
  have hline' := RequestLine.parse_of_le hline (UInt64.le_iff_toNat_le.1 hs.limits.maxUrl)
  exact openRequest_eq_ok_iff.2 ⟨line, fields, r, hparse', hline', hcoding, hlength, rfl⟩

namespace Link

variable {σ : Type} [Transport σ] {m : Limits} {x y : Link σ}

/-- A loop that no limit makes wait in vain goes the same way under higher limits. -/
theorem pump_withLimits {α : Type} {test : Slot → Verdict Slot α}
    (hlift : Lifts m test (fun _ => True) (fun _ => False)) (hx : x.slot.Below m) {a : α}
    (hok : x.pump test = (.ok a, y)) : (x.withLimits m).pump test = (.ok a, y.withLimits m) := by
  rcases pump_raised hlift hx hok with ⟨-, hpump⟩ | ⟨⟨s, -, hnot⟩, -⟩
  · exact hpump
  · exact absurd trivial hnot

theorem readChunked_raised (hx : x.slot.Below m) (hok : x.readChunked .request = (.ok (), y)) :
    (x.withLimits m).readChunked .request = (.ok (), y.withLimits m) :=
  pump_withLimits (x := x.mapSlot fun s => { s with decoder := s.decoder.start }) (lifts_chunkTest m)
    (hx.of_receives ⟨rfl, rfl⟩) hok

theorem readSized_raised {n : Nat} (hx : x.slot.Below m) (hok : x.readSized n .request = (.ok (), y)) :
    (x.withLimits m).readSized n .request = (.ok (), y.withLimits m) := by
  have hle := UInt64.le_iff_toNat_le.1 hx.limits.maxBody
  unfold readSized at hok ⊢
  by_cases hbig : n > x.slot.limits.maxBody.toNat
  · rw [if_pos hbig] at hok
    exact absurd (congrArg Prod.fst hok) (by simp)
  · rw [if_neg hbig] at hok
    have hbig' : ¬ n > (x.withLimits m).slot.limits.maxBody.toNat := by
      show ¬ n > m.maxBody.toNat
      omega
    rw [if_neg hbig']
    rcases hp : x.pump (sizedTest n) with ⟨f | data, z⟩ <;> rw [hp] at hok
    · exact absurd (congrArg Prod.fst hok) (by simp)
    · rw [pump_withLimits (lifts_sizedTest m n) hx hp]
      obtain ⟨-, rfl⟩ := Prod.mk.inj hok
      rfl

/-- A body that is read is read under higher limits. -/
theorem readBody_raised (hx : x.slot.Below m) (hok : x.readBody = (.ok (), y)) :
    (x.withLimits m).readBody = (.ok (), y.withLimits m) := by
  have hrequest : (x.withLimits m).slot.request = x.slot.request := rfl
  unfold readBody at hok ⊢
  rw [hrequest]
  by_cases hchunked : x.slot.request.isChunked = true
  · rw [if_pos hchunked] at hok ⊢
    exact readChunked_raised hx hok
  · rw [if_neg hchunked] at hok ⊢
    rcases hlength : x.slot.request.contentLength with f | _ | n <;> rw [hlength] at hok <;> simp only at hok ⊢
    · exact absurd (congrArg Prod.fst hok) (by simp)
    · obtain ⟨-, rfl⟩ := Prod.mk.inj hok
      rfl
    · exact readSized_raised hx hok

/-- The slots with which the loop for the head of a request waits. -/
def headWaits (x : Link σ) : List Slot := (x.mapSlot Slot.cleared).waits (headTest .request)

/-- A request that is read is read to the same under higher limits, unless the wait for its head comes to a buffer that
is compared with a sum that is no machine word. -/
theorem readRequest_raised (hx : x.slot.Below m) (hok : x.readRequest = (.ok (), y)) :
    (∀ s ∈ x.headWaits, Comparable m s.buffer) ∧ (x.withLimits m).readRequest = (.ok (), y.withLimits m) ∨
      (∃ s ∈ x.headWaits, ¬ Comparable m s.buffer) ∧
        ∃ z, (x.withLimits m).readRequest = (.error .overflow, z) := by
  have hcleared : x.slot.Receives x.slot.cleared := ⟨rfl, rfl⟩
  have hbelow := hx.of_receives hcleared
  have hkept := receives_pump (receives_headTest .request) (x.mapSlot Slot.cleared)
  have hcommute : (x.withLimits m).mapSlot Slot.cleared = (x.mapSlot Slot.cleared).withLimits m := rfl
  rw [readRequest_eq] at hok
  rw [readRequest_eq, hcommute]
  rcases hp : (x.mapSlot Slot.cleared).pump (headTest .request) with ⟨f | head, z⟩ <;> rw [hp] at hok hkept
  · exact absurd (congrArg Prod.fst hok) (by simp)
  rcases pump_raised (lifts_headTest m) hbelow hp with ⟨hall, hpump⟩ | ⟨hnot, f, z', rfl, hpump⟩
  · refine Or.inl ⟨hall, ?_⟩
    have hz : z.slot.Below m := hbelow.of_receives hkept
    rw [hpump]
    simp only at hok ⊢
    rcases ho : z.slot.openRequest head with ⟨f | _, t⟩ <;> rw [ho] at hok
    · exact absurd (congrArg Prod.fst hok) (by simp)
    have ht : t.Below m := by
      have hopen := z.slot.receives_openRequest head
      rw [ho] at hopen
      exact hz.of_receives hopen
    rw [show (z.withLimits m).slot.openRequest head = (.ok (), t.withLimits m) from openRequest_raised hz ho]
    have hexpect : (t.withLimits m).request.expectContinue = t.request.expectContinue := rfl
    simp only [hexpect] at hok ⊢
    by_cases hgoAhead : t.request.expectContinue = true
    · rw [if_pos hgoAhead] at hok ⊢
      obtain ⟨-, rfl⟩ := Prod.mk.inj hok
      rfl
    · rw [if_neg hgoAhead] at hok ⊢
      exact readBody_raised (x := { z with slot := t }) ht hok
  · refine Or.inr ⟨hnot, z', ?_⟩
    rw [hpump]

end Link

variable {σ : Type} [Transport σ]

/-- Over the same transport, a request that is read under some limits is read under higher limits to the same slot, the
limits in it aside, with the same bytes left in its buffer and in the transport, just if each sum of the higher limits
that a buffer is compared with on the way is a machine word. Otherwise reading ends with an overflow. Both sums of the
higher limits are machine words unless such a limit is within its slack of the end of the words. -/
theorem raised_limits_iff {l m : Limits} (hlm : RaisesTo l m) {x y : Link σ}
    (hok : (x.withLimits l).readRequest = (.ok (), y)) :
    ((x.withLimits m).readRequest = (.ok (), y.withLimits m) ↔
        ∀ s ∈ (x.withLimits l).headWaits, Comparable m s.buffer) ∧
      ((x.withLimits m).readRequest = (.ok (), y.withLimits m) ∨
        ∃ z, (x.withLimits m).readRequest = (.error .overflow, z)) ∧
      (SumsFit m → (x.withLimits m).readRequest = (.ok (), y.withLimits m)) := by
  have hbelow : (x.withLimits l).slot.Below m :=
    ⟨hlm, UInt64.le_iff_toNat_le.1 hlm.maxBody, UInt64.le_iff_toNat_le.1 hlm.maxHeader⟩
  rcases Link.readRequest_raised hbelow hok with ⟨hall, hread⟩ | ⟨⟨s, hs, hnot⟩, z, hread⟩
  · exact ⟨iff_of_true hread hall, Or.inl hread, fun _ => hread⟩
  · have hread : (x.withLimits m).readRequest = (.error .overflow, z) := hread
    refine ⟨iff_of_false ?_ fun hall => hnot (hall s hs), Or.inr ⟨z, hread⟩, fun hsums => ?_⟩
    · rw [hread]
      simp
    · exact absurd (hsums.comparable s.buffer) hnot

/-- A link over a request that comes in two parts, cut after its target. -/
def pausedLink : Link Script where
  slot := .new {}
  session :=
    .new
      { deliveries :=
          [.bytes (Text.utf8 "GET /pages/of/a/rather/deep/document"), .bytes (Text.utf8 " HTTP/1.1\r\n\r\n")] }

/-- The request is read under the limits by default, and not under a higher limit on its target. -/
theorem pausedLink_overflows_under_higher_limit :
    RaisesTo {} boundlessLimits ∧ (pausedLink.withLimits {}).readRequest.1 = .ok () ∧
      (∃ s ∈ (pausedLink.withLimits {}).headWaits, ¬ Comparable boundlessLimits s.buffer) ∧
      (pausedLink.withLimits boundlessLimits).readRequest.1 = .error .overflow := by
  have hraise : RaisesTo {} boundlessLimits := ⟨by decide, by decide, by decide, by decide⟩
  have hok : (pausedLink.withLimits {}).readRequest.1 = .ok () := by decide +kernel
  have hfails : (pausedLink.withLimits boundlessLimits).readRequest.1 = .error .overflow := by decide +kernel
  obtain ⟨hiff, -, -⟩ := raised_limits_iff (x := pausedLink) hraise (Prod.ext hok rfl)
  refine ⟨hraise, hok, ?_, hfails⟩
  by_contra hall
  have hread := hiff.2 fun s hs => not_not.1 fun hnot => hall ⟨s, hs, hnot⟩
  rw [hread] at hfails
  exact absurd hfails (by simp)

end Switchboard.Exchange
