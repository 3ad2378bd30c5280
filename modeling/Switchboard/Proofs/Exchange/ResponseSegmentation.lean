import Switchboard.Proofs.Exchange.Hearing

/-!
How far it matters how a response is cut into deliveries. What is read of a response is always what the whole stream
holds, but a link may refuse a stream that another accepts: the bytes without a line end that may be buffered are
bounded by the limit for header fields, and nothing bounds the status line once it has ended. A response is accepted
in every delivery, or in none, exactly when its status line is within that limit
(`response_independent_of_delivery_iff`). With requests the limits on the line and on what is buffered agree, and no
such condition is needed.
-/

namespace Switchboard.Exchange

open Http

/-- The status line of the response that the stream holds, if it holds one, is within the limit for header fields. -/
def Slot.LineFits (s : Slot) (toHead : Bool) (e : StreamEnd) (stream : Bytes) : Prop :=
  ∀ p, s.responseOf? toHead e stream = some p →
    ∀ line rest, Head.splitLine? (Head.dropBlankLines stream) = some (line, rest) →
      line.length + 1 ≤ s.limits.maxHeader.toNat

/-- A link with the limits of a slot brings the stream, with what it has received of it, and then this end. -/
structure Link.Delivers (x : Link Script) (s : Slot) (stream : Bytes) (e : StreamEnd) : Prop where
  limits : s.SameLimits x.slot
  unread : x.unread = stream
  timely : x.IsTimely e

section Readings

variable {s : Slot} {x : Link Script} {stream : Bytes} {e : StreamEnd} {toHead : Bool}

/-- A head that is accepted fits if its line does, and if the bound on its fields is a machine word. -/
theorem headFits_of_openResponse {t : Slot} {head : Bytes} (hheader : s.limits.maxHeader.toNat < 2 ^ 63)
    (hopen : s.unanswered.openResponse head = (.ok (), t))
    (hline : ∀ line rest, Head.splitLine? head = some (line, rest) → line.length + 1 ≤ s.limits.maxHeader.toNat) :
    HeadFits .response s.limits head := by
  intro line rest hs
  obtain ⟨text, fields, l, hparse, -⟩ := openResponse_eq_ok_iff.1 hopen
  obtain ⟨line', rest', hs', hrest, -⟩ := splitLine?_of_parse hparse
  obtain ⟨rfl, rfl⟩ := Prod.mk.inj (Option.some.inj (hs.symm.trans hs'))
  have hrest : rest.length ≤ s.limits.maxHeader.toNat := hrest
  rw [sectionRoom_of_lt (by omega)]
  exact ⟨Nat.lt_succ_of_le (hline line rest hs), by omega⟩

/-- A delivery is read as the stream, or a head that does not fit is refused. -/
theorem heard_or_refused_of_delivers (toHead : Bool) (h : x.Delivers s stream e) :
    Link.Heard (s.responseOf? toHead e stream) (x.readResponse toHead) ∨
      (∃ f, (x.readResponse toHead).1 = .error f) ∧ ¬ x.HeadInBounds := by
  have hread := readResponse_heard_or_refused toHead h.timely
  rw [h.unread, ← responseOf?_congr h.limits] at hread
  exact hread

/-- A delivery that is accepted is read as the stream. -/
theorem heard_of_ok (h : x.Delivers s stream e) (hok : (x.readResponse toHead).1 = .ok ()) :
    Link.Heard (s.responseOf? toHead e stream) (x.readResponse toHead) := by
  refine (heard_or_refused_of_delivers toHead h).resolve_right fun hrefused => ?_
  obtain ⟨⟨f, hf⟩, -⟩ := hrefused
  rw [hok] at hf
  exact absurd hf (by simp)

/-- A stream whose status line fits is read in every delivery. -/
theorem heard_of_lineFits (hheader : s.limits.maxHeader.toNat < 2 ^ 63) (hfits : s.LineFits toHead e stream)
    (h : x.Delivers s stream e) :
    Link.Heard (s.responseOf? toHead e stream) (x.readResponse toHead) := by
  rcases heard_or_refused_of_delivers toHead h with hread | ⟨hrefused, hbounds⟩
  · exact hread
  rcases hr : s.responseOf? toHead e stream with _ | p
  · exact hrefused
  · refine absurd (fun head after hs => ?_) hbounds
    rw [h.unread] at hs
    obtain ⟨⟨r, after'⟩, hhead, -⟩ := Option.bind_eq_some_iff.1 hr
    obtain ⟨head', t, hs', hopen, -⟩ := responseHeadOf?_eq_some_iff.1 hhead
    obtain ⟨rfl, rfl⟩ := Prod.mk.inj (Option.some.inj (hs.symm.trans hs'))
    have hin : HeadFits .response s.limits head := by
      refine headFits_of_openResponse hheader hopen fun line rest hline => ?_
      refine hfits p hr line (rest ++ after) ?_
      rw [Head.split?_eq_some hs]
      exact Head.splitLine?_append hline after
    -- the bounds are those of the slot that the link has its limits from
    intro line rest hline
    obtain ⟨hroom, hsection⟩ := hin line rest hline
    have hheader' := h.limits.header
    refine ⟨?_, ?_⟩
    · rw [lineRoom, ← hheader']
      exact hroom
    · rw [sectionRoom, Limits.sectionBound?, ← hheader']
      exact hsection

end Readings

/-! ## A delivery that is accepted, and one that is refused -/

/-- The deliveries that end a stream. -/
def StreamEnd.deliveries : StreamEnd → List Delivery
  | .closed => [.eof]
  | .silent => []
  | .broken detail => [.readFault detail]

/-- A link that has received nothing yet gets these pieces, each in one read if a machine word can count it. -/
def Slot.receiving (s : Slot) (pieces : List Bytes) (e : StreamEnd) : Link Script where
  slot := { s with buffer := [], limits := { s.limits with readCache := UInt64.ofNat (2 ^ 64 - 1) } }
  session := .new { deliveries := pieces.map .bytes ++ e.deliveries }

section Pieces

variable {piece : Bytes}

theorem arrives_pieces {patience : Nat} {pieces : List Bytes} (hp : 0 < patience)
    (hne : ∀ piece ∈ pieces, piece ≠ []) (e : StreamEnd) :
    Script.Arrives patience .silence 0 (pieces.map .bytes ++ e.deliveries) pieces.flatten e := by
  induction pieces with
  | nil =>
    cases e with
    | closed => exact .eof hp
    | silent => exact .silence (Or.inl rfl)
    | broken detail => exact .readFault hp
  | cons piece pieces ih =>
    exact .bytes hp (hne piece List.mem_cons_self) (ih fun p hm => hne p (List.mem_cons_of_mem piece hm))

theorem delivers_receiving (s : Slot) (pieces : List Bytes) (hne : ∀ piece ∈ pieces, piece ≠ []) (e : StreamEnd) :
    (s.receiving pieces e).Delivers s pieces.flatten e := by
  have harrives := arrives_pieces (show 0 < Session.defaultTimeout by decide) hne e
  refine ⟨⟨rfl, rfl, rfl, rfl⟩, harrives.dataOf_eq, ?_⟩
  have hdata : Script.dataOf (s.receiving pieces e).session.transport.deliveries = pieces.flatten := harrives.dataOf_eq
  rw [Link.IsTimely, hdata]
  exact harrives

/-- Such a link reads its first piece at once. -/
theorem fill_receiving (s : Slot) (pieces : List Bytes) (e : StreamEnd) (hne : piece ≠ [])
    (hlen : piece.length < 2 ^ 64) :
    ((s.receiving (piece :: pieces) e).mapSlot Slot.unanswered).fill =
      (.ok (), ⟨{ (s.receiving (piece :: pieces) e).slot.unanswered with buffer := piece },
        (s.receiving pieces e).session⟩) := by
  have hn : piece.length ≤ (s.receiving (piece :: pieces) e).slot.limits.readSize := by
    refine Nat.le_trans ?_ (Nat.le_max_left _ 1)
    show piece.length ≤ 2 ^ 64 - 1
    omega
  have hread : ((s.receiving (piece :: pieces) e).mapSlot Slot.unanswered).session.read
      ((s.receiving (piece :: pieces) e).mapSlot Slot.unanswered).slot.limits.readSize =
        (.ok piece, (s.receiving pieces e).session) :=
    Script.read_bytes {} (pieces.map Delivery.bytes ++ e.deliveries)
      (show 0 < Session.defaultTimeout by decide) hn
  rw [Link.fill, hread]
  cases piece with
  | nil => exact absurd rfl hne
  | cons b piece => rfl

/-- What such a link reads begins with the test of its first piece. -/
theorem pump_receiving (s : Slot) (pieces : List Bytes) (e : StreamEnd) (hne : piece ≠ [])
    (hlen : piece.length < 2 ^ 64) :
    ((s.receiving (piece :: pieces) e).mapSlot Slot.unanswered).pump (headTest .response) =
      Link.pump (headTest .response)
        ⟨{ (s.receiving (piece :: pieces) e).slot.unanswered with buffer := piece },
          (s.receiving pieces e).session⟩ :=
  Link.pump_more_ok (headTest_of_empty (Nat.succ_pos _) rfl) (fill_receiving s pieces e hne hlen)

end Pieces

section Cutting

variable {s : Slot} {stream : Bytes} {e : StreamEnd} {toHead : Bool}

/-- A line that is too long is refused before its line end is complete. -/
theorem headTest_of_long_status (hl : Head.splitLine? (Head.dropBlankLines s.buffer) = none)
    (hlong : s.limits.maxHeader.toNat < (Head.dropBlankLines s.buffer).length) :
    headTest .response s =
      .failed (.headerTooLarge s.limits.maxHeader.toNat) { s with buffer := Head.dropBlankLines s.buffer } := by
  simp only [headTest, Head.split?_eq_none_of_splitLine? hl, hl]
  exact if_pos hlong

/-- A response that comes in one piece is accepted. -/
theorem readResponse_whole {p : Response × Bytes} (h : s.responseOf? toHead e stream = some p)
    (hlen : stream.length < 2 ^ 64) : ((s.receiving [stream] e).readResponse toHead).1 = .ok () := by
  obtain ⟨⟨r, after⟩, hhead, -⟩ := Option.bind_eq_some_iff.1 h
  obtain ⟨head, t, hs, -, -⟩ := responseHeadOf?_eq_some_iff.1 hhead
  have hne : stream ≠ [] := by
    rintro rfl
    exact absurd hs (by simp [Head.dropBlankLines, Head.split?])
  have hpump := (pump_receiving s [] e hne hlen).trans (Link.pump_done (headTest_of_split hs))
  have hP : Script.BringsUntil (s.receiving [] e).session e (s.receiving [] e).session [] :=
    ⟨_, rfl, arrives_pieces (show 0 < Session.defaultTimeout by decide) (by simp) e⟩
  have hread := readResponse_hears toHead (Script.feeds_arriving (s.receiving [] e).session e) hpump
    ⟨rfl, by rw [hs, List.append_nil]⟩ hP
  have hsame : s.SameLimits (s.receiving [stream] e).slot := ⟨rfl, rfl, rfl, rfl⟩
  have hcongr := responseOf?_congr hsame toHead e stream
  rw [← hcongr, h] at hread
  exact hread.1

/-- A response with a long status line is refused where a delivery ends inside its line end. -/
theorem readResponse_cut {part after line : Bytes} (hpart : Head.dropBlankLines part = line ++ [13])
    (hline : Head.splitLine? (line ++ [13]) = none) (hlong : s.limits.maxHeader.toNat < line.length + 1)
    (hne : part ≠ []) (hlen : part.length < 2 ^ 64) :
    ((s.receiving [part, after] e).readResponse toHead).1 = .error (.headerTooLarge s.limits.maxHeader.toNat) := by
  let t : Slot := { (s.receiving [part, after] e).slot.unanswered with buffer := part }
  have hbuffer : Head.dropBlankLines t.buffer = line ++ [13] := hpart
  have hnone : Head.splitLine? (Head.dropBlankLines t.buffer) = none := by
    rw [hbuffer]
    exact hline
  have hroom : t.limits.maxHeader.toNat < (Head.dropBlankLines t.buffer).length := by
    rw [hbuffer, List.length_append]
    exact hlong
  have hpump := (pump_receiving s [after] e hne hlen).trans (Link.pump_failed (headTest_of_long_status hnone hroom))
  rw [readResponse_eq, hpump]
  rfl

end Cutting

/-! ## The condition -/

section Condition

variable {s : Slot} {stream : Bytes} {e : StreamEnd} {toHead : Bool}

/-- A response with a status line that is too long is accepted in one piece, and refused in some two pieces. -/
theorem exists_refused_cut (hlong : ¬ s.LineFits toHead e stream) (hlen : stream.length < 2 ^ 64) :
    ∃ part after, stream = part ++ after ∧
      (s.receiving [stream] e).Delivers s stream e ∧ (s.receiving [part, after] e).Delivers s stream e ∧
      ((s.receiving [stream] e).readResponse toHead).1 = .ok () ∧
      ((s.receiving [part, after] e).readResponse toHead).1 =
        .error (.headerTooLarge s.limits.maxHeader.toNat) := by
  unfold Slot.LineFits at hlong
  push Not at hlong
  obtain ⟨p, hp, line, rest, hs, hroom⟩ := hlong
  obtain ⟨part, hcut, hpart, hdrop⟩ := Head.exists_cut_in_lineEnd hs
  have hne : stream ≠ [] := by
    rw [hcut]
    exact List.append_ne_nil_of_left_ne_nil hpart _
  have hwhole := delivers_receiving s [stream] (by simpa using hne) e
  have hpieces := delivers_receiving s [part, 10 :: rest] (by simp [hpart]) e
  rw [List.flatten_cons, List.flatten_nil, List.append_nil] at hwhole
  rw [List.flatten_cons, List.flatten_cons, List.flatten_nil, List.append_nil, ← hcut] at hpieces
  have hshort : part.length < 2 ^ 64 := by
    rw [hcut, List.length_append] at hlen
    omega
  exact ⟨part, 10 :: rest, hcut, hwhole, hpieces, readResponse_whole hp hlen,
    readResponse_cut hdrop (Head.splitLine?_unfinished hs) hroom hpart hshort⟩

/-- Two links that bring the same stream and end in time read the same response and leave the same bytes, if both
accept it: those that the whole stream holds. Where the status line is within the limit for header fields, both accept
it, if the stream holds a response, or neither does; where it is not, the response is accepted in one piece and refused
in two that part inside the line end. -/
theorem response_independent_of_delivery_iff (hheader : s.limits.maxHeader.toNat < 2 ^ 63) :
    (∀ x y : Link Script, x.Delivers s stream e → y.Delivers s stream e →
      (x.readResponse toHead).1 = .ok () → (y.readResponse toHead).1 = .ok () →
        (x.readResponse toHead).2.slot.response = (y.readResponse toHead).2.slot.response ∧
          (x.readResponse toHead).2.unread = (y.readResponse toHead).2.unread ∧
          (x.readResponse toHead).2.unread <:+ stream ∧
          s.responseOf? toHead e stream =
            some ((x.readResponse toHead).2.slot.response, (x.readResponse toHead).2.unread)) ∧
    (s.LineFits toHead e stream →
      ∀ x y : Link Script, x.Delivers s stream e → y.Delivers s stream e →
        ((x.readResponse toHead).1 = .ok () ↔ (y.readResponse toHead).1 = .ok ()) ∧
          ((x.readResponse toHead).1 = .ok () ↔ (s.responseOf? toHead e stream).isSome = true)) ∧
    (¬ s.LineFits toHead e stream → stream.length < 2 ^ 64 →
      ∃ part after, stream = part ++ after ∧
        (s.receiving [stream] e).Delivers s stream e ∧ (s.receiving [part, after] e).Delivers s stream e ∧
        ((s.receiving [stream] e).readResponse toHead).1 = .ok () ∧
        ((s.receiving [part, after] e).readResponse toHead).1 =
          .error (.headerTooLarge s.limits.maxHeader.toNat)) := by
  refine ⟨fun x y hx hy hxok hyok => ?_, fun hfits x y hx hy => ?_, exists_refused_cut⟩
  · obtain ⟨r, rest, hr, hxr, hxrest⟩ := (heard_of_ok hx hxok).of_ok hxok
    obtain ⟨r', rest', hr', hyr, hyrest⟩ := (heard_of_ok hy hyok).of_ok hyok
    obtain ⟨rfl, rfl⟩ := Prod.mk.inj (Option.some.inj (hr.symm.trans hr'))
    rw [hxr, hxrest]
    exact ⟨hyr.symm, hyrest.symm, suffix_of_responseOf? hr, hr⟩
  · have hxiff := (heard_of_lineFits hheader hfits hx).ok_iff
    have hyiff := (heard_of_lineFits hheader hfits hy).ok_iff
    exact ⟨hxiff.trans hyiff.symm, hxiff⟩

end Condition

/-- Limits that leave little room for header fields. -/
def narrowLimits : Limits := { maxHeader := 24 }

/-- A response whose status line is longer than that. -/
def wordyResponse : Bytes := Text.utf8 "HTTP/1.1 200 Quite all right indeed\r\nContent-Length: 0\r\n\r\n"

/-- The response is accepted in one piece and refused in two. -/
theorem wordyResponse_depends_on_delivery :
    ∃ part after, wordyResponse = part ++ after ∧
      ((Slot.new narrowLimits).receiving [wordyResponse] .closed).Delivers (.new narrowLimits) wordyResponse .closed ∧
      ((Slot.new narrowLimits).receiving [part, after] .closed).Delivers (.new narrowLimits) wordyResponse .closed ∧
      (((Slot.new narrowLimits).receiving [wordyResponse] .closed).readResponse false).1 = .ok () ∧
      (((Slot.new narrowLimits).receiving [part, after] .closed).readResponse false).1 =
        .error (.headerTooLarge 24) := by
  have hlong : ¬ (Slot.new narrowLimits).LineFits false .closed wordyResponse := by
    intro hfits
    have hr : ∃ p, (Slot.new narrowLimits).responseOf? false .closed wordyResponse = some p := by
      rw [← Option.isSome_iff_exists]
      decide +kernel
    obtain ⟨p, hp⟩ := hr
    have hline := hfits p hp (Text.utf8 "HTTP/1.1 200 Quite all right indeed") (Text.utf8 "Content-Length: 0\r\n\r\n")
      (by decide +kernel)
    exact absurd hline (by decide +kernel)
  exact (response_independent_of_delivery_iff (by decide)).2.2 hlong (by decide +kernel)

end Switchboard.Exchange
