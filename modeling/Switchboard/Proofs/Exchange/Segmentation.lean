import Switchboard.Proofs.Exchange.Reading
import Switchboard.Proofs.Exchange.Steady
import Switchboard.Proofs.Http.Fields
import Switchboard.Proofs.Http.StartLine

/-!
How a request is cut into deliveries does not matter. A link that is fed a stream reads what the whole stream
holds (`readWhole_reads`), and that does not depend on the cutting, the stalls or the size of the reads. The
bounds on what is buffered before a head is complete refuse no head that would be accepted, as long as they are machine
words (`acceptedFits_of_sums`); if one of them is not, reading ends with an overflow in some cutting
(`exists_overflow_front`).
-/

namespace Switchboard.Exchange

open Http

/-! ## Accepted heads fit -/

/-- What an accepted head holds. -/
theorem exists_of_openRequest {s : Slot} {head : Bytes} (h : (s.openRequest head).1 = .ok ()) :
    ∃ line fields r, Head.parse head s.limits.maxHeader.toNat = .ok (line, fields) ∧
      RequestLine.parse line s.limits.maxUrl.toNat = .ok r := by
  obtain ⟨line, fields, r, hparse, hline, -⟩ := openRequest_eq_ok_iff.1 (Prod.ext h rfl)
  exact ⟨line, fields, r, hparse, hline⟩

theorem splitLine?_of_parse {head : Bytes} {maxHeader : Nat} {line : String} {fields : Fields}
    (h : Head.parse head maxHeader = .ok (line, fields)) :
    ∃ start rest, Head.splitLine? head = some (start, rest) ∧ rest.length ≤ maxHeader ∧
      line = Text.lossy start := by
  obtain ⟨start, rest, hs, hlen, -, hline⟩ := Head.parse_eq_ok_iff.1 h
  exact ⟨start, rest, hs, hlen, hline⟩

/-- The first line and the fields of a head that is accepted are within the limits by less than the two slacks. -/
theorem length_le_of_openRequest {s : Slot} {head line fields : Bytes} (hopen : (s.openRequest head).1 = .ok ())
    (hl : Head.splitLine? head = some (line, fields)) :
    line.length ≤ s.limits.maxUrl.toNat + 17 ∧ fields.length ≤ s.limits.maxHeader.toNat := by
  obtain ⟨text, fs, r, hparse, hline⟩ := exists_of_openRequest hopen
  obtain ⟨start, rest, hs, hrest, rfl⟩ := splitLine?_of_parse hparse
  obtain ⟨rfl, rfl⟩ := Prod.mk.inj (Option.some.inj (hl.symm.trans hs))
  obtain ⟨hascii, hlen⟩ := RequestLine.length_le_of_parse hline
  rw [Text.length_of_lossy_ascii hascii] at hlen
  exact ⟨hlen, hrest⟩

/-- If their sums are machine words, the bounds leave room for everything that is accepted. -/
theorem acceptedFits_of_sums {s : Slot} (h : SumsFit s.limits) (stream : Bytes) : AcceptedFits s stream := by
  intro head after _ hopen line fields hl
  have hlen : line.length ≤ s.limits.maxUrl.toNat + 17 ∧ fields.length ≤ s.limits.maxHeader.toNat :=
    length_le_of_openRequest (s := s.cleared) hopen hl
  rw [lineRoom_of_lt h.line, sectionRoom_of_lt h.header]
  omega

theorem acceptedFits_of_lt {s : Slot} (hurl : s.limits.maxUrl.toNat < 2 ^ 63)
    (hheader : s.limits.maxHeader.toNat < 2 ^ 63) (stream : Bytes) : AcceptedFits s stream :=
  acceptedFits_of_sums (sumsFit_of_lt hurl hheader) stream

/-- A head that is accepted fits if and only if the bounds are machine words. -/
theorem acceptedFits_iff {s : Slot} {stream : Bytes} {p : Request × Bytes} (h : s.headOf? stream = some p) :
    AcceptedFits s stream ↔ SumsFit s.limits := by
  refine ⟨fun hfit => ?_, fun hsums => acceptedFits_of_sums hsums stream⟩
  obtain ⟨head, t, hsplit, hopen, -⟩ := headOf?_eq_some_iff.1 h
  obtain ⟨line, fields, hline⟩ := Head.exists_splitLine?_of_split? hsplit
  obtain ⟨hroom, hsection⟩ := hfit head _ hsplit (congrArg Prod.fst hopen) line fields hline
  constructor
  · by_contra hurl
    rw [lineRoom_of_overflow hurl] at hroom
    exact absurd hroom (Nat.not_lt_zero _)
  · by_contra hheader
    rw [sectionRoom_of_overflow hheader] at hsection
    exact absurd hsection (Nat.not_lt_zero _)

/-- A line that is too long is refused when all but half of its line end has come. -/
theorem exists_refused_line {l : Limits} {stream line rest : Bytes}
    (h : Head.splitLine? (Head.dropBlankLines stream) = some (line, rest)) (hlong : lineRoom l .request ≤ line.length + 1) :
    ∃ front rest, stream = front ++ (10 :: rest) ∧ ∀ t : Slot, t.limits = l → t.buffer = front →
      ∃ b, headTest .request t = .failed (lineFault l .request) { t with buffer := b } := by
  obtain ⟨front, hstream, -, hfront⟩ := Head.exists_cut_in_lineEnd h
  refine ⟨front, rest, hstream, fun t hl hb => ⟨line ++ [13], ?_⟩⟩
  rw [headTest_of_line (by rw [hb, hfront]) (Head.splitLine?_unfinished h), hl, List.length_append]
  exact if_neg (Nat.not_lt_of_le hlong)

/-- A header section that is too long is refused when all but its last byte has come. -/
theorem exists_refused_section {l : Limits} {stream head after line fields : Bytes}
    (h : Head.split? (Head.dropBlankLines stream) = some (head, after))
    (hline : Head.splitLine? head = some (line, fields)) (hlong : sectionRoom l ≤ fields.length + 1) :
    ∃ front rest, stream = front ++ (10 :: rest) ∧ ∀ t : Slot, t.limits = l → t.buffer = front →
      ∃ b, headTest .request t = .failed (sectionFault l) { t with buffer := b } := by
  obtain ⟨blanks, hstream, hblanks⟩ := Head.exists_blankLines stream
  obtain ⟨u, rfl, -⟩ := Head.cut?_of_split? h
  obtain ⟨w, hw⟩ : ∃ w, w = u ++ [13, 10, 13] := ⟨_, rfl⟩
  have hhead : u ++ Head.blankLine = w ++ [10] := by
    rw [hw]
    simp [Head.blankLine]
  have hfull : Head.dropBlankLines stream = w ++ (10 :: after) := by
    rw [Head.split?_eq_some h, hhead]
    simp
  -- the first line has come as a whole
  have hpart : ∃ rest, Head.splitLine? w = some (line, rest) ∧ fields = rest ++ [10] := by
    rcases hs : Head.splitLine? w with _ | ⟨line', rest⟩
    · rw [Head.splitLine?_eq_cut?] at hs
      exact absurd ⟨u, [13], by rw [hw]; simp [Text.crlf]⟩ (Head.not_infix_of_cut? (by decide) hs)
    · have hmore := Head.splitLine?_append hs [10]
      rw [← hhead, hline] at hmore
      obtain ⟨rfl, rfl⟩ := Prod.mk.inj (Option.some.inj hmore)
      exact ⟨rest, rfl, rfl⟩
  obtain ⟨rest, hpart, rfl⟩ := hpart
  have hnone : Head.split? w = none := by
    rw [hfull] at h
    refine Head.split?_eq_none_of_lt h ?_
    rw [hhead, List.length_append]
    exact Nat.lt_succ_self _
  have hdrop : Head.dropBlankLines (blanks ++ w) = w := by
    refine hblanks w fun hp => Head.not_prefix_dropBlankLines stream ?_
    rw [hfull]
    exact hp.trans (List.prefix_append w _)
  refine ⟨blanks ++ w, after, by rw [List.append_assoc, ← hfull]; exact hstream, fun t hl hb => ?_⟩
  refine ⟨w, ?_⟩
  rw [headTest_of_section (by rw [hb, hdrop]) hnone hpart, hl]
  refine if_neg ?_
  rw [Head.splitLine?_eq_some hpart]
  simp only [List.length_append, Text.crlf, List.length_cons, List.length_nil] at hlong ⊢
  omega

/-- A head that would be accepted but does not fit ends the program if the bytes are parted at the right place, which
is inside a line end. -/
theorem exists_overflow_front {s : Slot} {stream : Bytes} (h : ¬ AcceptedFits s stream) :
    ∃ front rest, stream = front ++ (10 :: rest) ∧ ∀ t : Slot, t.limits = s.limits → t.buffer = front →
      ∃ b, headTest .request t = .failed .overflow { t with buffer := b } := by
  simp only [AcceptedFits, HeadFits, not_forall] at h
  obtain ⟨head, after, hsplit, hopen, line, fields, hline, hbig⟩ := h
  have hlen : line.length ≤ s.limits.maxUrl.toNat + 17 ∧ fields.length ≤ s.limits.maxHeader.toNat :=
    length_le_of_openRequest (s := s.cleared) hopen hline
  by_cases hlong : lineRoom s.limits .request ≤ line.length + 1
  · have hl := Head.splitLine?_append hline after
    rw [← Head.split?_eq_some hsplit] at hl
    have hsum : ¬ s.limits.maxUrl.toNat + 32 < 2 ^ 64 := fun hsum => by
      rw [lineRoom_of_lt hsum] at hlong
      omega
    rw [← lineFault_of_overflow hsum]
    exact exists_refused_line hl hlong
  · have hsection : sectionRoom s.limits ≤ fields.length + 1 :=
      Nat.le_of_not_lt fun hfits => hbig ⟨Nat.lt_of_not_le hlong, hfits⟩
    have hsum : ¬ s.limits.maxHeader.toNat + 4 < 2 ^ 64 := fun hsum => by
      rw [sectionRoom_of_lt hsum] at hsection
      omega
    rw [← sectionFault_of_overflow hsum]
    exact exists_refused_section hsplit hline hsection

/-! ## Readings of equal streams -/

/-- Two slots agree in all limits that decide what is accepted. -/
structure Slot.SameLimits (s t : Slot) : Prop where
  url : s.limits.maxUrl = t.limits.maxUrl
  header : s.limits.maxHeader = t.limits.maxHeader
  body : s.limits.maxBody = t.limits.maxBody
  decoder : s.decoder.reset = t.decoder.reset

/-- New slots have the limits of their decoders from their own. -/
theorem sameLimits_new {l m : Limits} (hu : l.maxUrl = m.maxUrl) (hh : l.maxHeader = m.maxHeader)
    (hb : l.maxBody = m.maxBody) : (Slot.new l).SameLimits (Slot.new m) :=
  ⟨hu, hh, hb, by rw [Slot.new, Slot.new, hb, hh]⟩

theorem openRequest_congr {s t : Slot} (h : s.SameLimits t) (head : Bytes) :
    (s.cleared.openRequest head).1 = (t.cleared.openRequest head).1 ∧
      (s.cleared.openRequest head).2.request = (t.cleared.openRequest head).2.request := by
  have hh : s.cleared.limits.maxHeader = t.cleared.limits.maxHeader := h.header
  have hu : s.cleared.limits.maxUrl = t.cleared.limits.maxUrl := h.url
  have hr : s.cleared.request = t.cleared.request := rfl
  simp only [Slot.openRequest, hh, hu, hr]
  repeat' split
  all_goals exact ⟨rfl, rfl⟩

theorem headOf?_congr {s t : Slot} (h : s.SameLimits t) (stream : Bytes) :
    s.headOf? stream = t.headOf? stream := by
  rw [Slot.headOf?, Slot.headOf?]
  refine congrArg _ (funext fun p => ?_)
  have hopen := openRequest_congr h p.1
  rcases hs : s.cleared.openRequest p.1 with ⟨f | u, s'⟩ <;>
    rcases ht : t.cleared.openRequest p.1 with ⟨g | v, t'⟩ <;> rw [hs, ht] at hopen
  · exact absurd hopen.1 (by simp)
  · exact absurd hopen.1 (by simp)
  · exact congrArg (fun r => some (r, p.2)) hopen.2

/-- Whether a head fits depends on the limits only. -/
theorem AcceptedFits.congr {s t : Slot} (h : s.SameLimits t) (hl : s.limits = t.limits) {stream : Bytes}
    (hfit : AcceptedFits s stream) : AcceptedFits t stream := by
  intro head after hsplit hopen
  rw [← hl]
  exact hfit head after hsplit ((openRequest_congr h head).1.trans hopen)

theorem requestOf?_congr {s t : Slot} (h : s.SameLimits t) (stream : Bytes) :
    s.requestOf? stream = t.requestOf? stream := by
  rw [Slot.requestOf?, Slot.requestOf?, headOf?_congr h]
  refine congrArg _ (funext fun p => ?_)
  exact bodyOf?_congr (s := { s with request := p.1 }) (t := { t with request := p.1 }) rfl h.body
    h.decoder p.2

theorem dropBlankLines_suffix (a : Bytes) : Head.dropBlankLines a <:+ a := by
  fun_induction Head.dropBlankLines a with
  | case1 rest ih => exact ih.trans ⟨[13, 10], rfl⟩
  | case2 a hne => exact List.suffix_refl a

theorem suffix_of_bodyOf? {s : Slot} {stream rest : Bytes} {r : Request}
    (h : s.bodyOf? stream = some (r, rest)) : rest <:+ stream := by
  simp only [Slot.bodyOf?] at h
  repeat' split at h
  all_goals first
    | obtain ⟨-, rfl⟩ := Prod.mk.inj (Option.some.inj h)
      first | exact List.drop_suffix _ _ | exact List.suffix_refl _
    | exact absurd h (by simp)

theorem suffix_of_headOf? {s : Slot} {stream rest : Bytes} {r : Request}
    (h : s.headOf? stream = some (r, rest)) : rest <:+ stream := by
  obtain ⟨head, t, hs, -, -⟩ := headOf?_eq_some_iff.1 h
  refine List.IsSuffix.trans ⟨head, ?_⟩ (dropBlankLines_suffix stream)
  exact (Head.split?_eq_some hs).symm

/-- What a reading leaves of a stream is an end of it. -/
theorem suffix_of_requestOf? {s : Slot} {stream rest : Bytes} {r : Request}
    (h : s.requestOf? stream = some (r, rest)) : rest <:+ stream := by
  rw [Slot.requestOf?] at h
  obtain ⟨⟨r', after⟩, hh, hb⟩ := Option.bind_eq_some_iff.1 h
  exact (suffix_of_bodyOf? hb).trans (suffix_of_headOf? hh)

/-! ## Readings of longer streams -/

/-- A body that has been read is read with more bytes after it. -/
theorem bodyOf?_append {s : Slot} {w rest : Bytes} {r : Request} (h : s.bodyOf? w = some (r, rest))
    (more : Bytes) : s.bodyOf? (w ++ more) = some (r, rest ++ more) := by
  by_cases hc : s.request.isChunked = true
  · rw [Slot.bodyOf?, if_pos hc] at h ⊢
    simp only at h ⊢
    split at h
    · next hp =>
      obtain ⟨hf, hfin⟩ := hp
      obtain ⟨rfl, rfl⟩ := Prod.mk.inj (Option.some.inj h)
      rw [Chunk.decode_append_of_stopped (Or.inr hfin), if_pos ⟨hf, hfin⟩,
        List.drop_append_of_le_length (Chunk.consumed_le hf)]
    · exact absurd h (by simp)
  · rw [Slot.bodyOf?, if_neg hc] at h ⊢
    rcases hn : s.request.contentLength with f | _ | n
    · rw [hn] at h
      exact absurd h (by simp)
    · rw [hn] at h
      obtain ⟨rfl, rfl⟩ := Prod.mk.inj (Option.some.inj h)
      rfl
    · rw [hn] at h
      simp only at h ⊢
      split at h
      · next hp =>
        obtain ⟨hmax, hlen⟩ := hp
        obtain ⟨rfl, rfl⟩ := Prod.mk.inj (Option.some.inj h)
        have hlen' : n ≤ (w ++ more).length := by
          rw [List.length_append]
          omega
        rw [if_pos ⟨hmax, hlen'⟩, List.take_append_of_le_length hlen,
          List.drop_append_of_le_length hlen]
      · exact absurd h (by simp)

/-- A head that has been read is read with more bytes after it. -/
theorem headOf?_append {s : Slot} {stream rest : Bytes} {r : Request}
    (h : s.headOf? stream = some (r, rest)) (more : Bytes) :
    s.headOf? (stream ++ more) = some (r, rest ++ more) := by
  obtain ⟨head, t, hs, ho, ht⟩ := headOf?_eq_some_iff.1 h
  exact headOf?_eq_some_iff.2 ⟨head, t, split?_dropBlankLines_append hs more, ho, ht⟩

/-- Nothing is read of a body that is not announced. -/
theorem bodyOf?_of_not_expectsBody {s : Slot} {w rest : Bytes} {r : Request}
    (he : s.request.expectsBody = false) (h : s.bodyOf? w = some (r, rest)) :
    r = s.request ∧ rest = w := by
  rw [Request.expectsBody, Bool.or_eq_false_iff] at he
  obtain ⟨hc, hn⟩ := he
  rw [Slot.bodyOf?, hc, if_neg Bool.false_ne_true] at h
  rcases hl : s.request.contentLength with f | _ | n <;> rw [hl] at h hn
  · exact absurd h (by simp)
  · obtain ⟨rfl, rfl⟩ := Prod.mk.inj (Option.some.inj h)
    exact ⟨rfl, rfl⟩
  · obtain rfl : n = 0 := by simpa using hn
    simp only [Nat.zero_le, and_self, if_true] at h
    obtain ⟨rfl, rfl⟩ := Prod.mk.inj (Option.some.inj h)
    refine ⟨?_, rfl⟩
    simp [Slot.deliver, Fields.append]

/-! ## Scripts -/

/-- The bytes that a link has received and not used yet, with those that its script still brings. -/
def Link.unread (x : Link Script) : Bytes :=
  x.slot.buffer ++ Script.dataOf x.session.transport.deliveries

/-- The script of a link brings its bytes without a stall that would exhaust the patience. -/
def Link.IsSteady (x : Link Script) : Prop :=
  Script.Steady x.session.timeout 0 x.session.transport.deliveries

instance (x : Link Script) : Decidable x.IsSteady := inferInstanceAs (Decidable (Script.Steady ..))

/-- A link with a steady script reads what the bytes that are unread hold. -/
theorem readWhole_steady {x : Link Script} (hurl : x.slot.limits.maxUrl.toNat < 2 ^ 63)
    (hheader : x.slot.limits.maxHeader.toNat < 2 ^ 63) (h : x.IsSteady) :
    match x.slot.requestOf? x.unread with
    | some (r, rest) => x.readWhole.1 = .ok () ∧ x.readWhole.2.slot.request = r ∧
        x.readWhole.2.unread = rest
    | none => ∃ f, x.readWhole.1 = .error f := by
  have hread := readWhole_reads (Script.feeds_brings x.session) ⟨_, rfl, h, rfl⟩
    (acceptedFits_of_lt hurl hheader _)
  rw [Link.unread]
  rcases hr : x.slot.requestOf? (x.slot.buffer ++ Script.dataOf x.session.transport.deliveries)
    with _ | ⟨r, rest⟩ <;> rw [hr] at hread
  · exact hread
  · obtain ⟨hok, ⟨stream, ⟨ds, hds, -, rfl⟩, hrest⟩, -, hslot⟩ := hread
    refine ⟨hok, by rw [hslot], ?_⟩
    rw [Link.unread, hds]
    exact hrest

/-- Two links that start with the same limits and the same bytes unread accept the same requests, and leave
the same bytes unread, however these are delivered. -/
theorem request_independent_of_delivery {x y : Link Script} (hlimits : x.slot.SameLimits y.slot)
    (hurl : x.slot.limits.maxUrl.toNat < 2 ^ 63) (hheader : x.slot.limits.maxHeader.toNat < 2 ^ 63)
    (hunread : x.unread = y.unread) (hx : x.IsSteady) (hy : y.IsSteady) :
    (x.readWhole.1 = .ok () ↔ y.readWhole.1 = .ok ()) ∧
      (x.readWhole.1 = .ok () →
        x.readWhole.2.slot.request = y.readWhole.2.slot.request ∧
          x.readWhole.2.unread = y.readWhole.2.unread ∧ x.readWhole.2.unread <:+ x.unread) := by
  have hxr := readWhole_steady hurl hheader hx
  have hyr := readWhole_steady (by rw [← hlimits.url]; exact hurl)
    (by rw [← hlimits.header]; exact hheader) hy
  rw [← hunread, ← requestOf?_congr hlimits] at hyr
  rcases hr : x.slot.requestOf? x.unread with _ | ⟨r, rest⟩ <;> rw [hr] at hxr hyr
  · obtain ⟨f, hf⟩ := hxr
    obtain ⟨g, hg⟩ := hyr
    rw [hf, hg]
    simp
  · obtain ⟨hxok, hxreq, hxrest⟩ := hxr
    obtain ⟨hyok, hyreq, hyrest⟩ := hyr
    refine ⟨by rw [hxok, hyok], fun _ => ⟨hxreq.trans hyreq.symm, hxrest.trans hyrest.symm, ?_⟩⟩
    rw [hxrest]
    exact suffix_of_requestOf? hr

/-- A request that comes at once, followed by other bytes. -/
def promptLink : Link Script where
  slot := .new {}
  session := .new { deliveries := [.bytes (Text.utf8 "\r\nPUT /a HTTP/1.1\r\nContent-Length: 2\r\n\r\nhiGET")] }

/-- The same bytes cut inside a line end and inside the body, with stalls, read one at a time. -/
def slowLink : Link Script where
  slot := .new { readCache := 0 }
  session :=
    .new
      { deliveries :=
          [.bytes [13], .stall 49, .bytes (Text.utf8 "\nPUT /a HTTP/1.1\r"), .stall 20, .stall 29,
            .bytes (Text.utf8 "\nContent-Length: 2\r\n\r\nh"), .bytes (Text.utf8 "iGET")]
        ending := .eof }

theorem slowLink_reads_as_promptLink :
    slowLink.readWhole.1 = .ok () ∧
      slowLink.readWhole.2.slot.request = promptLink.readWhole.2.slot.request ∧
      slowLink.readWhole.2.unread = promptLink.readWhole.2.unread := by
  have hprompt := readWhole_steady (x := promptLink) (by decide) (by decide) (by decide)
  have hr : ∃ p, promptLink.slot.requestOf? promptLink.unread = some p := by
    rw [← Option.isSome_iff_exists]
    decide +kernel
  obtain ⟨⟨r, rest⟩, hr⟩ := hr
  rw [hr] at hprompt
  obtain ⟨hiff, hsame⟩ := request_independent_of_delivery (x := slowLink) (y := promptLink)
    (sameLimits_new rfl rfl rfl) (by decide) (by decide) (by decide) (by decide) (by decide)
  have hok := hiff.2 hprompt.1
  exact ⟨hok, (hsame hok).1, (hsame hok).2.1⟩

end Switchboard.Exchange
