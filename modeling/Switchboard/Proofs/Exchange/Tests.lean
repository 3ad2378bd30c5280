import Mathlib.Algebra.Ring.Nat
import Switchboard.Exchange.Receive
import Switchboard.Proofs.Http.Chunk.Runs
import Switchboard.Proofs.Http.Head.Scan

/-!
What a reader does between two reads: it tests what is in the buffer, and opens the head it has found. For each test
the lemmas say what follows from its verdict, and what of the buffer decides it. The test for a head compares a buffer
without a head in it with the bounds of its limits (`headTest_unended`); the tests for a body depend on the decoder
(`chunkTest_cases`) or on the length of the buffer. A head is opened just if its parts are read and its fields say how
its body is framed (`openRequest_eq_ok_iff`).
-/

namespace Switchboard.Exchange

open Http

/-! ## Bounds on what is buffered -/

/-- The lengths within a bound are those below its room; a bound that is not a machine word has none. -/
def roomOf : Option Nat → Nat
  | none => 0
  | some n => n + 1

/-- A line without its end is waited with if it is shorter than this. -/
def lineRoom (l : Limits) : Direction → Nat
  | .request => roomOf l.lineBound?
  | .response => l.maxHeader.toNat + 1

/-- What follows a first line is waited with, without its end, if it is shorter than this. -/
def sectionRoom (l : Limits) : Nat := roomOf l.sectionBound?

/-- The first line and the fields of a head are within the bounds on what is buffered. -/
def HeadFits (dir : Direction) (l : Limits) (head : Bytes) : Prop :=
  ∀ line fields, Head.splitLine? head = some (line, fields) →
    line.length + 1 < lineRoom l dir ∧ fields.length + 1 < sectionRoom l

/-- The two bounds on what is buffered of a head are machine words. -/
structure SumsFit (l : Limits) : Prop where
  line : l.maxUrl.toNat + 32 < 2 ^ 64
  header : l.maxHeader.toNat + 4 < 2 ^ 64

instance (l : Limits) : Decidable (SumsFit l) :=
  decidable_of_iff (l.maxUrl.toNat + 32 < 2 ^ 64 ∧ l.maxHeader.toNat + 4 < 2 ^ 64)
    ⟨fun h => ⟨h.1, h.2⟩, fun h => ⟨h.line, h.header⟩⟩

theorem sumsFit_of_lt {l : Limits} (hurl : l.maxUrl.toNat < 2 ^ 63) (hheader : l.maxHeader.toNat < 2 ^ 63) :
    SumsFit l := ⟨by omega, by omega⟩

theorem SumsFit.congr {l m : Limits} (h : SumsFit l) (hurl : l.maxUrl = m.maxUrl) (hheader : l.maxHeader = m.maxHeader) :
    SumsFit m := ⟨hurl ▸ h.line, hheader ▸ h.header⟩

theorem roomOf_sum? (a b : UInt64) :
    roomOf (Limits.sum? a b) = if a.toNat + b.toNat < 2 ^ 64 then a.toNat + b.toNat + 1 else 0 := by
  unfold Limits.sum?
  rw [show Text.wordSize = 2 ^ 64 from rfl]
  split <;> rfl

/-- The room for a line is past the limit on a target by a constant, if the sum is a machine word. -/
theorem lineRoom_of_lt {l : Limits} (h : l.maxUrl.toNat + 32 < 2 ^ 64) :
    lineRoom l .request = l.maxUrl.toNat + 33 := (roomOf_sum? l.maxUrl 32).trans (if_pos h)

theorem lineRoom_of_overflow {l : Limits} (h : ¬ l.maxUrl.toNat + 32 < 2 ^ 64) : lineRoom l .request = 0 :=
  (roomOf_sum? l.maxUrl 32).trans (if_neg h)

/-- The room for a header section has two line ends beside the fields, if the sum is a machine word. -/
theorem sectionRoom_of_lt {l : Limits} (h : l.maxHeader.toNat + 4 < 2 ^ 64) :
    sectionRoom l = l.maxHeader.toNat + 5 := (roomOf_sum? l.maxHeader 4).trans (if_pos h)

theorem sectionRoom_of_overflow {l : Limits} (h : ¬ l.maxHeader.toNat + 4 < 2 ^ 64) : sectionRoom l = 0 :=
  (roomOf_sum? l.maxHeader 4).trans (if_neg h)

/-- What is within a bound is waited with, and anything else is refused, or cannot be compared. -/
theorem within_eq {α : Type} (s : Slot) (bound : Option Nat) (held : Nat) (f : Fault) :
    (s.within bound held f : Verdict Slot α) =
      if held < roomOf bound then .more s else .failed (if bound = none then .overflow else f) s := by
  cases bound with
  | none => rfl
  | some n =>
    show (if held > n then Verdict.failed f s else .more s) = if held < n + 1 then .more s else .failed f s
    by_cases h : held > n
    · rw [if_pos h, if_neg (by omega)]
    · rw [if_neg h, if_pos (by omega)]

/-! ## Heads -/

/-- What a line without its end, or a section without its end, is refused for. -/
def lineFault (l : Limits) : Direction → Fault
  | .request => if l.lineBound? = none then .overflow else .urlTooLong l.maxUrl.toNat
  | .response => .headerTooLarge l.maxHeader.toNat

def sectionFault (l : Limits) : Fault :=
  if l.sectionBound? = none then .overflow else .headerTooLarge l.maxHeader.toNat

theorem lineFault_of_overflow {l : Limits} (h : ¬ l.maxUrl.toNat + 32 < 2 ^ 64) : lineFault l .request = .overflow :=
  if_pos (if_neg h)

theorem sectionFault_of_overflow {l : Limits} (h : ¬ l.maxHeader.toNat + 4 < 2 ^ 64) : sectionFault l = .overflow :=
  if_pos (if_neg h)

/-- Without a line end in the buffer, the test compares its length with the room for a line. -/
theorem headTest_of_line {dir : Direction} {s : Slot} {b : Bytes} (hb : Head.dropBlankLines s.buffer = b)
    (hl : Head.splitLine? b = none) :
    headTest dir s = if b.length < lineRoom s.limits dir then .more { s with buffer := b }
      else .failed (lineFault s.limits dir) { s with buffer := b } := by
  simp only [headTest, hb, Head.split?_eq_none_of_splitLine? hl, hl]
  cases dir with
  | request => exact within_eq _ _ _ _
  | response => exact (within_eq _ _ _ _).trans rfl

/-- With a line end but no head in the buffer, the test compares what follows the line with the room for a section. -/
theorem headTest_of_section {dir : Direction} {s : Slot} {b line rest : Bytes}
    (hb : Head.dropBlankLines s.buffer = b) (hs : Head.split? b = none)
    (hl : Head.splitLine? b = some (line, rest)) :
    headTest dir s = if b.length - line.length < sectionRoom s.limits then .more { s with buffer := b }
      else .failed (sectionFault s.limits) { s with buffer := b } := by
  simp only [headTest, hb, hs, hl]
  exact within_eq _ _ _ _

/-- A head that is in the buffer is found, however long its first line is. -/
theorem headTest_of_split {dir : Direction} {s : Slot} {head rest : Bytes}
    (h : Head.split? (Head.dropBlankLines s.buffer) = some (head, rest)) :
    headTest dir s = .done head { s with buffer := rest } := by
  simp only [headTest, h]

/-- All that the test for a head can say. -/
theorem headTest_cases (dir : Direction) (s : Slot) :
    (∃ head rest, Head.split? (Head.dropBlankLines s.buffer) = some (head, rest) ∧
      headTest dir s = .done head { s with buffer := rest }) ∨
    Head.split? (Head.dropBlankLines s.buffer) = none ∧
      ((∃ f, Head.splitLine? (Head.dropBlankLines s.buffer) = none ∧
        lineRoom s.limits dir ≤ (Head.dropBlankLines s.buffer).length ∧
        headTest dir s = .failed f { s with buffer := Head.dropBlankLines s.buffer }) ∨
      (∃ f line rest, Head.splitLine? (Head.dropBlankLines s.buffer) = some (line, rest) ∧
        sectionRoom s.limits ≤ (Head.dropBlankLines s.buffer).length - line.length ∧
        headTest dir s = .failed f { s with buffer := Head.dropBlankLines s.buffer }) ∨
      headTest dir s = .more { s with buffer := Head.dropBlankLines s.buffer }) := by
  rcases hs : Head.split? (Head.dropBlankLines s.buffer) with _ | ⟨head, rest⟩
  · refine Or.inr ⟨rfl, ?_⟩
    rcases hl : Head.splitLine? (Head.dropBlankLines s.buffer) with _ | ⟨line, rest⟩
    · rw [headTest_of_line rfl hl]
      by_cases h : (Head.dropBlankLines s.buffer).length < lineRoom s.limits dir
      · exact Or.inr (Or.inr (if_pos h))
      · exact Or.inl ⟨_, rfl, Nat.le_of_not_lt h, if_neg h⟩
    · rw [headTest_of_section rfl hs hl]
      by_cases h : (Head.dropBlankLines s.buffer).length - line.length < sectionRoom s.limits
      · exact Or.inr (Or.inr (if_pos h))
      · exact Or.inr (Or.inl ⟨_, line, rest, rfl, Nat.le_of_not_lt h, if_neg h⟩)
  · exact Or.inl ⟨head, rest, rfl, headTest_of_split hs⟩

/-- An empty buffer may still become a head, if there is any room for its line. -/
theorem headTest_of_empty {s : Slot} {dir : Direction} (hroom : 0 < lineRoom s.limits dir) (h : s.buffer = []) :
    headTest dir s = .more s := by
  have hs : ({ s with buffer := [] } : Slot) = s := by rw [← h]
  rw [headTest_of_line (b := []) (by rw [h]; rfl) rfl, if_pos (show ([] : Bytes).length < _ from hroom), hs]

/-- A head that is still incomplete in a buffer that is too long does not fit. -/
theorem not_headFits_of_line {dir : Direction} {l : Limits} {b more head rest : Bytes}
    (hline : Head.splitLine? b = none) (hlong : lineRoom l dir ≤ b.length)
    (h : Head.split? (b ++ more) = some (head, rest)) : ¬ HeadFits dir l head := by
  intro hfits
  obtain ⟨line, fields, hl⟩ := Head.exists_splitLine?_of_split? h
  obtain ⟨hfit, -⟩ := hfits line fields hl
  have hl' := Head.splitLine?_append hl rest
  rw [← Head.split?_eq_some h] at hl'
  have := Head.length_le_of_splitLine? hline hl'
  omega

theorem not_headFits_of_section {dir : Direction} {l : Limits} {b more head rest line after : Bytes}
    (hb : Head.split? b = none) (hline : Head.splitLine? b = some (line, after))
    (hlong : sectionRoom l ≤ b.length - line.length)
    (h : Head.split? (b ++ more) = some (head, rest)) : ¬ HeadFits dir l head := by
  intro hfits
  obtain ⟨line', fields, hl⟩ := Head.exists_splitLine?_of_split? h
  obtain ⟨-, hfit⟩ := hfits line' fields hl
  have hl' := Head.splitLine?_append hl rest
  rw [← Head.split?_eq_some h, Head.splitLine?_append hline more] at hl'
  obtain ⟨rfl, -⟩ := Prod.mk.inj (Option.some.inj hl')
  have hlen := Head.length_lt_of_split? hb h
  rw [Head.splitLine?_eq_some hl] at hlen
  simp only [List.length_append, Text.crlf, List.length_cons, List.length_nil] at hlen
  omega

theorem headTest_of_done {dir : Direction} {s s' : Slot} {head : Bytes}
    (h : headTest dir s = .done head s') :
    ∃ rest, Head.split? (Head.dropBlankLines s.buffer) = some (head, rest) ∧
      s' = { s with buffer := rest } := by
  rcases headTest_cases dir s with ⟨_, rest, hs, hd⟩ | ⟨-, ⟨_, -, -, hd⟩ | ⟨_, _, _, -, -, hd⟩ | hd⟩ <;>
    rw [hd] at h
  · obtain ⟨rfl, rfl⟩ := Verdict.done.inj h
    exact ⟨rest, hs, rfl⟩
  all_goals exact absurd h (by simp)

theorem headTest_of_more {dir : Direction} {s s' : Slot} (h : headTest dir s = .more s') :
    Head.split? (Head.dropBlankLines s.buffer) = none ∧
      s' = { s with buffer := Head.dropBlankLines s.buffer } := by
  rcases headTest_cases dir s with ⟨_, _, -, hd⟩ | ⟨hs, ⟨_, -, -, hd⟩ | ⟨_, _, _, -, -, hd⟩ | hd⟩ <;>
    rw [hd] at h
  case inr.inr.inr => exact ⟨hs, (Verdict.more.inj h).symm⟩
  all_goals exact absurd h (by simp)

/-- The beginning of a head that has not ended may be kept in the buffer. -/
structure Allows (m : Limits) (b : Bytes) : Prop where
  unended : Head.splitLine? b = none → b.length < lineRoom m .request
  ended : ∀ line rest, Head.splitLine? b = some (line, rest) → b.length - line.length < sectionRoom m

/-- A head that has not ended is waited for if the limits allow what there is of it, and refused otherwise. -/
theorem headTest_unended {s : Slot} (h : Head.split? (Head.dropBlankLines s.buffer) = none) :
    (Allows s.limits (Head.dropBlankLines s.buffer) ∧
      headTest .request s = .more { s with buffer := Head.dropBlankLines s.buffer }) ∨
    (¬ Allows s.limits (Head.dropBlankLines s.buffer) ∧
      ∃ f, headTest .request s = .failed f { s with buffer := Head.dropBlankLines s.buffer }) := by
  rcases hline : Head.splitLine? (Head.dropBlankLines s.buffer) with _ | ⟨line, rest⟩
  · rw [headTest_of_line rfl hline]
    by_cases hroom : (Head.dropBlankLines s.buffer).length < lineRoom s.limits .request
    · refine Or.inl ⟨⟨fun _ => hroom, fun line rest hsome => ?_⟩, if_pos hroom⟩
      rw [hline] at hsome
      exact absurd hsome (by simp)
    · exact Or.inr ⟨fun hallows => hroom (hallows.unended hline), _, if_neg hroom⟩
  · rw [headTest_of_section rfl h hline]
    by_cases hroom : (Head.dropBlankLines s.buffer).length - line.length < sectionRoom s.limits
    · refine Or.inl ⟨⟨fun hnone => ?_, fun line' rest' hsome => ?_⟩, if_pos hroom⟩
      · rw [hline] at hnone
        exact absurd hnone (by simp)
      · rw [hline] at hsome
        obtain ⟨rfl, -⟩ := Prod.mk.inj (Option.some.inj hsome)
        exact hroom
    · exact Or.inr ⟨fun hallows => hroom (hallows.ended line rest hline), _, if_neg hroom⟩

/-- What is waited with is allowed. -/
theorem allows_of_more {s s' : Slot} (h : headTest .request s = .more s') :
    Allows s.limits (Head.dropBlankLines s.buffer) := by
  rcases headTest_unended (headTest_of_more h).1 with ⟨hallows, -⟩ | ⟨-, f, hfailed⟩
  · exact hallows
  · rw [hfailed] at h
    exact absurd h (by simp)

/-- A buffer past the bounds does not begin a head that fits. -/
theorem headTest_of_failed {dir : Direction} {s s' : Slot} {f : Fault}
    (ht : headTest dir s = .failed f s') {stream head after : Bytes}
    (h : Head.split? (Head.dropBlankLines (s.buffer ++ stream)) = some (head, after)) :
    ¬ HeadFits dir s.limits head := by
  intro hfits
  obtain ⟨line, fields, hl⟩ := Head.exists_splitLine?_of_split? h
  have hbound : 1 < lineRoom s.limits dir := Nat.lt_of_le_of_lt (Nat.succ_pos _) (hfits line fields hl).1
  rcases headTest_cases dir s with ⟨_, _, -, hs⟩ | ⟨hnone, ⟨_, hline, hlong, -⟩ |
    ⟨_, line, after, hline, hlong, -⟩ | hs⟩
  · rw [hs] at ht
    exact absurd ht (by simp)
  · rw [Head.dropBlankLines_append_of_le (by omega)] at h
    exact not_headFits_of_line hline hlong h hfits
  · have hlen : 2 ≤ (Head.dropBlankLines s.buffer).length := by
      rw [Head.splitLine?_eq_some hline]
      simp only [List.length_append, Text.crlf, List.length_cons]
      omega
    rw [Head.dropBlankLines_append_of_le hlen] at h
    exact not_headFits_of_section hnone hline hlong h hfits
  · rw [hs] at ht
    exact absurd ht (by simp)

/-- A head that is found in a buffer is found with more bytes after it. -/
theorem split?_dropBlankLines_append {b head rest : Bytes}
    (h : Head.split? (Head.dropBlankLines b) = some (head, rest)) (stream : Bytes) :
    Head.split? (Head.dropBlankLines (b ++ stream)) = some (head, rest ++ stream) := by
  have hlen : 2 ≤ (Head.dropBlankLines b).length := by
    obtain ⟨u, rfl, -⟩ := Head.cut?_of_split? h
    rw [Head.split?_eq_some h]
    simp only [List.length_append, Head.blankLine, List.length_cons]
    omega
  rw [Head.dropBlankLines_append_of_le hlen]
  exact Head.split?_append h stream

/-! ## Bodies -/

/-- The slot with what the decoder gives out. -/
def Slot.decoded (s : Slot) (dir : Direction) (p : Chunk.Progress) : Slot :=
  { s.deliver dir p.data p.trailers with decoder := p.decoder }

theorem decoded_before (s : Slot) (dir : Direction) (b : Bytes) (p q : Chunk.Progress) :
    Slot.decoded { s.decoded dir p with buffer := b } dir q =
      { s.decoded dir (p.before q) with buffer := b } := by
  cases dir <;>
    simp [Slot.decoded, Slot.deliver, Chunk.Progress.data_before, Chunk.Progress.trailers_before,
      Fields.append] <;>
    rfl

/-- All that the test for a chunked body can say. -/
theorem chunkTest_cases (dir : Direction) (s : Slot) :
    (∃ f, (s.decoder.decode s.buffer).fault = some f ∧
      chunkTest dir s = .failed f (s.decoded dir (s.decoder.decode s.buffer))) ∨
    (s.decoder.decode s.buffer).fault = none ∧
      (((s.decoder.decode s.buffer).decoder.isFinished = true ∧
        chunkTest dir s = .done () { s.decoded dir (s.decoder.decode s.buffer) with
          buffer := s.buffer.drop (s.decoder.decode s.buffer).consumed }) ∨
      ((s.decoder.decode s.buffer).decoder.isFinished = false ∧
        chunkTest dir s = .more { s.decoded dir (s.decoder.decode s.buffer) with buffer := [] })) := by
  have hbuf : (s.decoded dir (s.decoder.decode s.buffer)).buffer = s.buffer := by cases dir <;> rfl
  have hdec : (s.decoded dir (s.decoder.decode s.buffer)).decoder =
      (s.decoder.decode s.buffer).decoder := rfl
  simp only [chunkTest, Slot.decodeChunks]
  rw [← Slot.decoded]
  rcases hf : (s.decoder.decode s.buffer).fault with _ | f
  · refine Or.inr ⟨rfl, ?_⟩
    rw [Chunk.result_of_fault hf]
    simp only [hbuf, hdec]
    rcases hfin : (s.decoder.decode s.buffer).decoder.isFinished with _ | _
    · refine Or.inr ⟨rfl, ?_⟩
      rw [Chunk.consumed_of_not_finished hf hfin, List.drop_length]
      simp
    · exact Or.inl ⟨rfl, if_pos rfl⟩
  · refine Or.inl ⟨f, rfl, ?_⟩
    rw [Chunk.Progress.result, hf]

theorem chunkTest_eq_done_iff {dir : Direction} {s t : Slot} {u : Unit} :
    chunkTest dir s = .done u t ↔ (s.decoder.decode s.buffer).fault = none ∧
      (s.decoder.decode s.buffer).decoder.isFinished = true ∧
      t = { s.decoded dir (s.decoder.decode s.buffer) with
        buffer := s.buffer.drop (s.decoder.decode s.buffer).consumed } := by
  constructor
  · intro h
    rcases chunkTest_cases dir s with ⟨_, -, hd⟩ | ⟨hf, ⟨hq, hd⟩ | ⟨-, hd⟩⟩ <;> rw [hd] at h
    case inr.inl => exact ⟨hf, hq, (Verdict.done.inj h).2.symm⟩
    all_goals exact absurd h (by simp)
  · rintro ⟨hf, hq, rfl⟩
    rcases chunkTest_cases dir s with ⟨f, hsome, -⟩ | ⟨-, ⟨-, hd⟩ | ⟨hnot, -⟩⟩
    · exact absurd (hf.symm.trans hsome) (by simp)
    · exact hd
    · exact absurd (hq.symm.trans hnot) (by simp)

theorem chunkTest_eq_more_iff {dir : Direction} {s t : Slot} :
    chunkTest dir s = .more t ↔ (s.decoder.decode s.buffer).fault = none ∧
      (s.decoder.decode s.buffer).decoder.isFinished = false ∧
      t = { s.decoded dir (s.decoder.decode s.buffer) with buffer := [] } := by
  constructor
  · intro h
    rcases chunkTest_cases dir s with ⟨_, -, hd⟩ | ⟨hf, ⟨-, hd⟩ | ⟨hq, hd⟩⟩ <;> rw [hd] at h
    case inr.inr => exact ⟨hf, hq, (Verdict.more.inj h).symm⟩
    all_goals exact absurd h (by simp)
  · rintro ⟨hf, hq, rfl⟩
    rcases chunkTest_cases dir s with ⟨f, hsome, -⟩ | ⟨-, ⟨hfin, -⟩ | ⟨-, hd⟩⟩
    · exact absurd (hf.symm.trans hsome) (by simp)
    · exact absurd (hq.symm.trans hfin) (by simp)
    · exact hd

theorem chunkTest_of_failed {dir : Direction} {s t : Slot} {f : Fault} (h : chunkTest dir s = .failed f t) :
    (s.decoder.decode s.buffer).fault = some f ∧ t = s.decoded dir (s.decoder.decode s.buffer) := by
  rcases chunkTest_cases dir s with ⟨_, hf, hd⟩ | ⟨-, ⟨-, hd⟩ | ⟨-, hd⟩⟩ <;> rw [hd] at h
  case inl =>
    obtain ⟨rfl, rfl⟩ := Verdict.failed.inj h
    exact ⟨hf, rfl⟩
  all_goals exact absurd h (by simp)

theorem sizedTest_eq_done_iff {n : Nat} {s t : Slot} {data : Bytes} :
    sizedTest n s = .done data t ↔
      n ≤ s.buffer.length ∧ data = s.buffer.take n ∧ t = { s with buffer := s.buffer.drop n } := by
  unfold sizedTest
  by_cases hlen : s.buffer.length < n
  · rw [if_pos hlen]
    exact iff_of_false (by simp) fun h => Nat.not_le_of_lt hlen h.1
  · rw [if_neg hlen, Verdict.done.injEq, and_iff_right (Nat.le_of_not_lt hlen)]
    exact and_congr eq_comm eq_comm

theorem sizedTest_eq_more_iff {n : Nat} {s t : Slot} : sizedTest n s = .more t ↔ s.buffer.length < n ∧ t = s := by
  unfold sizedTest
  by_cases hlen : s.buffer.length < n
  · rw [if_pos hlen, Verdict.more.injEq, and_iff_right hlen]
    exact eq_comm
  · rw [if_neg hlen]
    exact iff_of_false (by simp) fun h => hlen h.1

theorem sizedTest_ne_failed {n : Nat} {s t : Slot} {f : Fault} : sizedTest n s ≠ .failed f t := by
  unfold sizedTest
  split <;> simp

/-! ## Opening a head -/

/-- The slot with a request of which the first line and the fields are known. -/
def Slot.withHead (s : Slot) (r : RequestLine) (fields : Fields) : Slot :=
  { s with request :=
      { s.request with
        method := r.method
        version := r.version
        target := r.target
        fields
        expectContinue := fields.hasToken "Expect" "100-continue" } }

/-- A head is opened if its line and its fields are read, it names no coding but the chunked one, and the length of a
body that is not chunked can be read. -/
theorem openRequest_eq_ok_iff {s t : Slot} {head : Bytes} :
    s.openRequest head = (.ok (), t) ↔ ∃ line fields r,
      Head.parse head s.limits.maxHeader.toNat = .ok (line, fields) ∧
      RequestLine.parse line s.limits.maxUrl.toNat = .ok r ∧
      (fields.contains "Transfer-Encoding" && !fields.isChunked) = false ∧
      (fields.isChunked = true ∨ ∃ n, fields.contentLength = .ok n) ∧ t = s.withHead r fields := by
  constructor
  · intro h
    unfold Slot.openRequest at h
    rcases hparse : Head.parse head s.limits.maxHeader.toNat with f | ⟨line, fields⟩ <;> rw [hparse] at h
    · exact absurd (congrArg Prod.fst h) (by simp)
    simp only at h
    rcases hline : RequestLine.parse line s.limits.maxUrl.toNat with f | r <;> rw [hline] at h
    · exact absurd (congrArg Prod.fst h) (by simp)
    simp only at h
    split at h
    · exact absurd (congrArg Prod.fst h) (by simp)
    next hcoding =>
    rcases hlength : (if fields.isChunked then .ok none else fields.contentLength : Except Fault (Option Nat))
      with f | n <;> rw [hlength] at h
    · exact absurd (congrArg Prod.fst h) (by simp)
    obtain ⟨-, rfl⟩ := Prod.mk.inj h
    refine ⟨line, fields, r, rfl, hline, Bool.eq_false_iff.2 hcoding, ?_, rfl⟩
    cases hchunked : fields.isChunked
    · rw [hchunked] at hlength
      exact Or.inr ⟨n, hlength⟩
    · exact Or.inl rfl
  · rintro ⟨line, fields, r, hparse, hline, hcoding, hlength, rfl⟩
    rw [Slot.openRequest, hparse]
    simp only [hline]
    rw [if_neg (Bool.eq_false_iff.1 hcoding)]
    rcases hlength with hchunked | ⟨n, hn⟩
    · rw [if_pos hchunked]
      rfl
    · cases hchunked : fields.isChunked
      · rw [if_neg Bool.false_ne_true, hn]
        rfl
      · rfl

/-- Opening a request changes the request only. -/
theorem openRequest_slot (s : Slot) (head : Bytes) :
    (s.openRequest head).2 = { s with request := (s.openRequest head).2.request } := by
  simp only [Slot.openRequest]
  repeat' split
  all_goals rfl

/-- Opening a request does not look at the buffer. -/
theorem openRequest_buffer (s : Slot) (head b : Bytes) :
    Slot.openRequest { s with buffer := b } head =
      ((s.openRequest head).1, { (s.openRequest head).2 with buffer := b }) := by
  simp only [Slot.openRequest]
  repeat' split
  all_goals rfl

end Switchboard.Exchange
