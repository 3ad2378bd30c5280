import Switchboard.Proofs.Exchange.Steady

/-!
Scripts that bring a stream in time, up to its end. `Arrives` says what stream some deliveries make up and how it
ends: the bytes come in any cutting, with stalls between them and before a close or a failure that the patience
outlasts. Where `Steady` leaves open whether the stream ends or stalls, here the end is part of the stream
(`exists_arrives_of_steady`). A session with such a script is a feed of the stream until its end (`feeds_arriving`).
-/

namespace Switchboard.Exchange.Script

open Http (Fault)

/-- The deliveries bring the stream and its end in time, so many polls having been spent before them. -/
inductive Arrives (patience : Nat) (ending : Ending) : Nat → List Delivery → Bytes → StreamEnd → Prop where
  /-- The transport stays at the end of the stream. -/
  | closing {spent : Nat} (he : ending = .eof) (h : spent < patience) : Arrives patience ending spent [] [] .closed
  /-- Nothing more comes before the patience is spent. -/
  | silence {spent : Nat} (h : ending = .silence ∨ patience ≤ spent) : Arrives patience ending spent [] [] .silent
  | eof {spent : Nat} (h : spent < patience) : Arrives patience ending spent [.eof] [] .closed
  | readFault {spent : Nat} {detail : String} (h : spent < patience) :
    Arrives patience ending spent [.readFault detail] [] (.broken detail)
  | pollFault {spent : Nat} {detail : String} (h : spent < patience) :
    Arrives patience ending spent [.pollFault detail] [] (.broken detail)
  | bytes {spent : Nat} {data stream : Bytes} {rest : List Delivery} {e : StreamEnd} (h : spent < patience)
    (hd : data ≠ []) (hr : Arrives patience ending 0 rest stream e) :
    Arrives patience ending spent (.bytes data :: rest) (data ++ stream) e
  | stall {spent n : Nat} {stream : Bytes} {rest : List Delivery} {e : StreamEnd}
    (hr : Arrives patience ending (spent + n) rest stream e) :
    Arrives patience ending spent (.stall n :: rest) stream e

variable {patience spent : Nat} {ds : List Delivery} {stream : Bytes} {e : StreamEnd} {t : Script}

/-- The bytes that arrive are those of the deliveries. -/
theorem Arrives.dataOf_eq {ending : Ending} (h : Arrives patience ending spent ds stream e) :
    dataOf ds = stream := by
  induction h with
  | bytes _ _ _ ih => rw [dataOf, ih]
  | stall _ ih => exact ih
  | _ => rfl

/-- Something comes before the patience is spent, unless nothing more comes. -/
theorem Arrives.lt_or {ending : Ending} (h : Arrives patience ending spent ds stream e) :
    spent < patience ∨ stream = [] ∧ e = .silent := by
  induction h with
  | silence _ => exact Or.inr ⟨rfl, rfl⟩
  | stall _ ih => exact ih.imp_left fun h => by omega
  | closing _ h => exact Or.inl h
  | eof h => exact Or.inl h
  | readFault h => exact Or.inl h
  | pollFault h => exact Or.inl h
  | bytes h _ _ _ => exact Or.inl h

/-- Steady deliveries bring their bytes and some end. -/
theorem exists_arrives_of_steady (ending : Ending) (h : Steady patience spent ds) :
    ∃ e, Arrives patience ending spent ds (dataOf ds) e := by
  induction ds generalizing spent with
  | nil =>
    by_cases hlt : spent < patience
    · cases ending with
      | eof => exact ⟨.closed, .closing rfl hlt⟩
      | silence => exact ⟨.silent, .silence (Or.inl rfl)⟩
    · exact ⟨.silent, .silence (Or.inr (Nat.le_of_not_lt hlt))⟩
  | cons d ds ih =>
    cases d with
    | bytes data =>
      obtain ⟨e, hr⟩ := ih h.2.2
      exact ⟨e, .bytes h.1 h.2.1 hr⟩
    | stall n =>
      have h' : Steady patience (spent + n) ds := h
      obtain ⟨e, hr⟩ := ih h'
      exact ⟨e, .stall hr⟩
    | eof => exact h.elim
    | readFault detail => exact h.elim
    | pollFault detail => exact h.elim

/-- A wait ends before the next bytes. -/
theorem waitFor_arrives {k : Nat} (h : Arrives patience t.ending spent ds stream e) (hs : stream ≠ [])
    (hk : spent + k = patience) :
    ∃ data rest tail, data ≠ [] ∧ stream = data ++ tail ∧ Arrives patience t.ending 0 rest tail e ∧
      waitFor .reading k { t with deliveries := ds } =
        (.ok (), { t with deliveries := .bytes data :: rest }) := by
  induction h generalizing k with
  | bytes h hd hr _ =>
    obtain ⟨k, rfl⟩ : ∃ m, k = m + 1 := ⟨k - 1, by omega⟩
    exact ⟨_, _, _, hd, rfl, hr, rfl⟩
  | @stall spent n _ _ _ hr ih =>
    have hlt : spent + n < patience := hr.lt_or.resolve_right fun h => hs h.1
    obtain ⟨k, rfl⟩ : ∃ m, k = n + m := ⟨k - n, by omega⟩
    rw [waitFor_stall (by omega)]
    exact ih hs (by omega)
  | _ => exact absurd rfl hs

/-- A wait for nothing is in vain. -/
theorem waitFor_silence (he : t.ending = .silence) (k : Nat) :
    waitFor .reading k { t with deliveries := [] } = (.error .timeout, { t with deliveries := [] }) := by
  induction k with
  | zero => rfl
  | succ k ih =>
    have hpoll : Channel.poll .reading { t with deliveries := [] } =
        (.ok false, { t with deliveries := [] }) := by
      simp only [Channel.poll, poll, pollDeliveries, he]
      rfl
    rw [waitFor, hpoll]
    exact ih

/-- A stall that is as long as the patience exhausts it. -/
theorem waitFor_long_stall {k n : Nat} (hk : k ≤ n) (rest : List Delivery) :
    waitFor .reading k { t with deliveries := .stall n :: rest } =
      (.error .timeout, { t with deliveries := .stall (n - k) :: rest }) := by
  induction k generalizing n with
  | zero => rfl
  | succ k ih =>
    obtain ⟨n, rfl⟩ : ∃ m, n = m + 1 := ⟨n - 1, by omega⟩
    rw [Nat.add_sub_add_right]
    exact ih (Nat.le_of_succ_le_succ hk)

/-- How a wait for the end of a stream comes out, and a read after it. -/
inductive MeetsEnd (t : Script) (e : StreamEnd) (n : Nat) : Except Fault Unit × Script → Prop where
  | waiting {ds : List Delivery} (h : dataOf ds = []) :
    MeetsEnd t e n (.error e.fault, { t with deliveries := ds })
  | closed {ds rest : List Delivery} (he : e = .closed) (hr : readDeliveries n ds = (.ok [], rest))
    (h : dataOf rest = []) : MeetsEnd t e n (.ok (), { t with deliveries := ds })
  | failing {ds rest : List Delivery} (hr : readDeliveries n ds = (.error e.fault, rest))
    (h : dataOf rest = []) : MeetsEnd t e n (.ok (), { t with deliveries := ds })

/-- A wait after the last byte meets the end of the stream. -/
theorem waitFor_over {k : Nat} (h : Arrives patience t.ending spent ds [] e) (hk : spent + k = patience) (n : Nat) :
    MeetsEnd t e n (waitFor .reading k { t with deliveries := ds }) := by
  generalize hs : ([] : Bytes) = stream at h
  induction h generalizing k with
  | closing he h =>
    obtain ⟨k, rfl⟩ : ∃ m, k = m + 1 := ⟨k - 1, by omega⟩
    have hpoll : Channel.poll .reading { t with deliveries := [] } =
        (.ok true, { t with deliveries := [] }) := by
      simp only [Channel.poll, poll, pollDeliveries, he]
      rfl
    rw [waitFor, hpoll]
    exact .closed rfl rfl rfl
  | silence h =>
    rcases h with he | hle
    · rw [waitFor_silence he]
      exact .waiting rfl
    · obtain rfl : k = 0 := by omega
      exact .waiting rfl
  | eof h =>
    obtain ⟨k, rfl⟩ : ∃ m, k = m + 1 := ⟨k - 1, by omega⟩
    exact .closed rfl rfl rfl
  | readFault h =>
    obtain ⟨k, rfl⟩ : ∃ m, k = m + 1 := ⟨k - 1, by omega⟩
    exact .failing rfl rfl
  | pollFault h =>
    obtain ⟨k, rfl⟩ : ∃ m, k = m + 1 := ⟨k - 1, by omega⟩
    exact .waiting rfl
  | bytes _ hd _ _ => exact absurd (List.append_eq_nil_iff.1 hs.symm).1 hd
  | @stall spent m _ rest _ hr ih =>
    by_cases hm : m < k
    · obtain ⟨k, rfl⟩ : ∃ j, k = m + j := ⟨k - m, by omega⟩
      rw [waitFor_stall (by omega)]
      exact ih (by omega) hs
    · obtain ⟨-, rfl⟩ := hr.lt_or.resolve_left (by omega)
      rw [waitFor_long_stall (Nat.le_of_not_lt hm)]
      exact .waiting (hr.dataOf_eq.trans hs.symm)

/-- What a read takes of the bytes that come next, the rest stays to arrive. -/
theorem readDeliveries_arrives {ending : Ending} {n : Nat} {data tail : Bytes} {rest : List Delivery} (hn : 0 < n)
    (hd : data ≠ []) (h : Arrives patience ending 0 rest tail e) (hp : 0 < patience) :
    ∃ piece more ds, piece ≠ [] ∧ data ++ tail = piece ++ more ∧ Arrives patience ending 0 ds more e ∧
      readDeliveries n (.bytes data :: rest) = (.ok piece, ds) := by
  rcases readDeliveries_cases hn hd rest with hr | ⟨piece, left, hpiece, hleft, rfl, hr⟩
  · exact ⟨data, tail, rest, hd, rfl, h, hr⟩
  · exact ⟨piece, left ++ tail, .bytes left :: rest, hpiece, List.append_assoc _ _ _, .bytes hp hleft h, hr⟩

/-- The session `x` is `base` with deliveries that bring the stream and its end in time. -/
def BringsUntil (base : Session Script) (e : StreamEnd) (x : Session Script) (stream : Bytes) : Prop :=
  ∃ ds, x = { base with transport := { base.transport with deliveries := ds } } ∧
    Arrives base.timeout base.transport.ending 0 ds stream e

/-- No bytes are left in the script of a session. -/
def IsUsedUp (x : Session Script) : Prop := dataOf x.transport.deliveries = []

/-- What remains of the stream is in the script. -/
theorem dataOf_of_remains {base x : Session Script} (h : Remains (BringsUntil base e) IsUsedUp x stream) :
    dataOf x.transport.deliveries = stream := by
  rcases h with ⟨ds, rfl, h⟩ | ⟨rfl, h⟩
  · exact h.dataOf_eq
  · exact h

/-- Scripts feed the stream that arrives, until its end. -/
theorem feeds_arriving (base : Session Script) (e : StreamEnd) :
    FeedsUntil (· = e.fault) (BringsUntil base e) IsUsedUp where
  more := by
    rintro x stream n ⟨ds, rfl, h⟩ hs hn
    have hp : 0 < base.timeout := h.lt_or.resolve_right fun h => hs h.1
    obtain ⟨data, rest, tail, hd, rfl, hr, hw⟩ := waitFor_arrives h hs (Nat.zero_add _)
    obtain ⟨piece, more, ds', hpiece, heq, harrives, hread⟩ := readDeliveries_arrives hn hd hr hp
    refine ⟨piece, more, _, hpiece, heq, ?_, ds', rfl, harrives⟩
    simp only [Session.read, hw, Channel.read, read, hread]
  done := by
    rintro x n ⟨ds, rfl, h⟩ -
    have hmeets := waitFor_over h (Nat.zero_add _) n
    generalize hw : waitFor .reading base.timeout { base.transport with deliveries := ds } = out at hmeets
    cases hmeets with
    | @waiting ds' h =>
      refine ⟨e.fault, { base with transport := { base.transport with deliveries := ds' } }, rfl, h, Or.inr ?_⟩
      simp only [Session.read, hw]
    | @closed ds' rest he hr h =>
      refine ⟨e.fault, { base with transport := { base.transport with deliveries := rest } }, rfl, h,
        Or.inl ⟨by rw [he]; rfl, ?_⟩⟩
      simp only [Session.read, hw, Channel.read, read, hr]
    | @failing ds' rest hr h =>
      refine ⟨e.fault, { base with transport := { base.transport with deliveries := rest } }, rfl, h, Or.inr ?_⟩
      simp only [Session.read, hw, Channel.read, read, hr]

end Switchboard.Exchange.Script
