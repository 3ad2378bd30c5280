import Switchboard.Exchange.Script
import Switchboard.Proofs.Exchange.Feed

/-!
Scripts that bring a stream in any cutting. `Steady` says that the deliveries are non-empty bytes, with
stalls between them that the patience outlasts; `dataOf` is the stream that they make up. A session with such
a script is a feed of the stream (`feeds_brings`).
-/

namespace Switchboard.Exchange.Script

open Http (Fault)

/-- The bytes of some deliveries, put together. -/
def dataOf : List Delivery → Bytes
  | [] => []
  | .bytes data :: rest => data ++ dataOf rest
  | _ :: rest => dataOf rest

/-- Non-empty bytes, and stalls between them shorter than the patience, of which so many polls were spent. -/
def Steady (patience : Nat) : Nat → List Delivery → Prop
  | _, [] => True
  | spent, .bytes data :: rest => spent < patience ∧ data ≠ [] ∧ Steady patience 0 rest
  | spent, .stall n :: rest => Steady patience (spent + n) rest
  | _, _ => False

/-- Whether deliveries are steady is decided one by one. -/
def decideSteady (patience : Nat) : (spent : Nat) → (ds : List Delivery) →
    Decidable (Steady patience spent ds)
  | _, [] => .isTrue trivial
  | spent, .bytes data :: rest =>
    have := decideSteady patience 0 rest
    inferInstanceAs (Decidable (spent < patience ∧ data ≠ [] ∧ Steady patience 0 rest))
  | spent, .stall n :: rest => decideSteady patience (spent + n) rest
  | _, .eof :: _ => .isFalse id
  | _, .readFault _ :: _ => .isFalse id
  | _, .pollFault _ :: _ => .isFalse id

instance (patience spent : Nat) (ds : List Delivery) : Decidable (Steady patience spent ds) :=
  decideSteady patience spent ds

variable {patience spent : Nat} {ds rest : List Delivery} {t : Script}

/-- The next bytes come before the patience is spent. -/
theorem lt_of_steady (h : Steady patience spent ds) (hd : dataOf ds ≠ []) : spent < patience := by
  induction ds generalizing spent with
  | nil => exact absurd rfl hd
  | cons d ds ih =>
    cases d with
    | bytes data => exact h.1
    | stall n =>
      have := ih h hd
      omega
    | eof => exact h.elim
    | readFault detail => exact h.elim
    | pollFault detail => exact h.elim

/-- A stall takes as many polls as it says. -/
theorem waitFor_stall {k : Nat} (hk : 0 < k) (n : Nat) (rest : List Delivery) :
    waitFor .reading (n + k) { t with deliveries := .stall n :: rest } =
      waitFor .reading k { t with deliveries := rest } := by
  induction n with
  | zero =>
    obtain ⟨k, rfl⟩ : ∃ m, k = m + 1 := ⟨k - 1, by omega⟩
    rw [Nat.zero_add]
    rfl
  | succ n ih =>
    rw [Nat.succ_add]
    exact ih

/-- A wait ends before the next bytes. -/
theorem waitFor_steady {k : Nat} (h : Steady patience spent ds) (hd : dataOf ds ≠ [])
    (hk : spent + k = patience) :
    ∃ data rest, data ≠ [] ∧ Steady patience 0 rest ∧ dataOf ds = data ++ dataOf rest ∧
      waitFor .reading k { t with deliveries := ds } =
        (.ok (), { t with deliveries := .bytes data :: rest }) := by
  induction ds generalizing spent k with
  | nil => exact absurd rfl hd
  | cons d ds ih =>
    have hlt := lt_of_steady h hd
    cases d with
    | bytes data =>
      obtain ⟨k, rfl⟩ : ∃ m, k = m + 1 := ⟨k - 1, by omega⟩
      exact ⟨data, ds, h.2.1, h.2.2, rfl, rfl⟩
    | stall n =>
      have h' : Steady patience (spent + n) ds := h
      have hlt' := lt_of_steady h' hd
      obtain ⟨k, rfl⟩ : ∃ m, k = n + m := ⟨k - n, by omega⟩
      rw [waitFor_stall (by omega)]
      exact ih h hd (by omega)
    | eof => exact h.elim
    | readFault detail => exact h.elim
    | pollFault detail => exact h.elim

/-- Where no bytes are left, it does not matter how many polls were spent. -/
theorem steady_of_ended (spent' : Nat) (h : Steady patience spent ds) (hd : dataOf ds = []) :
    Steady patience spent' ds := by
  induction ds generalizing spent spent' with
  | nil => exact trivial
  | cons d ds ih =>
    cases d with
    | bytes data => exact absurd (List.append_eq_nil_iff.1 hd).1 h.2.1
    | stall n => exact ih (spent' + n) h hd
    | eof => exact h.elim
    | readFault detail => exact h.elim
    | pollFault detail => exact h.elim

/-- Where no bytes are left, a poll finds the end of the stream or nothing. -/
theorem pollDeliveries_ended (ending : Ending) (h : Steady patience 0 ds) (hd : dataOf ds = []) :
    pollDeliveries ending ds = (.ok true, []) ∨
      ∃ ds', pollDeliveries ending ds = (.ok false, ds') ∧ dataOf ds' = [] ∧ Steady patience 0 ds' := by
  induction ds with
  | nil =>
    cases ending with
    | eof => exact Or.inl rfl
    | silence => exact Or.inr ⟨[], rfl, rfl, trivial⟩
  | cons d ds ih =>
    cases d with
    | bytes data => exact absurd (List.append_eq_nil_iff.1 hd).1 h.2.1
    | stall n =>
      cases n with
      | zero => exact ih h hd
      | succ n => exact Or.inr ⟨.stall n :: ds, rfl, hd, steady_of_ended (0 + n) h hd⟩
    | eof => exact h.elim
    | readFault detail => exact h.elim
    | pollFault detail => exact h.elim

/-- A wait where no bytes are left ends at the end of the stream or in vain. -/
theorem waitFor_ended (k : Nat) (h : Steady patience 0 ds) (hd : dataOf ds = []) :
    waitFor .reading k { t with deliveries := ds } = (.ok (), { t with deliveries := [] }) ∨
      ∃ ds', Steady patience 0 ds' ∧ dataOf ds' = [] ∧
        waitFor .reading k { t with deliveries := ds } =
          (.error .timeout, { t with deliveries := ds' }) := by
  induction k generalizing ds with
  | zero => exact Or.inr ⟨ds, h, hd, rfl⟩
  | succ k ih =>
    rcases pollDeliveries_ended t.ending h hd with hp | ⟨ds', hp, hd', h'⟩
    · refine Or.inl ?_
      simp only [waitFor, Channel.poll, poll, hp]
    · rcases ih h' hd' with hw | ⟨ds'', h'', hd'', hw⟩
      · refine Or.inl ?_
        simp only [waitFor, Channel.poll, poll, hp]
        exact hw
      · refine Or.inr ⟨ds'', h'', hd'', ?_⟩
        simp only [waitFor, Channel.poll, poll, hp]
        exact hw

/-- The session `x` is `base` with deliveries that make up the stream. -/
def Brings (base x : Session Script) (stream : Bytes) : Prop :=
  ∃ ds, x = { base with transport := { base.transport with deliveries := ds } } ∧
    Steady base.timeout 0 ds ∧ dataOf ds = stream

/-- A read takes the bytes that come next if they fit, and else as many of them as do. -/
theorem readDeliveries_cases {n : Nat} {data : Bytes} (hn : 0 < n) (hd : data ≠ []) (rest : List Delivery) :
    readDeliveries n (.bytes data :: rest) = (.ok data, rest) ∨
      ∃ piece left, piece ≠ [] ∧ left ≠ [] ∧ data = piece ++ left ∧
        readDeliveries n (.bytes data :: rest) = (.ok piece, .bytes left :: rest) := by
  by_cases hle : data.length ≤ n
  · exact Or.inl (if_pos hle)
  · refine Or.inr ⟨data.take n, data.drop n, ?_, ?_, (List.take_append_drop n data).symm, if_neg hle⟩
    · rw [ne_eq, List.take_eq_nil_iff]
      exact not_or.2 ⟨by omega, hd⟩
    · rw [ne_eq, List.drop_eq_nil_iff]
      exact hle

/-- What a read takes of the bytes that come next, the rest stays to be read. -/
theorem readDeliveries_bytes {n : Nat} {data : Bytes} (hn : 0 < n) (hd : data ≠ [])
    (h : Steady patience 0 rest) (hp : 0 < patience) :
    ∃ piece ds, piece ≠ [] ∧ data ++ dataOf rest = piece ++ dataOf ds ∧ Steady patience 0 ds ∧
      readDeliveries n (.bytes data :: rest) = (.ok piece, ds) := by
  rcases readDeliveries_cases hn hd rest with hr | ⟨piece, left, hpiece, hleft, rfl, hr⟩
  · exact ⟨data, rest, hd, rfl, h, hr⟩
  · exact ⟨piece, .bytes left :: rest, hpiece, List.append_assoc _ _ _, ⟨hp, hleft, h⟩, hr⟩

/-- Bytes that come next and fit are read at once. -/
theorem read_bytes (t : Script) (rest : List Delivery) {patience n : Nat} {data : Bytes}
    (hp : 0 < patience) (hn : data.length ≤ n) :
    Session.read ⟨{ t with deliveries := .bytes data :: rest }, patience⟩ n =
      (.ok data, ⟨{ t with deliveries := rest }, patience⟩) := by
  obtain ⟨k, rfl⟩ : ∃ k, patience = k + 1 := ⟨patience - 1, by omega⟩
  have hread : readDeliveries n (.bytes data :: rest) = (.ok data, rest) := if_pos hn
  simp only [Session.read, waitFor, Channel.poll, poll, pollDeliveries, Channel.read, read, hread]

/-- Scripts feed the stream that their deliveries make up. -/
theorem feeds_brings (base : Session Script) : Feeds (Brings base) where
  more := by
    rintro x stream n ⟨ds, rfl, h, rfl⟩ hs hn
    have hp : 0 < base.timeout := lt_of_steady h hs
    obtain ⟨data, rest, hd, hr, hdata, hw⟩ := waitFor_steady (t := base.transport) h hs (Nat.zero_add _)
    obtain ⟨piece, ds', hpiece, heq, hst, hread⟩ := readDeliveries_bytes hn hd hr hp
    refine ⟨piece, dataOf ds', _, hpiece, hdata.trans heq, ?_, ds', rfl, hst, rfl⟩
    simp only [Session.read, hw, Channel.read, read, hread]
  done := by
    rintro x n ⟨ds, rfl, h, hd⟩ -
    rcases waitFor_ended (t := base.transport) base.timeout h hd with hw | ⟨ds', h', hd', hw⟩
    · refine ⟨_, ⟨[], rfl, trivial, rfl⟩, Or.inl ?_⟩
      simp only [Session.read, hw, Channel.read, read, readDeliveries]
    · refine ⟨_, ⟨ds', rfl, h', hd'⟩, Or.inr ?_⟩
      simp only [Session.read, hw]

end Switchboard.Exchange.Script
