import Switchboard.Exchange.Session

/-!
A transport that follows a script: what reads and polls will see, how many bytes writes will take, and what
becomes of an urgent byte and of closing.
-/

namespace Switchboard.Exchange

open Http (Fault)

/-- What a read or a poll before it meets. -/
inductive Delivery where
  /-- Bytes, which stay until they are read. -/
  | bytes (data : Bytes)
  /-- So many polls that find nothing. -/
  | stall (polls : Nat)
  /-- One read at the end of the stream. -/
  | eof
  /-- One read that fails. -/
  | readFault (detail : String)
  /-- One poll that fails. -/
  | pollFault (detail : String)
  deriving DecidableEq, Repr

/-- What follows the last delivery. -/
inductive Ending where
  /-- The end of the stream. -/
  | eof
  /-- Nothing, for ever. -/
  | silence
  deriving DecidableEq, Repr

/-- What an attempt at the urgent byte meets. -/
inductive UrgentDelivery where
  | nothing
  | byte (b : UInt8)
  | fault (detail : String)
  deriving DecidableEq, Repr

/-- A scripted transport. -/
structure Script where
  deliveries : List Delivery := []
  ending : Ending := .silence
  /-- The bytes that one write takes at most. -/
  writeMax : Option Nat := none
  /-- The bytes that all writes together take at most. -/
  writeRoom : Option Nat := none
  /-- The polls before writing that find no room. -/
  writeStall : Nat := 0
  urgentDeliveries : List UrgentDelivery := []
  closeFault : Option Fault := none
  deriving Repr

namespace Script

/-- The bytes of some deliveries. -/
def supplyOf : List Delivery → Nat
  | [] => 0
  | .bytes data :: rest => data.length + supplyOf rest
  | _ :: rest => supplyOf rest

/-- What a poll before reading finds, and the deliveries after it. A stall that is used up makes way for
what follows it. -/
def pollDeliveries (ending : Ending) : List Delivery → Except Fault Bool × List Delivery
  | [] => (.ok (ending == .eof), [])
  | .stall 0 :: rest => pollDeliveries ending rest
  | .stall (n + 1) :: rest => (.ok false, .stall n :: rest)
  | .pollFault detail :: rest => (.error (.transport detail), rest)
  | ds => (.ok true, ds)

/-- What a read of `n` bytes gives, and the deliveries after it. -/
def readDeliveries (n : Nat) : List Delivery → Except Fault Bytes × List Delivery
  | .bytes data :: rest =>
    if data.length ≤ n then (.ok data, rest) else (.ok (data.take n), .bytes (data.drop n) :: rest)
  | .eof :: rest => (.ok [], rest)
  | .readFault detail :: rest => (.error (.transport detail), rest)
  | ds => (.ok [], ds)

theorem supplyOf_pollDeliveries (ending : Ending) (ds : List Delivery) :
    supplyOf (pollDeliveries ending ds).2 ≤ supplyOf ds := by
  fun_induction pollDeliveries ending ds <;> simp_all [supplyOf]

theorem supplyOf_readDeliveries (n : Nat) (ds : List Delivery) :
    supplyOf (readDeliveries n ds).2 ≤ supplyOf ds := by
  fun_cases readDeliveries n ds <;> simp_all [supplyOf]

theorem readDeliveries_bound {n : Nat} {ds : List Delivery} {bytes : Bytes}
    (h : (readDeliveries n ds).1 = .ok bytes) :
    bytes.length ≤ n ∧ supplyOf (readDeliveries n ds).2 + bytes.length ≤ supplyOf ds := by
  revert h
  fun_cases readDeliveries n ds
  case case2 data rest hd =>
    intro h
    simp only [Except.ok.injEq] at h
    subst h
    simp only [supplyOf, List.length_take, List.length_drop]
    omega
  case case4 => simp
  all_goals
    intro h
    simp only [Except.ok.injEq] at h
    subst h
    simp_all [supplyOf] <;> omega

/-- A poll. -/
def poll (i : Interest) (s : Script) : Except Fault Bool × Script :=
  match i with
  | .reading =>
    let (r, ds) := pollDeliveries s.ending s.deliveries
    (r, { s with deliveries := ds })
  | .writing =>
    match s.writeStall with
    | 0 => (.ok true, s)
    | n + 1 => (.ok false, { s with writeStall := n })

/-- A read. -/
def read (n : Nat) (s : Script) : Except Fault Bytes × Script :=
  let (r, ds) := readDeliveries n s.deliveries
  (r, { s with deliveries := ds })

/-- The bytes of an offer that are taken. -/
def accepted (s : Script) (offered : Nat) : Nat :=
  min (min offered (s.writeMax.getD offered)) (s.writeRoom.getD offered)

/-- A write. -/
def write (bytes : Bytes) (s : Script) : Except Fault Nat × Script :=
  if s.writeRoom = some 0 then (.error (.transport "write refused"), s)
  else
    let n := s.accepted bytes.length
    (.ok n, { s with writeRoom := s.writeRoom.map (· - n) })

/-- An attempt at the urgent byte. -/
def urgent (s : Script) : Except Fault (Option UInt8) × Script :=
  match s.urgentDeliveries with
  | [] => (.ok none, s)
  | d :: rest =>
    let s := { s with urgentDeliveries := rest }
    match d with
    | .nothing => (.ok none, s)
    | .byte b => (.ok (some b), s)
    | .fault detail => (.error (.transport detail), s)

/-- Closing. -/
def close (s : Script) : Except Fault Unit × Script :=
  match s.closeFault with
  | none => (.ok (), s)
  | some f => (.error f, s)

/-- Appends deliveries to the script. -/
def feed (s : Script) (ds : List Delivery) : Script := { s with deliveries := s.deliveries ++ ds }

instance : Transport Script where
  poll := poll
  read := read
  write := write
  urgent := urgent
  close := close
  read_length n s bytes h := (readDeliveries_bound h).1
  write_bound bytes s n h := by
    simp only [write] at h
    split at h
    · simp at h
    · simp only [Except.ok.injEq] at h
      subst h
      simp only [accepted]
      omega
  supply s := supplyOf s.deliveries
  supply_poll i s := by
    cases i
    · exact supplyOf_pollDeliveries s.ending s.deliveries
    · simp only [poll]
      split <;> simp
  supply_read n s := supplyOf_readDeliveries n s.deliveries
  read_supply n s bytes h := (readDeliveries_bound h).2
  supply_write bytes s := by
    simp only [write]
    split <;> simp

end Script
end Switchboard.Exchange
