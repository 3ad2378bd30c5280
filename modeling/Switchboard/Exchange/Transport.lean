import Switchboard.Http.Fault

/-!
Channels and transports. A channel is a state with operations that may fail, and that leave a state behind also when
they fail. It promises two bounds: a read gives no more than it was asked for, and a write takes no more than it was
offered. A transport is a channel that knows how much it can still give: `supply` bounds the bytes that reads can still
give, so that reading loops end.
-/

namespace Switchboard.Exchange

open Http (Fault)

/-- What a poll waits for. -/
inductive Interest where
  | reading
  | writing
  deriving DecidableEq, Repr

/-- A byte channel. -/
class Channel (κ : Type) where
  /-- Whether the channel is ready. -/
  poll : Interest → κ → Except Fault Bool × κ
  /-- Some bytes, as many as asked for at most; none at the end. -/
  read : Nat → κ → Except Fault Bytes × κ
  /-- Offers bytes, and tells how many were taken. -/
  write : Bytes → κ → Except Fault Nat × κ
  /-- The urgent byte, if one is there. -/
  urgent : κ → Except Fault (Option UInt8) × κ
  /-- Closes the channel. -/
  close : κ → Except Fault Unit × κ
  read_length : ∀ n s bytes, (read n s).1 = .ok bytes → bytes.length ≤ n
  write_bound : ∀ bytes s n, (write bytes s).1 = .ok n → n ≤ bytes.length

/-- A byte transport. -/
class Transport (σ : Type) extends Channel σ where
  /-- A bound on the bytes that can still be read. -/
  supply : σ → Nat
  supply_poll : ∀ i s, supply (poll i s).2 ≤ supply s
  supply_read : ∀ n s, supply (read n s).2 ≤ supply s
  read_supply : ∀ n s bytes, (read n s).1 = .ok bytes → supply (read n s).2 + bytes.length ≤ supply s
  supply_write : ∀ bytes s, supply (write bytes s).2 ≤ supply s

namespace Transport

variable {σ : Type} [Transport σ]

theorem read_bound (n : Nat) (s : σ) (bytes : Bytes) (h : (Channel.read n s).1 = .ok bytes) :
    bytes.length ≤ n ∧ supply (Channel.read n s).2 + bytes.length ≤ supply s :=
  ⟨Channel.read_length n s bytes h, read_supply n s bytes h⟩

end Transport

end Switchboard.Exchange
