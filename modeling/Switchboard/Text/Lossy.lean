import Switchboard.Text.Bytes

/-!
Text from bytes that need not be UTF-8. Decoding never fails: each maximal part of an ill-formed
sequence becomes one replacement character. The decoder looks at one byte at a time; between two
bytes it keeps the range that the next byte of the character has to lie in.
-/

namespace Switchboard.Text

/-- The character that stands for an ill-formed sequence. -/
def replacement : Char := '\uFFFD'

/-- Where a decoder stands between two bytes. -/
inductive Utf8State where
  /-- Between two characters. -/
  | between
  /-- Inside a character: `need + 1` bytes are missing, the next lies in `low … high`, and `value`
  holds the bits read so far. -/
  | within (need : Nat) (low high : UInt8) (value : Nat)
  deriving DecidableEq, Repr

/-- The characters completed by a first byte, and the state after it. -/
def Utf8State.start (b : UInt8) : List Char × Utf8State :=
  if b < 0x80 then ([Char.ofNat b.toNat], .between)
  else if b < 0xC2 then ([replacement], .between)
  else if b < 0xE0 then ([], .within 0 0x80 0xBF (b.toNat - 0xC0))
  else if b = 0xE0 then ([], .within 1 0xA0 0xBF 0)
  else if b = 0xED then ([], .within 1 0x80 0x9F 0xD)
  else if b < 0xF0 then ([], .within 1 0x80 0xBF (b.toNat - 0xE0))
  else if b = 0xF0 then ([], .within 2 0x90 0xBF 0)
  else if b < 0xF4 then ([], .within 2 0x80 0xBF (b.toNat - 0xF0))
  else if b = 0xF4 then ([], .within 2 0x80 0x8F 4)
  else ([replacement], .between)

/-- The characters completed by one byte, and the state after it. A byte outside the expected range
ends the unfinished character, and starts afresh. -/
def Utf8State.push (st : Utf8State) (b : UInt8) : List Char × Utf8State :=
  match st with
  | .between => start b
  | .within need low high value =>
    if low ≤ b ∧ b ≤ high then
      let value := value * 64 + (b.toNat - 0x80)
      match need with
      | 0 => ([Char.ofNat value], .between)
      | n + 1 => ([], .within n 0x80 0xBF value)
    else
      let (cs, st) := start b
      (replacement :: cs, st)

/-- What an unfinished character leaves at the end of the bytes. -/
def Utf8State.finish : Utf8State → List Char
  | .between => []
  | .within .. => [replacement]

/-- The characters of the bytes, read from a state. -/
def lossyFrom : Utf8State → Bytes → List Char
  | st, [] => st.finish
  | st, b :: rest => (st.push b).1 ++ lossyFrom (st.push b).2 rest

/-- The text of the bytes. -/
def lossy (bytes : Bytes) : String := String.ofList (lossyFrom .between bytes)

/-- The text of the bytes, if they are UTF-8 throughout. -/
def strict? (bytes : Bytes) : Option String :=
  let text := lossy bytes
  if utf8 text = bytes then some text else none

@[simp] theorem lossy_nil : lossy [] = "" := rfl

end Switchboard.Text
