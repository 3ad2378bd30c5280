import Switchboard.Document.Value
import Switchboard.Text.Numeral

/-!
The plain scalars of a document: booleans, integers, floats and points in time. Each is read from its whole
literal.
-/

namespace Switchboard.Document

/-! ## Digits -/

/-- The digits of a list, all of which are digits. -/
def digits? (base : Nat) (cs : List Char) : Option (List Nat) := cs.mapM (Text.digitIn? base)

/-- The digits of a list of one digit or more, with single underscores between digits left out. -/
def group? (base : Nat) : List Char → Option (List Nat)
  | [] => none
  | [c] => (Text.digitIn? base c).map ([·])
  | c :: '_' :: rest => do return (← Text.digitIn? base c) :: (← group? base rest)
  | c :: rest => do return (← Text.digitIn? base c) :: (← group? base rest)

/-- The number that some digits denote. -/
def ofDigits (base : Nat) (ds : List Nat) : Nat := ds.foldl (fun n d => n * base + d) 0

/-- The digits of a list as a number. -/
def natural? (cs : List Char) : Option Nat := (digits? 10 cs).map (ofDigits 10)

/-- A sign at the front, and what follows it; true is a minus. -/
def splitSign : List Char → Bool × List Char
  | '+' :: rest => (false, rest)
  | '-' :: rest => (true, rest)
  | cs => (false, cs)

/-- The digits of a whole number in decimal, which starts with a zero only if that is all of it. -/
def wholeDigits? : List Char → Option (List Nat)
  | '0' :: _ :: _ => none
  | cs => group? 10 cs

/-! ## Integers -/

/-- The integers of a document are those of 64 bits with a sign. -/
def inRange (n : Int) : Bool := Int64.minValue.toInt ≤ n && n ≤ Int64.maxValue.toInt

/-- The integer of a literal: a decimal with an optional sign, or a hexadecimal, octal or binary one. -/
def integer? (cs : List Char) : Option Int :=
  let magnitude (base : Nat) (rest : List Char) : Option Int :=
    (group? base rest).map fun ds => (ofDigits base ds : Int)
  let n := match cs with
    | '0' :: 'x' :: rest => magnitude 16 rest
    | '0' :: 'o' :: rest => magnitude 8 rest
    | '0' :: 'b' :: rest => magnitude 2 rest
    | _ =>
      let (negative, rest) := splitSign cs
      (wholeDigits? rest).map fun ds =>
        if negative then -(ofDigits 10 ds : Int) else (ofDigits 10 ds : Int)
  n.filter inRange

/-! ## Floats -/

/-- The least number that is nearer to infinity than to the greatest binary float of 64 bits. -/
def floatBound : Nat := (1 <<< 1024) - (1 <<< 970)

/-- The number with these digits times a power of ten is too large for a float. -/
def exceedsFloat (digits : List Nat) (exponent : Int) : Bool :=
  let digits := digits.dropWhile (· == 0)
  let magnitude : Int := digits.length + exponent
  if digits.isEmpty || magnitude < 309 then false
  else if magnitude > 309 then true
  else
    let n := ofDigits 10 digits
    if exponent ≥ 0 then n * Nat.pow 10 exponent.toNat ≥ floatBound
    else n ≥ floatBound * Nat.pow 10 (-exponent).toNat

/-- The literal of a float with a fraction, an exponent or both; none that is too large. -/
def isFiniteFloat (cs : List Char) : Bool :=
  let (negative, rest) := splitSign cs
  let mantissa := rest.takeWhile fun c => c != 'e' && c != 'E'
  let power := rest.drop mantissa.length
  let whole := mantissa.takeWhile (· != '.')
  let fraction := mantissa.drop whole.length
  let digits := do
    let w ← wholeDigits? whole
    let f ← if fraction.isEmpty then some [] else group? 10 (fraction.drop 1)
    let (minus, digits) := splitSign (power.drop 1)
    let e ← if power.isEmpty then some [] else group? 10 digits
    let e : Int := ofDigits 10 e
    if fraction.isEmpty && power.isEmpty then none
    else some (w ++ f, (if minus then -e else e) - (f.length : Int))
  match digits with
  | none => false
  | some (ds, e) => negative || !exceedsFloat ds e

/-- The literal of a float. -/
def isFloat (cs : List Char) : Bool :=
  let (_, rest) := splitSign cs
  rest == ['i', 'n', 'f'] || rest == ['n', 'a', 'n'] || isFiniteFloat cs

/-! ## Points in time -/

/-- A year with a day more in February. -/
def isLeapYear (year : Nat) : Bool := year % 4 == 0 && (year % 100 != 0 || year % 400 == 0)

/-- The days of a month. -/
def daysIn (year month : Nat) : Nat :=
  match month with
  | 2 => if isLeapYear year then 29 else 28
  | 4 | 6 | 9 | 11 => 30
  | _ => 31

/-- A date: year, month and day. -/
def isDate : List Char → Bool
  | [a, b, c, d, '-', e, f, '-', g, h] =>
    match natural? [a, b, c, d], natural? [e, f], natural? [g, h] with
    | some year, some month, some day =>
      1 ≤ month && month ≤ 12 && 1 ≤ day && day ≤ daysIn year month
    | _, _, _ => false
  | _ => false

/-- Two digits that denote a number up to `most`. -/
def isPair (a b : Char) (most : Nat) : Bool := ((natural? [a, b]).filter (· ≤ most)).isSome

/-- A time of day: hour, minute and second, with a fraction if wanted. A minute may have sixty-one
seconds. -/
def isClock : List Char → Bool
  | a :: b :: ':' :: c :: d :: ':' :: e :: f :: fraction =>
    isPair a b 23 && isPair c d 59 && isPair e f 60 &&
      match fraction with
      | [] => true
      | '.' :: ds => !ds.isEmpty && (digits? 10 ds).isSome
      | _ => false
  | _ => false

/-- An offset from universal time, or nothing. -/
def isOffset : List Char → Bool
  | [] | ['Z'] | ['z'] => true
  | [sign, a, b, ':', c, d] => (sign == '+' || sign == '-') && isPair a b 23 && isPair c d 59
  | _ => false

/-- A character that starts an offset. -/
def startsOffset (c : Char) : Bool := c == 'Z' || c == 'z' || c == '+' || c == '-'

/-- A date, a time of day, or both with an offset if wanted. -/
def isMoment (cs : List Char) : Bool :=
  isDate cs || isClock cs ||
    match cs.drop 10 with
    | between :: time =>
      isDate (cs.take 10) && (between == 'T' || between == 't' || between == ' ') &&
        isClock (time.takeWhile (!startsOffset ·)) && isOffset (time.dropWhile (!startsOffset ·))
    | [] => false

/-! ## Literals -/

/-- The value of a literal. -/
def scalar? (cs : List Char) : Option Value :=
  if cs == ['t', 'r', 'u', 'e'] then some (.boolean true)
  else if cs == ['f', 'a', 'l', 's', 'e'] then some (.boolean false)
  else if isMoment cs then some (.moment (String.ofList cs))
  else if isFloat cs then some (.float (String.ofList cs))
  else (integer? cs).map .integer

/-- A character that may stand in a literal. -/
def isLiteralChar (c : Char) : Bool :=
  c.isAlphanum || c == '+' || c == '-' || c == '_' || c == '.' || c == ':'

/-- The literal at the front, and what follows it. One space may stand between a date and a time. -/
def splitLiteral (cs : List Char) : List Char × List Char :=
  let literal := cs.takeWhile isLiteralChar
  let rest := cs.dropWhile isLiteralChar
  match rest with
  | ' ' :: c :: after =>
    if isDate literal && c.isDigit then
      (literal ++ ' ' :: (c :: after).takeWhile isLiteralChar, (c :: after).dropWhile isLiteralChar)
    else (literal, rest)
  | _ => (literal, rest)

end Switchboard.Document
