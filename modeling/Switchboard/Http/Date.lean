import Switchboard.Text.Blank
import Switchboard.Text.Numeral

/-!
Dates of the protocol. A date is written in one form and read in three; the day of the week has to be that
of the date.
-/

namespace Switchboard.Http

/-- A date with a time of day, in universal time. -/
structure Date where
  year : Nat
  /-- From one to twelve. -/
  month : Nat
  day : Nat
  hour : Nat
  minute : Nat
  second : Nat
  deriving DecidableEq, Repr

namespace Date

/-- The names of the months. -/
def monthNames : List String :=
  ["Jan", "Feb", "Mar", "Apr", "May", "Jun", "Jul", "Aug", "Sep", "Oct", "Nov", "Dec"]

/-- The names of the days of the week, Monday first. -/
def dayNames : List String :=
  ["Monday", "Tuesday", "Wednesday", "Thursday", "Friday", "Saturday", "Sunday"]

/-- A year with a day more in February. -/
def isLeapYear (year : Nat) : Bool := year % 4 == 0 && (year % 100 != 0 || year % 400 == 0)

/-- The days of the months of a year. -/
def monthLengths (year : Nat) : List Nat :=
  [31, if isLeapYear year then 29 else 28, 31, 30, 31, 30, 31, 31, 30, 31, 30, 31]

/-- The date can be written: from the year 1970 to the year 9999. -/
def isValid (d : Date) : Bool :=
  1970 ≤ d.year && d.year ≤ 9999 && 1 ≤ d.month && 1 ≤ d.day &&
    d.day ≤ ((monthLengths d.year)[d.month - 1]?).getD 0 &&
    d.hour < 24 && d.minute < 60 && d.second < 60

/-- The days from the first day of the year 1 to a date. -/
def dayNumber (d : Date) : Nat :=
  let y := d.year - 1
  let before := ((monthLengths d.year).take (d.month - 1)).foldl (· + ·) 0
  y * 365 + y / 4 - y / 100 + y / 400 + before + (d.day - 1)

/-- The position of the day of the week, zero for Monday. -/
def weekday (d : Date) : Nat := d.dayNumber % 7

/-- The text of a number in two digits. -/
def twoDigits (n : Nat) : String := if n < 10 then "0" ++ Text.decimal n else Text.decimal n

/-- The text of a date. -/
def text (d : Date) : String :=
  let dayName := String.ofList (((dayNames[d.weekday]?).getD "").toList.take 3)
  let monthName := (monthNames[d.month - 1]?).getD ""
  let clock := ":".intercalate [twoDigits d.hour, twoDigits d.minute, twoDigits d.second]
  s!"{dayName}, {twoDigits d.day} {monthName} {Text.decimal d.year} {clock} GMT"

/-- The number of some digits. -/
def number? (cs : List Char) : Option Nat :=
  if cs.isEmpty then none else Text.readDigits? 0 cs

/-- The position of a name in a list. -/
def position? (names : List String) (name : List Char) : Option Nat :=
  names.findIdx? (·.toList == name)

/-- A date from the texts of its parts, if it is valid and falls on the day of the week. -/
def ofParts? (weekday : Nat) (year : Nat) (month day hour minute second : List Char) : Option Date := do
  let d : Date := {
    year
    month := (← position? monthNames month) + 1
    day := ← number? day
    hour := ← number? hour
    minute := ← number? minute
    second := ← number? second }
  if d.isValid && d.weekday == weekday then some d else none

/-- The names of the days of the week in three letters. -/
def shortDayNames : List String := dayNames.map fun name => String.ofList (name.toList.take 3)

/-- The form that dates are written in. -/
def ofFixed? : List Char → Option Date
  | [w, e, k, ',', ' ', d, d', ' ', m, o, n, ' ', y, y', y'', y''', ' ', h, h', ':', i, i', ':', s, s',
     ' ', 'G', 'M', 'T'] => do
    ofParts? (← position? shortDayNames [w, e, k]) (← number? [y, y', y'', y''']) [m, o, n] [d, d']
      [h, h'] [i, i'] [s, s']
  | _ => none

/-- An older form, with the day of the week in full and a year of two digits from 1970 on. -/
def ofDashed? (cs : List Char) : Option Date := do
  let weekday ← position? dayNames (cs.takeWhile (· != ','))
  match cs.dropWhile (· != ',') with
  | [',', ' ', d, d', '-', m, o, n, '-', y, y', _, h, h', ':', i, i', ':', s, s', ' ', 'G', 'M', 'T'] =>
    let year ← number? [y, y']
    ofParts? weekday (if year < 70 then year + 2000 else year + 1900) [m, o, n] [d, d'] [h, h'] [i, i']
      [s, s']
  | _ => none

/-- An older form, with the year at the end and a blank in place of a leading zero of the day. -/
def ofSpaced? : List Char → Option Date
  | [w, e, k, ' ', m, o, n, _, d, d', ' ', h, h', ':', i, i', ':', s, s', ' ', y, y', y'', y'''] => do
    ofParts? (← position? shortDayNames [w, e, k]) (← number? [y, y', y'', y''']) [m, o, n]
      (if d = ' ' then [d'] else [d, d']) [h, h'] [i, i'] [s, s']
  | _ => none

/-- The date of a text. -/
def ofText? (s : String) : Option Date :=
  let cs := Text.trimList Text.isBlank s.toList
  ((ofFixed? cs).or (ofDashed? cs)).or (ofSpaced? cs)

end Date
end Switchboard.Http
