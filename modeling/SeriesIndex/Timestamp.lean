import SeriesIndex.Text.Numeral

/-!
# Timestamps

A timestamp names a moment by its date, its time of day and the distance of its clock from
universal time. It is read as the milliseconds since the start of the year 1970; what is finer is
cut off.
-/

namespace SeriesIndex.Timestamp

/-! ## The calendar -/

def isLeapYear (year : Nat) : Bool := year % 4 == 0 && (year % 100 != 0 || year % 400 == 0)

/-- How many days the months of a year have. -/
def monthLengths (year : Nat) : List Nat :=
  [31, if isLeapYear year then 29 else 28, 31, 30, 31, 30, 31, 31, 30, 31, 30, 31]

/-- How many days the years from the year zero up to this one have. -/
def daysBefore (year : Nat) : Nat :=
  365 * year + (year + 3) / 4 - (year + 99) / 100 + (year + 399) / 400

/-- The number of a day, counted from the start of the year zero, if there is such a day. -/
def day? (year month day : Nat) : Option Nat := do
  guard (1 ≤ month && 1 ≤ day)
  let length ← (monthLengths year)[month - 1]?
  guard (day ≤ length)
  return ((monthLengths year).take (month - 1)).foldl (· + ·) (daysBefore year) + (day - 1)

/-! ## Fields -/

/-- Reads exactly `count` decimal digits that follow a number already read. -/
def takeDigits : (count value : Nat) → List Char → Option (Nat × List Char)
  | 0, value, text => some (value, text)
  | _ + 1, _, [] => none
  | count + 1, value, char :: rest =>
      match Text.Numeral.digit? char with
      | none => none
      | some digit => takeDigits count (value * 10 + digit) rest

/-- Passes over one of the given characters. -/
def skip (chars : List Char) : List Char → Option (List Char)
  | char :: rest => if chars.contains char then some rest else none
  | [] => none

/-- The milliseconds of a fraction of a second, given its digits. -/
def milliseconds (digits : List Char) : Nat :=
  (digits ++ ['0', '0', '0']).take 3 |>.foldl
    (fun value char => value * 10 + (Text.Numeral.digit? char).getD 0) 0

/-- The fraction of a second in milliseconds, if there is one. -/
def takeFraction : List Char → Option (Nat × List Char)
  | '.' :: rest =>
      let digits := rest.takeWhile Char.isDigit
      if digits.isEmpty then none
      else some (milliseconds digits, rest.dropWhile Char.isDigit)
  | text => some (0, text)

/-- The minutes by which a clock is ahead of universal time. -/
def takeOffset : List Char → Option (Int × List Char)
  | sign :: text =>
      if sign = 'Z' || sign = 'z' then some (0, text)
      else do
        let direction : Int ← if sign = '+' then some 1 else if sign = '-' then some (-1) else none
        let (hours, text) ← takeDigits 2 0 text
        let text ← skip [':'] text
        let (minutes, text) ← takeDigits 2 0 text
        guard (hours ≤ 23 && minutes ≤ 59)
        return (direction * (hours * 60 + minutes : Nat), text)
  | [] => none

/-- Reads a whole text as a timestamp. A minute may have a sixtieth second, which is the start of
the next one. -/
def parse? (text : List Char) : Option Int := do
  let (year, text) ← takeDigits 4 0 text
  let text ← skip ['-'] text
  let (month, text) ← takeDigits 2 0 text
  let text ← skip ['-'] text
  let (day, text) ← takeDigits 2 0 text
  let text ← skip ['T', 't', ' '] text
  let (hour, text) ← takeDigits 2 0 text
  let text ← skip [':'] text
  let (minute, text) ← takeDigits 2 0 text
  let text ← skip [':'] text
  let (second, text) ← takeDigits 2 0 text
  let (fraction, text) ← takeFraction text
  let (offset, text) ← takeOffset text
  guard (hour ≤ 23 && minute ≤ 59 && second ≤ 60 && text.isEmpty)
  let days ← day? year month day
  let minutes : Int := ((days : Int) - daysBefore 1970) * 1440 + hour * 60 + minute - offset
  return (minutes * 60 + second) * 1000 + fraction

end SeriesIndex.Timestamp
