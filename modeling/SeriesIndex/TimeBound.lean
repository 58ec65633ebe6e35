import SeriesIndex.Selector.Reader
import SeriesIndex.Timestamp

/-!
# Time bounds

The bounds of a search are given as milliseconds since 1970, as a timestamp, or as the present
moment, less a duration if one follows:

    1700000000000    2023-11-14T22:13:20Z    now    now() - 7d
-/

namespace SeriesIndex

inductive TimeError where
  | unexpected (rest : String)
  | notTime (text : String)
  | tooLarge (text : String)
deriving DecidableEq, Repr

def TimeError.message : TimeError → String
  | unexpected rest => s!"Invalid time range: Unexpected input after time: '{rest}'"
  | notTime text => unreadable text "Digit"
  | tooLarge text => unreadable text "MapRes"
where
  unreadable (text fault : String) : String :=
    s!"Invalid time range: Cannot parse time '{text}': " ++
      "Error(Error \x7b input: " ++ Text.quoted text ++ ", code: " ++ fault ++ " \x7d)"

namespace TimeBound

open Selector (skipBlanks)

/-! ## The present moment -/

/-- What follows a word, which may have letters of either case. -/
def skipWord? : (word text : List Char) → Option (List Char)
  | [], text => some text
  | letter :: word, char :: text =>
      if char.toLower = letter then skipWord? word text else none
  | _ :: _, [] => none

/-- How many milliseconds a unit has, and what follows it. -/
def takeUnit? : List Char → Option (Nat × List Char)
  | 'm' :: 's' :: rest => some (1, rest)
  | unit :: rest =>
      let size? :=
        match unit.toLower with
        | 'w' => some 604800000
        | 'd' => some 86400000
        | 'h' => some 3600000
        | 'm' => some 60000
        | 's' => some 1000
        | _ => none
      size?.map (·, rest)
  | [] => none

/-- A duration in milliseconds, which stays below 2⁶⁴. -/
def takeDuration? (text : List Char) : Option (Nat × List Char) := do
  let number ← Text.Numeral.word64? (text.takeWhile Char.isDigit)
  let (size, rest) ← takeUnit? (text.dropWhile Char.isDigit)
  return (min (number.toNat * size) Text.Numeral.maxWord64, rest)

/-- A duration after a minus sign; without one, no time and the text as it is. -/
def takeBack (text : List Char) : Nat × List Char :=
  match text with
  | '-' :: rest => (takeDuration? (skipBlanks rest)).getD (0, text)
  | _ => (0, text)

/-- The present moment, less a duration if one follows. -/
def takeRelative? (text : List Char) (now : UInt64) : Option (UInt64 × List Char) := do
  let rest ← skipWord? ['n', 'o', 'w'] text
  let rest := (skipWord? ['(', ')'] rest).getD rest
  let (back, rest) := takeBack (skipBlanks rest)
  return (UInt64.ofNat (now.toNat - back), rest)

/-! ## Absolute times -/

/-- The character can be part of a timestamp. -/
def inTimestamp (char : Char) : Bool :=
  char.isAlphanum || char = '-' || char = ':' || char = '.' || char = '+'

/-- A timestamp not before 1970. -/
def takeTimestamp? (text : List Char) : Option (UInt64 × List Char) := do
  let word := text.takeWhile inTimestamp
  let time ← Timestamp.parse? word
  guard (0 ≤ time)
  return (UInt64.ofNat time.toNat, text.dropWhile inTimestamp)

/-- A timestamp or a number of milliseconds. -/
def takeAbsolute (text : List Char) : Except TimeError (UInt64 × List Char) :=
  match takeTimestamp? text with
  | some found => .ok found
  | none =>
      let digits := text.takeWhile Char.isDigit
      if digits.isEmpty then .error (.notTime (String.ofList text))
      else
        match Text.Numeral.word64? digits with
        | some time => .ok (time, text.dropWhile Char.isDigit)
        | none => .error (.tooLarge (String.ofList text))

def take (text : List Char) (now : UInt64) : Except TimeError (UInt64 × List Char) :=
  match takeRelative? text now with
  | some found => .ok found
  | none => takeAbsolute text

/-- The time of a text, if the present moment is `now`. -/
def parse (text : String) (now : UInt64) : Except TimeError UInt64 :=
  match take (Text.trim text.toList) now with
  | .error error => .error error
  | .ok (time, rest) =>
      let rest := Text.trim rest
      if rest.isEmpty then .ok time else .error (.unexpected (String.ofList rest))

end TimeBound

end SeriesIndex
