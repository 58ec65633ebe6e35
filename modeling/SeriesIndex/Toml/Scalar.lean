import SeriesIndex.Timestamp
import SeriesIndex.Toml.Value

/-!
# TOML scalars

Strings in one of four kinds of quotes, numbers, dates and truth values.
-/

namespace SeriesIndex.Toml

/-- The character may stand for itself in a string or a comment. -/
def isPlain (char : Char) : Bool := char = '\t' || (0x20 ≤ char.toNat && char.toNat ≠ 0x7F)

def isBlank (char : Char) : Bool := char = ' ' || char = '\t'

def skipBlanks (text : List Char) : List Char := text.dropWhile isBlank

/-! ## Strings -/

def hexDigit? (char : Char) : Option Nat :=
  if char.isDigit then some (char.toNat - 48)
  else if 'a' ≤ char && char ≤ 'f' then some (char.toNat - 87)
  else if 'A' ≤ char && char ≤ 'F' then some (char.toNat - 55)
  else none

/-- The character with a code point in hexadecimal digits. -/
def codePoint? (digits : List Char) : Option Char := do
  let values ← digits.mapM hexDigit?
  let code := values.foldl (fun code value => code * 16 + value) 0
  if Nat.isValidChar code then some (Char.ofNat code) else none

/-- The character of an escape, given what follows the backslash. -/
def takeEscape? : List Char → Option (Char × List Char)
  | 'b' :: rest => some ('\x08', rest)
  | 't' :: rest => some ('\t', rest)
  | 'n' :: rest => some ('\n', rest)
  | 'f' :: rest => some ('\x0C', rest)
  | 'r' :: rest => some ('\r', rest)
  | '"' :: rest => some ('"', rest)
  | '\\' :: rest => some ('\\', rest)
  | 'u' :: a :: b :: c :: d :: rest => (codePoint? [a, b, c, d]).map (·, rest)
  | 'U' :: a :: b :: c :: d :: e :: f :: g :: h :: rest =>
      (codePoint? [a, b, c, d, e, f, g, h]).map (·, rest)
  | _ => none

theorem takeEscape?_shorter {text rest : List Char} {char : Char}
    (taken : takeEscape? text = some (char, rest)) : rest.length < text.length := by
  unfold takeEscape? at taken
  split at taken
  case h_10 => cases taken
  case h_8 | h_9 =>
    obtain ⟨_, _, same⟩ := Option.map_eq_some_iff.mp taken
    cases same
    simp only [List.length_cons]
    omega
  all_goals
    cases taken
    exact Nat.lt_succ_self _

/-- Reads up to the closing double quote. -/
def takeBasic? (text : List Char) : Option (List Char × List Char) :=
  match text with
  | [] => none
  | char :: rest =>
      if char = '"' then some ([], rest)
      else if char = '\\' then
        match _taken : takeEscape? rest with
        | none => none
        | some (escaped, tail) =>
            (takeBasic? tail).map fun (content, tail) => (escaped :: content, tail)
      else if isPlain char then
        (takeBasic? rest).map fun (content, tail) => (char :: content, tail)
      else none
termination_by text.length
decreasing_by
  · exact Nat.lt_succ_of_lt (takeEscape?_shorter ‹_›)
  · exact Nat.lt_succ_self _

/-- Passes over blanks and line breaks. -/
def skipBreaks : List Char → List Char
  | [] => []
  | '\r' :: '\n' :: rest => skipBreaks rest
  | char :: rest => if isBlank char || char = '\n' then skipBreaks rest else char :: rest

theorem skipBreaks_length (text : List Char) : (skipBreaks text).length ≤ text.length := by
  fun_induction skipBreaks text with
  | case1 => exact Nat.le_refl _
  | case2 _ ih => simp only [List.length_cons]; omega
  | case3 _ _ _ _ ih => simp only [List.length_cons]; omega
  | case4 => exact Nat.le_refl _

/-- What follows a line break and all blanks around it. -/
def skipFolded? (text : List Char) : Option (List Char) :=
  match skipBlanks text with
  | '\n' :: rest => some (skipBreaks rest)
  | '\r' :: '\n' :: rest => some (skipBreaks rest)
  | _ => none

theorem skipFolded?_length {text rest : List Char} (skipped : skipFolded? text = some rest) :
    rest.length ≤ text.length := by
  have blanks := (List.dropWhile_suffix (l := text) isBlank).length_le
  unfold skipFolded? skipBlanks at skipped
  split at skipped
  · next tail cut =>
      cases skipped
      have breaks := skipBreaks_length tail
      rw [cut, List.length_cons] at blanks
      omega
  · next tail cut =>
      cases skipped
      have breaks := skipBreaks_length tail
      rw [cut, List.length_cons, List.length_cons] at blanks
      omega
  · cases skipped

/-- Up to two more quotes after three of them belong to the string. -/
def takeClosing (quote : Char) : List Char → List Char × List Char
  | a :: b :: rest =>
      if a = quote && b = quote then ([quote, quote], rest)
      else if a = quote then ([quote], b :: rest)
      else ([], a :: b :: rest)
  | [a] => if a = quote then ([quote], []) else ([], [a])
  | [] => ([], [])

/-- The text starts with three quotes. -/
def closes (quote : Char) (text : List Char) : Bool := [quote, quote, quote].isPrefixOf text

/-- Reads a string of several lines up to three double quotes. A backslash at the end of a line
joins the next one to it. -/
def takeLongBasic? (text : List Char) : Option (List Char × List Char) :=
  if closes '"' text then some (takeClosing '"' (text.drop 3))
  else
    match text with
    | [] => none
    | '\r' :: '\n' :: rest =>
        (takeLongBasic? rest).map fun (content, tail) => ('\n' :: content, tail)
    | char :: rest =>
        if char = '\\' then
          match _folded : skipFolded? rest with
          | some tail => takeLongBasic? tail
          | none =>
              match _taken : takeEscape? rest with
              | none => none
              | some (escaped, tail) =>
                  (takeLongBasic? tail).map fun (content, tail) => (escaped :: content, tail)
        else if isPlain char || char = '\n' then
          (takeLongBasic? rest).map fun (content, tail) => (char :: content, tail)
        else none
termination_by text.length
decreasing_by
  · exact Nat.lt_succ_of_lt (Nat.lt_succ_self _)
  · exact Nat.lt_succ_of_le (skipFolded?_length ‹_›)
  · exact Nat.lt_succ_of_lt (takeEscape?_shorter ‹_›)
  · exact Nat.lt_succ_self _

/-- Reads up to the closing single quote. -/
def takeLiteral? : List Char → Option (List Char × List Char)
  | [] => none
  | char :: rest =>
      if char = '\'' then some ([], rest)
      else if isPlain char then
        (takeLiteral? rest).map fun (content, tail) => (char :: content, tail)
      else none

/-- Reads a string of several lines up to three single quotes. -/
def takeLongLiteral? (text : List Char) : Option (List Char × List Char) :=
  if closes '\'' text then some (takeClosing '\'' (text.drop 3))
  else
    match text with
    | [] => none
    | '\r' :: '\n' :: rest =>
        (takeLongLiteral? rest).map fun (content, tail) => ('\n' :: content, tail)
    | char :: rest =>
        if isPlain char || char = '\n' then
          (takeLongLiteral? rest).map fun (content, tail) => (char :: content, tail)
        else none

/-- A line break right after the opening quotes does not belong to the string. -/
def skipBreak : List Char → List Char
  | '\r' :: '\n' :: rest => rest
  | '\n' :: rest => rest
  | text => text

/-- A string on one line. -/
def takeShortText? : List Char → Option (String × List Char)
  | '"' :: rest => (takeBasic? rest).map fun (content, tail) => (String.ofList content, tail)
  | '\'' :: rest => (takeLiteral? rest).map fun (content, tail) => (String.ofList content, tail)
  | _ => none

def takeText? (text : List Char) : Option (String × List Char) :=
  if closes '"' text then
    (takeLongBasic? (skipBreak (text.drop 3))).map
      fun (content, tail) => (String.ofList content, tail)
  else if closes '\'' text then
    (takeLongLiteral? (skipBreak (text.drop 3))).map
      fun (content, tail) => (String.ofList content, tail)
  else takeShortText? text

/-! ## Numbers and dates -/

/-- The digits of a text in which underscores may stand between two digits. -/
def joinGroups? (isDigit : Char → Bool) : List Char → Option (List Char)
  | [] => none
  | [digit] => if isDigit digit then some [digit] else none
  | digit :: '_' :: rest =>
      if isDigit digit then (joinGroups? isDigit rest).map (digit :: ·) else none
  | digit :: rest =>
      if isDigit digit then (joinGroups? isDigit rest).map (digit :: ·) else none

/-- The number that digits of a base spell. -/
def valueOf (base : Nat) (digits : List Char) : Nat :=
  digits.foldl (fun value char => value * base + (hexDigit? char).getD 0) 0

/-- The sign of a number, and the rest of it. -/
def takeSign : List Char → Int × List Char
  | '-' :: rest => (-1, rest)
  | '+' :: rest => (1, rest)
  | text => (1, text)

/-- The number of decimal digits without needless zeros in front. -/
def decimal? (text : List Char) : Option Nat := do
  let digits ← joinGroups? Char.isDigit text
  guard (digits.head? != some '0' || text == ['0'])
  return valueOf 10 digits

def isBaseDigit (base : Nat) (char : Char) : Bool := (hexDigit? char).any (· < base)

def magnitude? : List Char → Option Nat
  | '0' :: 'x' :: rest => (joinGroups? (isBaseDigit 16) rest).map (valueOf 16)
  | '0' :: 'o' :: rest => (joinGroups? (isBaseDigit 8) rest).map (valueOf 8)
  | '0' :: 'b' :: rest => (joinGroups? (isBaseDigit 2) rest).map (valueOf 2)
  | text => decimal? text

/-- An integer of 64 bits. Only decimal ones have a sign. -/
def integer? (text : List Char) : Option Int := do
  let (sign, rest) := takeSign text
  let number ← if rest.length = text.length then magnitude? rest else decimal? rest
  let value := sign * (number : Int)
  guard (-0x8000000000000000 ≤ value && value < 0x8000000000000000)
  return value

/-- A number in decimal notation: its digits, and the power of ten by which they count. -/
structure Decimal where
  digits : Nat
  exponent : Int
deriving DecidableEq, Repr

/-- The least number that rounds to none with a 64-bit binary form. -/
def Decimal.bound : Nat := Nat.pow 2 1024 - Nat.pow 2 970

/-- The number lies below the bound. Only those with 309 places before the point have to be
compared with it. -/
def Decimal.isBounded (number : Decimal) : Bool :=
  let places := (Nat.toDigits 10 number.digits).length + number.exponent
  number.digits = 0 || places < 309 ||
    (places == 309 &&
      number.digits * Nat.pow 10 number.exponent.toNat <
        Decimal.bound * Nat.pow 10 (-number.exponent).toNat)

def exponent? : List Char → Option Int
  | [] => some 0
  | 'e' :: rest | 'E' :: rest =>
      let (sign, digits) := takeSign rest
      (joinGroups? Char.isDigit digits).map fun digits => sign * (valueOf 10 digits : Int)
  | _ => none

/-- A number without a sign that has a fraction, an exponent or both. -/
def Decimal.ofText? (text : List Char) : Option Decimal := do
  let inWhole := fun char => char.isDigit || char = '_'
  let whole ← decimal? (text.takeWhile inWhole)
  match text.dropWhile inWhole with
  | [] => none
  | '.' :: rest => do
      let fraction ← joinGroups? Char.isDigit (rest.takeWhile inWhole)
      let exponent ← exponent? (rest.dropWhile inWhole)
      return ⟨whole * Nat.pow 10 fraction.length + valueOf 10 fraction,
        exponent - fraction.length⟩
  | rest => do return ⟨whole, ← exponent? rest⟩

/-- A number with a fraction or an exponent that is not too large, or one that is none. -/
def isReal (text : List Char) : Bool :=
  let (sign, text) := takeSign text
  text == ['i', 'n', 'f'] || text == ['n', 'a', 'n'] ||
    (Decimal.ofText? text).any fun number => sign < 0 || number.isBounded

/-- What follows a day of the calendar. -/
def takeDate? (text : List Char) : Option (List Char) := do
  let (year, text) ← Timestamp.takeDigits 4 0 text
  let text ← Timestamp.skip ['-'] text
  let (month, text) ← Timestamp.takeDigits 2 0 text
  let text ← Timestamp.skip ['-'] text
  let (day, text) ← Timestamp.takeDigits 2 0 text
  guard (Timestamp.day? year month day).isSome
  return text

/-- What follows a time of day. -/
def takeClock? (text : List Char) : Option (List Char) := do
  let (hour, text) ← Timestamp.takeDigits 2 0 text
  let text ← Timestamp.skip [':'] text
  let (minute, text) ← Timestamp.takeDigits 2 0 text
  let text ← Timestamp.skip [':'] text
  let (second, text) ← Timestamp.takeDigits 2 0 text
  let (_, text) ← Timestamp.takeFraction text
  guard (hour ≤ 23 && minute ≤ 59 && second ≤ 60)
  return text

/-- A time of day, with the distance of its clock from universal time or not. -/
def isClock (text : List Char) : Bool :=
  match takeClock? text with
  | none => false
  | some [] => true
  | some rest => (Timestamp.takeOffset rest).any (·.2.isEmpty)

def isMoment (text : List Char) : Bool :=
  match takeDate? text with
  | some [] => true
  | some (separator :: rest) =>
      (separator = 'T' || separator = 't' || separator = ' ') && isClock rest
  | none => (takeClock? text).any (·.isEmpty)

/-- The character can be part of a number, a date or a word. -/
def inToken (char : Char) : Bool :=
  char.isAlphanum || char = '+' || char = '-' || char = '_' || char = '.' || char = ':'

/-- A number, a date or a truth value that is given by a whole token. -/
def ofToken? (token : List Char) : Option Value :=
  if token == ['t', 'r', 'u', 'e'] then some (.boolean true)
  else if token == ['f', 'a', 'l', 's', 'e'] then some (.boolean false)
  else if isMoment token then some .moment
  else if isReal token then some .real
  else (integer? token).map .integer

/-- A token; a date and a time of day with a space between them are one. -/
def takeToken (text : List Char) : List Char × List Char :=
  let token := text.takeWhile inToken
  match text.dropWhile inToken with
  | ' ' :: char :: rest =>
      if takeDate? token == some [] && char.isDigit then
        let rest := char :: rest
        (token ++ [' '] ++ rest.takeWhile inToken, rest.dropWhile inToken)
      else (token, ' ' :: char :: rest)
  | rest => (token, rest)

/-- A value that has no parts. -/
def takeScalar? (text : List Char) : Option (Value × List Char) :=
  match text with
  | '"' :: _ | '\'' :: _ => (takeText? text).map fun (content, rest) => (.text content, rest)
  | _ =>
      let (token, rest) := takeToken text
      (ofToken? token).map (·, rest)

end SeriesIndex.Toml
