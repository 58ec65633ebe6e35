/-!
# Decimal numerals

A numeral is a run of decimal digits, with a plus sign before it or not. Reading one has an upper
bound; the first character at fault decides which of the errors it is.
-/

namespace SeriesIndex.Text.Numeral

inductive Fault where
  | empty
  | notDigit
  | tooLarge
deriving DecidableEq, Repr

def Fault.message : Fault → String
  | empty => "cannot parse integer from empty string"
  | notDigit => "invalid digit found in string"
  | tooLarge => "number too large to fit in target type"

def digit? (char : Char) : Option Nat :=
  if char.isDigit then some (char.toNat - 48) else none

/-- Reads the digits that follow a number already read. -/
def readDigits (bound value : Nat) : List Char → Except Fault Nat
  | [] => .ok value
  | char :: rest =>
      match digit? char with
      | none => .error .notDigit
      | some digit =>
          let next := value * 10 + digit
          if next ≤ bound then readDigits bound next rest else .error .tooLarge

/-- Reads a whole text as a number not above `bound`. -/
def read (bound : Nat) : List Char → Except Fault Nat
  | [] => .error .empty
  | ['+'] => .error .notDigit
  | '+' :: digits => readDigits bound 0 digits
  | digits => readDigits bound 0 digits

/-- The largest 32-bit word. -/
def maxWord32 : Nat := 0xFFFFFFFF

/-- The largest 64-bit word. -/
def maxWord64 : Nat := 0xFFFFFFFFFFFFFFFF

def word64? (text : List Char) : Option UInt64 :=
  (read maxWord64 text).toOption.map UInt64.ofNat

end SeriesIndex.Text.Numeral
