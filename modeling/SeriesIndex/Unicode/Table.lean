import SeriesIndex.Unicode.CharSet

/-!
# Written character tables

The tables of the character database are written as text: ranges in hexadecimal, separated by
blanks, a range of one code point as that code point and a longer one as its ends with a dash
between. A character that is no part of a number or range ends the number before it.
-/

namespace SeriesIndex.Unicode

/-- The value of a hexadecimal digit in lower or upper case. -/
def hexDigit? (char : Char) : Option Nat :=
  if '0' ≤ char && char ≤ '9' then some (char.toNat - 48)
  else if 'a' ≤ char && char ≤ 'f' then some (char.toNat - 87)
  else if 'A' ≤ char && char ≤ 'F' then some (char.toNat - 55)
  else none

namespace Table

/-- What has been read of a range: nothing, its first number, or both ends. -/
inductive Pending where
  | nothing
  | start (first : Nat)
  | span (first last : Nat)

namespace Pending

def digit (value : Nat) : Pending → Pending
  | nothing => start value
  | start first => start (first * 16 + value)
  | span first last => span first (last * 16 + value)

def dash : Pending → Pending
  | nothing => nothing
  | start first => span first 0
  | span first last => span first last

def close : Pending → List CharRange
  | nothing => []
  | start first => [⟨first, first⟩]
  | span first last => [⟨first, last⟩]

end Pending

def ranges (pending : Pending) : List Char → List CharRange
  | [] => pending.close
  | char :: rest =>
      match hexDigit? char with
      | some value => ranges (pending.digit value) rest
      | none =>
          if char = '-' then ranges pending.dash rest
          else pending.close ++ ranges .nothing rest

/-- The set that a table text describes. -/
def read (text : String) : CharSet := ranges .nothing text.toList

end Table

end SeriesIndex.Unicode
