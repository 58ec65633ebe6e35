import SeriesIndex.Text.Class

/-!
# Quoted text

A text is quoted for a reader: in double quotes, with a backslash before quotes and backslashes,
short forms for four control characters, and the code point of everything that would not show.
-/

namespace SeriesIndex.Text.Quoted

/-- A number in lower-case hexadecimal without leading zeros. -/
def hexadecimal (value : Nat) : List Char := Nat.toDigits 16 value

def escape (char : Char) : List Char :=
  if char = '"' || char = '\\' then ['\\', char]
  else if char = '\n' then ['\\', 'n']
  else if char = '\r' then ['\\', 'r']
  else if char = '\t' then ['\\', 't']
  else if char = '\x00' then ['\\', '0']
  else if isVisible char then [char]
  else ['\\', 'u', '{'] ++ hexadecimal char.toNat ++ ['}']

def encode (text : List Char) : List Char := ['"'] ++ text.flatMap escape ++ ['"']

end Quoted

/-- The text in quotes, fit to be shown. -/
def quoted (text : String) : String := String.ofList (Quoted.encode text.toList)

end SeriesIndex.Text
