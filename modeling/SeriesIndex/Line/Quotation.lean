import SeriesIndex.Text.Quoted

/-!
# Quotations

A quotation is a text in double quotes in which a backslash starts an escape. It ends at the first
quote that has an even number of backslashes right before it. The escapes are those of common
programming languages: single letters, two, four or eight hexadecimal digits, and three octal
ones.
-/

namespace SeriesIndex.Line.Quotation

inductive Fault where
  /-- A bare quote or line break, or no quotes around it. -/
  | notQuoted
  | badEscape
deriving DecidableEq, Repr

/-- Cuts what follows an opening quote at the closing one; `backslashes` is the number of
backslashes right before. -/
def closeAfter (backslashes : Nat) : List Char → Option (List Char × List Char)
  | [] => none
  | char :: rest =>
      if char = '"' && backslashes % 2 = 0 then some ([], rest)
      else
        (closeAfter (if char = '\\' then backslashes + 1 else 0) rest).map
          fun (inner, tail) => (char :: inner, tail)

/-- The inside of the quotation that a text starts with, and what follows it. -/
def take? : List Char → Option (List Char × List Char)
  | '"' :: rest => closeAfter 0 rest
  | _ => none

/-- What is quoted and what follows it is all but the closing quote. -/
theorem closeAfter_length {backslashes : Nat} {text inner tail : List Char}
    (found : closeAfter backslashes text = some (inner, tail)) :
    inner.length + tail.length + 1 = text.length := by
  induction text generalizing backslashes inner tail with
  | nil => cases found
  | cons char rest ih =>
      rw [closeAfter] at found
      split at found
      · cases found
        simp
      · obtain ⟨⟨front, back⟩, earlier, same⟩ := Option.map_eq_some_iff.mp found
        cases same
        have shorter := ih earlier
        simp only [List.length_cons]
        omega

theorem take?_shorter {text inner tail : List Char} (found : take? text = some (inner, tail)) :
    tail.length < text.length := by
  unfold take? at found
  split at found
  · have length := closeAfter_length found
    simp only [List.length_cons]
    omega
  · cases found

/-! ## Escapes -/

/-- The digit that a character stands for in a base up to 16. -/
def digit? (base : Nat) (char : Char) : Option Nat :=
  let value? :=
    if char.isDigit then some (char.toNat - 48)
    else if 'a' ≤ char && char ≤ 'f' then some (char.toNat - 87)
    else if 'A' ≤ char && char ≤ 'F' then some (char.toNat - 55)
    else none
  value?.filter (· < base)

/-- Reads exactly `count` digits that follow a number already read. -/
def takeDigits (base : Nat) : (count value : Nat) → List Char → Option (Nat × List Char)
  | 0, value, text => some (value, text)
  | _ + 1, _, [] => none
  | count + 1, value, char :: rest =>
      match digit? base char with
      | none => none
      | some digit => takeDigits base count (value * base + digit) rest

/-- The character with a code point, if there is one. -/
def char? (code : Nat) : Option Char :=
  if Nat.isValidChar code then some (Char.ofNat code) else none

/-- The character with a code point of so many hexadecimal digits. -/
def takeHexadecimal (count : Nat) (text : List Char) : Option (Char × List Char) :=
  match takeDigits 16 count 0 text with
  | none => none
  | some (code, rest) => (char? code).map (·, rest)

/-- The character of three octal digits, which ends below 256. -/
def takeOctal (text : List Char) : Option (Char × List Char) :=
  match takeDigits 8 3 0 text with
  | none => none
  | some (code, rest) => if code ≤ 0xFF then (char? code).map (·, rest) else none

/-- The character of an escape, given what follows the backslash. -/
def takeEscape : List Char → Option (Char × List Char)
  | [] => none
  | char :: rest =>
      match char with
      | '"' => some ('"', rest)
      | '\'' => some ('\'', rest)
      | '\\' => some ('\\', rest)
      | 'n' => some ('\n', rest)
      | 't' => some ('\t', rest)
      | 'r' => some ('\r', rest)
      | 'a' => some ('\x07', rest)
      | 'b' => some ('\x08', rest)
      | 'f' => some ('\x0C', rest)
      | 'v' => some ('\x0B', rest)
      | 'x' => takeHexadecimal 2 rest
      | 'u' => takeHexadecimal 4 rest
      | 'U' => takeHexadecimal 8 rest
      | _ => takeOctal (char :: rest)

theorem takeDigits_length {base count value code : Nat} {text rest : List Char}
    (taken : takeDigits base count value text = some (code, rest)) :
    rest.length + count = text.length := by
  induction count generalizing value text with
  | zero => cases taken; rfl
  | succ count ih =>
      cases text with
      | nil => cases taken
      | cons char text =>
          rw [takeDigits] at taken
          split at taken
          · cases taken
          · have shorter := ih taken
            simp only [List.length_cons]
            omega

theorem takeHexadecimal_length {count : Nat} {text rest : List Char} {char : Char}
    (taken : takeHexadecimal count text = some (char, rest)) :
    rest.length ≤ text.length := by
  unfold takeHexadecimal at taken
  split at taken
  · cases taken
  · next code tail digits =>
      obtain ⟨_, _, same⟩ := Option.map_eq_some_iff.mp taken
      cases same
      have shorter := takeDigits_length digits
      omega

theorem takeOctal_length {text rest : List Char} {char : Char}
    (taken : takeOctal text = some (char, rest)) : rest.length < text.length := by
  unfold takeOctal at taken
  split at taken
  · cases taken
  · next code tail digits =>
      split at taken
      · obtain ⟨_, _, same⟩ := Option.map_eq_some_iff.mp taken
        cases same
        have shorter := takeDigits_length digits
        omega
      · cases taken

theorem takeEscape_shorter {text rest : List Char} {char : Char}
    (taken : takeEscape text = some (char, rest)) : rest.length < text.length := by
  cases text with
  | nil => cases taken
  | cons first text =>
      unfold takeEscape at taken
      dsimp only at taken
      split at taken
      case h_11 | h_12 | h_13 =>
        exact Nat.lt_succ_of_le (takeHexadecimal_length taken)
      case h_14 => exact takeOctal_length taken
      all_goals
        cases taken
        exact Nat.lt_succ_self _

/-- The text that the inside of a quotation stands for. -/
def unescape (inner : List Char) : Except Fault (List Char) :=
  match inner with
  | [] => .ok []
  | char :: rest =>
      if char = '"' || char = '\n' then .error .notQuoted
      else if char = '\\' then
        match _taken : takeEscape rest with
        | none => .error .badEscape
        | some (escaped, tail) => (unescape tail).map (escaped :: ·)
      else (unescape rest).map (char :: ·)
termination_by inner.length
decreasing_by
  · exact Nat.lt_succ_of_lt (takeEscape_shorter ‹_›)
  · exact Nat.lt_succ_self _

end SeriesIndex.Line.Quotation
