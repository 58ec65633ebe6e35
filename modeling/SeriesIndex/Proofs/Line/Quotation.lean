import SeriesIndex.Line
import SeriesIndex.Proofs.Outcome

/-!
# Quoting texts

Any text can be quoted: with backslashes, quotes and line feeds escaped, it is what the inside of
its quotation stands for. And whatever stands for a text ends at the quote that closes it, since
each quote inside has a backslash of its own.
-/

namespace SeriesIndex.Line.Quotation

/-- A character the way it is written inside of quotes. -/
def escape (char : Char) : List Char :=
  if char = '\\' || char = '"' then ['\\', char]
  else if char = '\n' then ['\\', 'n']
  else [char]

/-- The inside of the quotation of a text. -/
def escaped (value : List Char) : List Char := value.flatMap escape

/-- The quotation of a text. -/
def quoted (value : List Char) : List Char := '"' :: (escaped value ++ ['"'])

@[simp] theorem escaped_nil : escaped [] = [] := rfl

@[simp] theorem escaped_cons (char : Char) (value : List Char) :
    escaped (char :: value) = escape char ++ escaped value := rfl

/-- A character stands for itself inside of quotes, or is escaped by a character of its own. -/
inductive Escape : Char → List Char → Prop where
  | plain {char : Char} (unquoted : char ≠ '"') (single : char ≠ '\\') (whole : char ≠ '\n') :
      Escape char [char]
  | backslash : Escape '\\' ['\\', '\\']
  | quote : Escape '"' ['\\', '"']
  | lineFeed : Escape '\n' ['\\', 'n']

theorem escape_spec (char : Char) : Escape char (escape char) := by
  unfold escape
  split
  · next special =>
      rcases (by simpa using special : char = '\\' ∨ char = '"') with rfl | rfl
      · exact .backslash
      · exact .quote
  · next plain =>
      obtain ⟨single, unquoted⟩ : char ≠ '\\' ∧ char ≠ '"' := by simpa using plain
      split
      · next feed => exact feed ▸ .lineFeed
      · next whole => exact .plain unquoted single whole

/-- A quotation stays on one line. -/
theorem feed_not_mem_quoted (value : List Char) : '\n' ∉ quoted value := by
  have inner : '\n' ∉ escaped value := by
    intro feed
    obtain ⟨char, -, inside⟩ := List.mem_flatMap.mp feed
    have spec := escape_spec char
    generalize escape char = written at spec inside
    cases spec with
    | plain unquoted single whole => exact whole (List.mem_singleton.mp inside).symm
    | backslash => exact absurd inside (by decide)
    | quote => exact absurd inside (by decide)
    | lineFeed => exact absurd inside (by decide)
  simp [quoted, inner]

/-! ## Where a quotation ends -/

theorem closeAfter_step {backslashes : Nat} {char : Char} {text inner tail : List Char}
    (inside : char ≠ '"' ∨ backslashes % 2 = 1)
    (later : closeAfter (if char = '\\' then backslashes + 1 else 0) text = some (inner, tail)) :
    closeAfter backslashes (char :: text) = some (char :: inner, tail) := by
  have goesOn : ¬ (char = '"' && backslashes % 2 = 0) := by
    rcases inside with other | odd
    · simp [other]
    · simp [odd]
  rw [closeAfter, if_neg goesOn, later]
  rfl

/-- What may stand inside of quotes: a backslash takes the next character with it. -/
inductive Body : List Char → Prop where
  | nil : Body []
  | plain {char : Char} {inner : List Char} (unquoted : char ≠ '"') (single : char ≠ '\\')
      (body : Body inner) : Body (char :: inner)
  | escape {inner : List Char} (char : Char) (body : Body inner) : Body ('\\' :: char :: inner)

/-- Behind an even number of backslashes, a quotation goes on to the quote that closes it. -/
theorem Body.closeAfter {inner : List Char} (body : Body inner) {backslashes : Nat}
    (even : backslashes % 2 = 0) (tail : List Char) :
    Quotation.closeAfter backslashes (inner ++ '"' :: tail) = some (inner, tail) := by
  induction body generalizing backslashes with
  | nil => simp [Quotation.closeAfter, even]
  | plain unquoted single _ ih =>
      refine closeAfter_step (.inl unquoted) ?_
      rw [if_neg single]
      exact ih rfl
  | escape char _ ih =>
      have odd : (backslashes + 1) % 2 = 1 := by omega
      have evenAgain : (if char = '\\' then backslashes + 1 + 1 else 0) % 2 = 0 := by
        split
        · omega
        · rfl
      exact closeAfter_step (.inl (by decide)) (closeAfter_step (.inr odd) (ih evenAgain))

theorem closeAfter_some {backslashes : Nat} {text inner tail : List Char}
    (found : closeAfter backslashes text = some (inner, tail)) : text = inner ++ '"' :: tail := by
  induction text generalizing backslashes inner tail with
  | nil => cases found
  | cons char rest ih =>
      rw [closeAfter] at found
      split at found
      · next closes =>
          cases found
          have quote : char = '"' := by simpa using (Bool.and_eq_true_iff.mp closes).1
          rw [quote, List.nil_append]
      · obtain ⟨⟨front, back⟩, earlier, same⟩ := Option.map_eq_some_iff.mp found
        cases same
        rw [ih earlier, List.cons_append]

theorem take?_some {text inner tail : List Char} (taken : take? text = some (inner, tail)) :
    text = written inner ++ tail := by
  unfold take? at taken
  split at taken
  · rw [closeAfter_some taken]
    simp [written]
  · cases taken

theorem Body.take? {inner : List Char} (body : Body inner) (tail : List Char) :
    Quotation.take? (written inner ++ tail) = some (inner, tail) := by
  have form : written inner ++ tail = '"' :: (inner ++ '"' :: tail) := by simp [written]
  rw [form]
  exact body.closeAfter rfl tail

/-! ## What a quotation stands for -/

theorem unescape_cons {char : Char} (unquoted : char ≠ '"') (single : char ≠ '\\')
    (whole : char ≠ '\n') (inner : List Char) :
    unescape (char :: inner) = (unescape inner).map (char :: ·) := by
  rw [unescape, if_neg (by simp [unquoted, whole]), if_neg single]

theorem unescape_backslash (inner : List Char) :
    unescape ('\\' :: inner) =
      match takeEscape inner with
      | none => .error .badEscape
      | some (char, tail) => (unescape tail).map (char :: ·) := by
  rw [unescape, if_neg (by decide), if_pos rfl]
  split
  · next none => rw [none]
  · next taken => rw [taken]

theorem unescape_plain {char : Char} {inner value : List Char} (unquoted : char ≠ '"')
    (single : char ≠ '\\') (whole : char ≠ '\n') (later : unescape inner = .ok value) :
    unescape (char :: inner) = .ok (char :: value) := by
  rw [unescape_cons unquoted single whole, later]
  rfl

theorem unescape_escape {char : Char} {inner tail value : List Char}
    (stands : takeEscape inner = some (char, tail)) (later : unescape tail = .ok value) :
    unescape ('\\' :: inner) = .ok (char :: value) := by
  rw [unescape_backslash, stands]
  dsimp only
  rw [later]
  rfl

/-- The inside of the quotation of a text stands for the text. -/
theorem unescape_escaped (value : List Char) : unescape (escaped value) = .ok value := by
  induction value with
  | nil => rw [escaped_nil, unescape]
  | cons char rest ih =>
      have spec := escape_spec char
      rw [escaped_cons]
      generalize escape char = written at spec ⊢
      cases spec with
      | plain unquoted single whole => exact unescape_plain unquoted single whole ih
      | backslash => exact unescape_escape rfl ih
      | quote => exact unescape_escape rfl ih
      | lineFeed => exact unescape_escape rfl ih

/-! ## Whatever stands for a text is a body -/

theorem body_plain_iff {char : Char} {inner : List Char} (unquoted : char ≠ '"')
    (single : char ≠ '\\') : Body (char :: inner) ↔ Body inner := by
  constructor
  · intro body
    cases body with
    | plain _ _ later => exact later
    | escape _ _ => exact absurd rfl single
  · exact .plain unquoted single

theorem body_escape_iff {char : Char} {inner : List Char} :
    Body ('\\' :: char :: inner) ↔ Body inner := by
  constructor
  · intro body
    cases body with
    | plain _ single _ => exact absurd rfl single
    | escape _ later => exact later
  · exact .escape char

/-- A digit is neither a quote nor a backslash. -/
theorem digit?_plain {base digit : Nat} {char : Char} (read : digit? base char = some digit) :
    char ≠ '"' ∧ char ≠ '\\' := by
  constructor
  · rintro rfl
    cases read
  · rintro rfl
    cases read

theorem takeDigits_body {base count value code : Nat} {text rest : List Char}
    (taken : takeDigits base count value text = some (code, rest)) : Body text ↔ Body rest := by
  induction count generalizing value text with
  | zero =>
      cases taken
      exact Iff.rfl
  | succ count ih =>
      cases text with
      | nil => cases taken
      | cons char text =>
          rw [takeDigits] at taken
          split at taken
          · cases taken
          · next digit read =>
              obtain ⟨unquoted, single⟩ := digit?_plain read
              exact (body_plain_iff unquoted single).trans (ih taken)

theorem takeHexadecimal_body {count : Nat} {text rest : List Char} {char : Char}
    (taken : takeHexadecimal count text = some (char, rest)) : Body text ↔ Body rest := by
  unfold takeHexadecimal at taken
  split at taken
  · cases taken
  · next code tail digits =>
      obtain ⟨_, _, same⟩ := Option.map_eq_some_iff.mp taken
      cases same
      exact takeDigits_body digits

theorem takeOctal_body {text rest : List Char} {char : Char}
    (taken : takeOctal text = some (char, rest)) : Body text ↔ Body rest := by
  unfold takeOctal at taken
  split at taken
  · cases taken
  · next code tail digits =>
      split at taken
      · obtain ⟨_, _, same⟩ := Option.map_eq_some_iff.mp taken
        cases same
        exact takeDigits_body digits
      · cases taken

/-- An escape is a backslash with a character, and then digits or nothing. -/
theorem takeEscape_body {text rest : List Char} {char : Char}
    (taken : takeEscape text = some (char, rest)) : Body ('\\' :: text) ↔ Body rest := by
  cases text with
  | nil => cases taken
  | cons first text =>
      refine body_escape_iff.trans ?_
      unfold takeEscape at taken
      dsimp only at taken
      split at taken
      case h_11 | h_12 | h_13 => exact takeHexadecimal_body taken
      case h_14 =>
        -- the first of the octal digits is the character behind the backslash
        have unquoted : first ≠ '"' := by
          rintro rfl
          cases taken
        have single : first ≠ '\\' := by
          rintro rfl
          cases taken
        exact (body_plain_iff unquoted single).symm.trans (takeOctal_body taken)
      all_goals
        cases taken
        exact Iff.rfl

/-- What stands for a text has no bare quote in it. -/
theorem body_of_unescape {inner value : List Char} (stands : unescape inner = .ok value) :
    Body inner := by
  fun_induction unescape inner generalizing value with
  | case1 => exact .nil
  | case2 => cases stands
  | case3 => cases stands
  | case4 rest escaped tail taken _ ih =>
      obtain ⟨later, stands, -⟩ := map_ok.mp stands
      exact (takeEscape_body taken).mpr (ih stands)
  | case5 char rest plain single ih =>
      obtain ⟨later, stands, -⟩ := map_ok.mp stands
      exact .plain (fun quote => plain (by simp [quote])) single (ih stands)

end SeriesIndex.Line.Quotation
