import SeriesIndex.Proofs.Line.Quotation

/-!
# Where quotations close

A quotation closes at the first quote with an even number of backslashes right before it. That is
the first quote that is met when its text is read from the left, each backslash together with the
character behind it. So a quote inside is taken along by a backslash, and no quotation stands for
nothing because of a quote in it.
-/

namespace SeriesIndex.Line.Quotation

/-! ## Positions -/

/-- The number of bytes of a text. -/
def width : List Char → Nat
  | [] => 0
  | char :: rest => char.utf8Size + width rest

@[simp] theorem width_nil : width [] = 0 := rfl

@[simp] theorem width_cons (char : Char) (text : List Char) :
    width (char :: text) = char.utf8Size + width text := rfl

@[simp]
theorem width_append (front back : List Char) :
    width (front ++ back) = width front + width back := by
  induction front with
  | nil => exact (Nat.zero_add _).symm
  | cons char front ih => rw [List.cons_append, width_cons, width_cons, ih, Nat.add_assoc]

/-- The position, in bytes, of the quote that closes the quotation at the start of a text. -/
def closing? (text : List Char) : Option Nat :=
  (take? text).map fun (inner, _) => 1 + width inner

/-! ## Looking back -/

/-- The number of backslashes that a text ends with. -/
def backslashesAtEnd (text : List Char) : Nat := (text.reverse.takeWhile (· = '\\')).length

/-- The position of the first quote that has an even number of backslashes right before it, in what
follows a text. -/
def evenQuote? (before : List Char) : List Char → Option Nat
  | [] => none
  | char :: rest =>
      if char = '"' && backslashesAtEnd before % 2 = 0 then some (width before)
      else evenQuote? (before ++ [char]) rest

theorem backslashesAtEnd_concat (before : List Char) (char : Char) :
    backslashesAtEnd (before ++ [char]) =
      if char = '\\' then backslashesAtEnd before + 1 else 0 := by
  rw [backslashesAtEnd, List.reverse_append, List.reverse_singleton, List.singleton_append,
    List.takeWhile_cons]
  by_cases backslash : char = '\\'
  · simp [backslash, backslashesAtEnd]
  · simp [backslash]

/-- Counting backslashes on the way forward comes to the same as counting them back from each quote.
-/
theorem evenQuote?_eq (before text : List Char) :
    evenQuote? before text =
      (closeAfter (backslashesAtEnd before) text).map
        fun (inner, _) => width before + width inner := by
  induction text generalizing before with
  | nil => rfl
  | cons char rest ih =>
      rw [evenQuote?, closeAfter]
      split
      · rfl
      · rw [ih, backslashesAtEnd_concat, Option.map_map]
        congr 1
        funext taken
        simp [Nat.add_assoc]

/-! ## Reading on -/

/-- The position of the first quote that is met when a text is read from a position on, each
backslash together with the character behind it. -/
def firstQuote? (position : Nat) : List Char → Option Nat
  | [] => none
  | ['\\'] => none
  | '\\' :: taken :: rest => firstQuote? (position + 1 + taken.utf8Size) rest
  | char :: rest =>
      if char = '"' then some position else firstQuote? (position + char.utf8Size) rest

/-- The quote met first is the one behind a body. -/
theorem Body.firstQuote? {inner : List Char} (body : Body inner) (position : Nat)
    (tail : List Char) :
    Quotation.firstQuote? position (inner ++ '"' :: tail) = some (position + width inner) := by
  induction body generalizing position with
  | nil => rfl
  | @plain char inner unquoted single _ ih =>
      rw [List.cons_append, Quotation.firstQuote?, if_neg unquoted, ih, width_cons, Nat.add_assoc]
      · exact fun same _ => single same
      · exact fun _ _ same _ => single same
  | escape char _ ih =>
      rw [List.cons_append, List.cons_append, Quotation.firstQuote?, ih, width_cons, width_cons,
        Nat.add_assoc, Nat.add_assoc]
      rfl

theorem firstQuote?_some {position met : Nat} {text : List Char}
    (found : firstQuote? position text = some met) :
    ∃ inner tail, text = inner ++ '"' :: tail ∧ Body inner ∧ met = position + width inner := by
  fun_induction firstQuote? position text with
  | case1 => cases found
  | case2 => cases found
  | case3 position taken rest ih =>
      obtain ⟨inner, tail, rfl, body, rfl⟩ := ih found
      refine ⟨'\\' :: taken :: inner, tail, rfl, .escape taken body, ?_⟩
      rw [width_cons, width_cons, Nat.add_assoc, Nat.add_assoc]
      rfl
  | case4 position rest => exact ⟨[], rest, rfl, .nil, (Option.some.inj found).symm⟩
  | case5 position char rest last more unquoted ih =>
      obtain ⟨inner, tail, rfl, body, rfl⟩ := ih found
      have single : char ≠ '\\' := by
        rintro rfl
        cases inner with
        | nil => exact more _ _ rfl rfl
        | cons next inner => exact more _ _ rfl rfl
      exact ⟨char :: inner, tail, rfl, .plain unquoted single body, Nat.add_assoc _ _ _⟩

/-- What is quoted is a body; behind an odd number of backslashes, it is one with the last of them.
-/
theorem body_of_closeAfter {backslashes : Nat} {text inner tail : List Char}
    (found : closeAfter backslashes text = some (inner, tail)) :
    Body (if backslashes % 2 = 0 then inner else '\\' :: inner) := by
  induction text generalizing backslashes inner tail with
  | nil => cases found
  | cons char rest ih =>
      rw [closeAfter] at found
      split at found
      · next closes =>
          cases found
          have even : backslashes % 2 = 0 := by simpa using (Bool.and_eq_true_iff.mp closes).2
          exact if_pos even ▸ .nil
      · next goesOn =>
          obtain ⟨⟨front, back⟩, earlier, same⟩ := Option.map_eq_some_iff.mp found
          cases same
          have later := ih earlier
          by_cases even : backslashes % 2 = 0
          · have unquoted : char ≠ '"' := fun quote => goesOn (by simp [quote, even])
            rw [if_pos even]
            by_cases backslash : char = '\\'
            · rw [if_pos backslash, if_neg (by omega)] at later
              exact backslash ▸ later
            · rw [if_neg backslash, if_pos rfl] at later
              exact .plain unquoted backslash later
          · rw [if_neg even]
            refine .escape char ?_
            by_cases backslash : char = '\\'
            · rwa [if_pos backslash, if_pos (by omega)] at later
            · rwa [if_neg backslash, if_pos rfl] at later

theorem body_of_take? {text inner tail : List Char} (taken : take? text = some (inner, tail)) :
    Body inner := by
  unfold take? at taken
  split at taken
  · exact body_of_closeAfter taken
  · cases taken

theorem closing?_iff {text : List Char} {position : Nat} :
    closing? text = some position ↔
      ∃ rest, text = '"' :: rest ∧ firstQuote? 1 rest = some position := by
  constructor
  · intro closes
    obtain ⟨⟨inner, tail⟩, taken, rfl⟩ := Option.map_eq_some_iff.mp closes
    refine ⟨inner ++ '"' :: tail, ?_, (body_of_take? taken).firstQuote? 1 tail⟩
    rw [take?_some taken]
    simp [written]
  · rintro ⟨rest, rfl, met⟩
    obtain ⟨inner, tail, rfl, body, rfl⟩ := firstQuote?_some met
    have taken := body.take? tail
    rw [closing?, ← show written inner ++ tail = '"' :: (inner ++ '"' :: tail) by simp [written],
      taken]
    rfl

theorem closing?_quote (rest : List Char) : closing? ('"' :: rest) = evenQuote? ['"'] rest :=
  (evenQuote?_eq ['"'] rest).symm

theorem closing?_even_iff {text : List Char} {position : Nat} :
    closing? text = some position ↔
      ∃ rest, text = '"' :: rest ∧ evenQuote? ['"'] rest = some position := by
  constructor
  · intro closes
    obtain ⟨rest, rfl, -⟩ := closing?_iff.mp closes
    exact ⟨rest, rfl, closing?_quote rest ▸ closes⟩
  · rintro ⟨rest, rfl, found⟩
    exact (closing?_quote rest).trans found

/-! ## Quotes inside -/

/-- A text with apostrophes in place of its quotes. -/
def withoutQuotes (text : List Char) : List Char :=
  text.map fun char => if char = '"' then '\'' else char

theorem quote_not_mem_withoutQuotes (text : List Char) : '"' ∉ withoutQuotes text := by
  intro inside
  obtain ⟨char, -, same⟩ := List.mem_map.mp inside
  split at same
  · cases same
  · next other => exact other same

theorem withoutQuotes_cons {char : Char} (other : char ≠ '"') (text : List Char) :
    withoutQuotes (char :: text) = char :: withoutQuotes text := by
  rw [withoutQuotes, List.map_cons, if_neg other]
  rfl

theorem takeDigits_withoutQuotes (base count value : Nat) (text : List Char) :
    takeDigits base count value (withoutQuotes text) =
      (takeDigits base count value text).map fun (code, rest) => (code, withoutQuotes rest) := by
  induction count generalizing value text with
  | zero => rfl
  | succ count ih =>
      cases text with
      | nil => rfl
      | cons char rest =>
          by_cases quote : char = '"'
          · subst quote
            rfl
          · rw [withoutQuotes_cons quote, takeDigits, takeDigits]
            cases digit? base char with
            | none => rfl
            | some digit => exact ih _ _

theorem takeHexadecimal_withoutQuotes (count : Nat) (text : List Char) :
    takeHexadecimal count (withoutQuotes text) =
      (takeHexadecimal count text).map fun (char, rest) => (char, withoutQuotes rest) := by
  rw [takeHexadecimal, takeHexadecimal, takeDigits_withoutQuotes]
  cases takeDigits 16 count 0 text with
  | none => rfl
  | some digits =>
      obtain ⟨code, rest⟩ := digits
      dsimp only [Option.map_some]
      cases char? code <;> rfl

theorem takeOctal_withoutQuotes (text : List Char) :
    takeOctal (withoutQuotes text) =
      (takeOctal text).map fun (char, rest) => (char, withoutQuotes rest) := by
  rw [takeOctal, takeOctal, takeDigits_withoutQuotes]
  cases takeDigits 8 3 0 text with
  | none => rfl
  | some digits =>
      obtain ⟨code, rest⟩ := digits
      dsimp only [Option.map_some]
      split
      · cases char? code <;> rfl
      · rfl

/-- What follows an escape follows it without quotes as well. -/
theorem takeEscape_withoutQuotes (text : List Char) :
    (takeEscape (withoutQuotes text)).map Prod.snd =
      ((takeEscape text).map Prod.snd).map withoutQuotes := by
  cases text with
  | nil => rfl
  | cons char rest =>
      by_cases quote : char = '"'
      · subst quote
        rfl
      · rw [withoutQuotes_cons quote, takeEscape.eq_def, takeEscape.eq_def]
        dsimp only
        split
        case h_11 | h_12 | h_13 =>
          rw [takeHexadecimal_withoutQuotes, Option.map_map, Option.map_map]
          rfl
        case h_14 =>
          rw [← withoutQuotes_cons quote, takeOctal_withoutQuotes, Option.map_map, Option.map_map]
          rfl
        all_goals rfl

/-- Where a quotation stands for nothing, it would do so without its quotes, for the same reason. -/
theorem Body.unescape_error_iff {inner : List Char} (body : Body inner) {fault : Fault} :
    unescape inner = .error fault ↔ unescape (withoutQuotes inner) = .error fault := by
  fun_induction unescape inner with
  | case1 => rw [withoutQuotes, List.map_nil, unescape]
  | case2 char rest bare =>
      have feed : char = '\n' := by
        rcases (by simpa using bare : char = '"' ∨ char = '\n') with rfl | feed
        · cases body with
          | plain unquoted _ _ => exact absurd rfl unquoted
        · exact feed
      subst feed
      rw [withoutQuotes_cons (by decide), unescape, if_pos (by decide)]
  | case3 rest taken =>
      have tails := takeEscape_withoutQuotes rest
      rw [taken] at tails
      rw [withoutQuotes_cons (by decide), unescape_backslash, Option.map_eq_none_iff.mp tails]
  | case4 rest escaped tail taken _ ih =>
      have tails := takeEscape_withoutQuotes rest
      rw [taken] at tails
      obtain ⟨⟨other, _⟩, read, rfl⟩ := Option.map_eq_some_iff.mp tails
      have later := ih ((takeEscape_body taken).mp body)
      rw [withoutQuotes_cons (by decide), unescape_backslash, read, map_error, later]
      exact map_error.symm
  | case5 char rest plain single ih =>
      obtain ⟨unquoted, whole⟩ : char ≠ '"' ∧ char ≠ '\n' := by simpa using plain
      have later := ih ((body_plain_iff unquoted single).mp body)
      rw [withoutQuotes_cons unquoted, unescape_cons unquoted single whole, map_error, map_error,
        later]

/-! ## Quotations without backslashes -/

/-- What the inside of a quotation is taken for if it has no backslashes: the text itself, unless it
has quotes or does not stay on one line. -/
def asWritten (inner : List Char) : Except Fault (List Char) :=
  if '"' ∈ inner ∨ '\n' ∈ inner then .error .notQuoted else .ok inner

theorem asWritten_cons {char : Char} (unquoted : char ≠ '"') (whole : char ≠ '\n')
    (inner : List Char) : asWritten (char :: inner) = (asWritten inner).map (char :: ·) := by
  have bare : ('"' ∈ char :: inner ∨ '\n' ∈ char :: inner) ↔ ('"' ∈ inner ∨ '\n' ∈ inner) := by
    simp [unquoted.symm, whole.symm]
  rw [asWritten, asWritten]
  simp only [bare]
  split <;> rfl

theorem unescape_of_single {inner : List Char} (single : '\\' ∉ inner) :
    unescape inner = asWritten inner := by
  induction inner with
  | nil =>
      rw [unescape]
      rfl
  | cons char rest ih =>
      have here : char ≠ '\\' := fun same => single (same ▸ List.mem_cons_self)
      have later := ih fun inside => single (List.mem_cons_of_mem char inside)
      by_cases quote : char = '"'
      · rw [unescape, if_pos (by simp [quote]), asWritten, if_pos (by simp [quote])]
      · by_cases feed : char = '\n'
        · rw [unescape, if_pos (by simp [feed]), asWritten, if_pos (by simp [feed])]
        · rw [unescape_cons quote here feed, later, asWritten_cons quote feed]

theorem Body.quote_not_mem {inner : List Char} (body : Body inner) (single : '\\' ∉ inner) :
    '"' ∉ inner := by
  induction body with
  | nil => exact List.not_mem_nil
  | plain unquoted _ _ ih =>
      simp only [List.mem_cons, not_or] at single ⊢
      exact ⟨unquoted.symm, ih single.2⟩
  | escape char _ _ => exact absurd List.mem_cons_self single

/-! ## The whole -/

/-- A text that starts with a quote has a quotation up to the first quote that is met when it is
read from behind that quote on, each backslash together with the character behind it; it is also the
first quote that has an even number of backslashes right before it. No other text has one. If a
quotation stands for nothing, it would do so without its quotes as well; and if it has no
backslashes, then it has no quotes either and what it stands for can be told without reading it. -/
theorem closing_reads (text : List Char) :
    (∀ position,
      (closing? text = some position ↔
        ∃ rest, text = '"' :: rest ∧ firstQuote? 1 rest = some position) ∧
      (closing? text = some position ↔
        ∃ rest, text = '"' :: rest ∧ evenQuote? ['"'] rest = some position)) ∧
    ∀ inner tail, take? text = some (inner, tail) →
      text = written inner ++ tail ∧ closing? text = some (1 + width inner) ∧
        (∀ fault, unescape inner = .error fault ↔ unescape (withoutQuotes inner) = .error fault) ∧
        '"' ∉ withoutQuotes inner ∧
        ('\\' ∉ inner → '"' ∉ inner ∧ asWritten inner = unescape inner) := by
  refine ⟨fun position => ⟨closing?_iff, closing?_even_iff⟩, ?_⟩
  · intro inner tail taken
    have body := body_of_take? taken
    refine ⟨take?_some taken, by rw [closing?, taken]; rfl, fun _ => body.unescape_error_iff,
      quote_not_mem_withoutQuotes inner, fun single => ?_⟩
    exact ⟨body.quote_not_mem single, (unescape_of_single single).symm⟩

/-- The inside of a quotation with an escape that is none, and an escaped quote behind it. -/
def strayEscape : List Char := ['\\', 'q', '\\', '"']

/-- The quotation goes on behind the escaped quote, and it is the stray escape that makes it stand
for nothing. -/
theorem closing_reads_strayEscape :
    take? ('"' :: (strayEscape ++ ['"', ' ', '7'])) = some (strayEscape, [' ', '7']) ∧
      closing? ('"' :: (strayEscape ++ ['"', ' ', '7'])) = some 5 ∧
      unescape strayEscape = .error .badEscape ∧
      unescape (withoutQuotes strayEscape) = .error .badEscape := by
  have taken : take? ('"' :: (strayEscape ++ ['"', ' ', '7'])) = some (strayEscape, [' ', '7']) :=
    rfl
  have stray : unescape strayEscape = .error .badEscape := unescape_backslash _
  obtain ⟨-, closed⟩ := closing_reads ('"' :: (strayEscape ++ ['"', ' ', '7']))
  obtain ⟨-, closes, faults, -⟩ := closed _ _ taken
  exact ⟨taken, closes, stray, (faults .badEscape).mp stray⟩

end SeriesIndex.Line.Quotation
