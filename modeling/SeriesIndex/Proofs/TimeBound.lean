import SeriesIndex.Proofs.Numeral
import SeriesIndex.Proofs.Selector.Written
import SeriesIndex.TimeBound

/-!
# Reading time bounds

A time that starts with the word for the present moment is read exactly if the grammar of such
times allows what follows the word, and is then that moment less the duration that stands there. A
duration that is too long counts as the longest one, and no time comes before the first. Decimal
digits are read as the number of which they are the numeral, if it is a word.
-/

namespace SeriesIndex.TimeBound

open Selector (Blanks skipBlanks skipBlanks_append skipBlanks_of_not skipBlanks_split)
open Text.Numeral (word64? word64?_eq_some_iff maxWord64)

/-! ## The grammar -/

/-- A unit of durations and how many milliseconds it has. Its letter may be of either case, but the
two letters of the shortest unit may not. -/
inductive Scale : List Char → Nat → Prop where
  | millisecond : Scale ['m', 's'] 1
  | second {letter : Char} (spelled : letter.toLower = 's') : Scale [letter] 1000
  | minute {letter : Char} (spelled : letter.toLower = 'm') : Scale [letter] 60000
  | hour {letter : Char} (spelled : letter.toLower = 'h') : Scale [letter] 3600000
  | day {letter : Char} (spelled : letter.toLower = 'd') : Scale [letter] 86400000
  | week {letter : Char} (spelled : letter.toLower = 'w') : Scale [letter] 604800000

/-- A number that is a word, and directly behind it a unit. -/
inductive Duration : List Char → Nat → Prop where
  | of {digits unit : List Char} {size : Nat} (filled : digits ≠ [])
      (decimal : ∀ char ∈ digits, char.isDigit = true)
      (fits : Nat.ofDigitChars 10 digits 0 < UInt64.size) (scale : Scale unit size) :
      Duration (digits ++ unit) (Nat.ofDigitChars 10 digits 0 * size)

/-- A duration behind a minus sign, or nothing. -/
inductive Back : List Char → Nat → Prop where
  | none : Back [] 0
  | some {blanks text : List Char} {span : Nat} (between : Blanks blanks)
      (duration : Duration text span) : Back ('-' :: (blanks ++ text)) span

/-- What may follow the word for the present moment: a pair of parentheses or not, and then a
duration behind a minus sign or nothing. -/
inductive Since : List Char → Nat → Prop where
  | of {call blanks text : List Char} {span : Nat} (called : call = [] ∨ call = ['(', ')'])
      (between : Blanks blanks) (back : Back text span) : Since (call ++ (blanks ++ text)) span

/-! ## Letters of either case -/

section Letters

variable {char mark : Char}

/-- What is no letter is the lower case of nothing but itself. -/
theorem eq_of_toLower (lower : char.toLower = mark) (noLetter : mark.isAlpha = false) :
    char = mark := by
  unfold Char.toLower at lower
  split at lower
  · next upper =>
      have above : 65 ≤ char.val.toNat := UInt32.le_iff_toNat_le.mp upper.1
      have below : char.val.toNat ≤ 90 := UInt32.le_iff_toNat_le.mp upper.2
      have moved : mark.val.toNat = (char.val.toNat + 32) % 2 ^ 32 := by
        rw [← lower]
        exact UInt32.toNat_add _ _
      have first : 97 ≤ mark.val.toNat := by omega
      have last : mark.val.toNat ≤ 122 := by omega
      have letter : mark.isLower = true := (Bool.and_eq_true _ _).mpr
        ⟨decide_eq_true (UInt32.le_iff_toNat_le.mpr first),
          decide_eq_true (UInt32.le_iff_toNat_le.mpr last)⟩
      have other : mark.isLower = false := (Bool.or_eq_false_iff.mp noLetter).2
      cases letter.symm.trans other
  · exact lower

theorem toLower_of_isDigit (digit : char.isDigit = true) : char.toLower = char := by
  have below := (Char.isDigit_iff_toNat.mp digit).2
  unfold Char.toLower
  rw [dif_neg]
  rintro ⟨above, -⟩
  exact absurd (Nat.le_trans (UInt32.le_iff_toNat_le.mp above) below) (by decide)

end Letters

/-! ## Durations -/

section Durations

variable {text rest unit : List Char} {size span back : Nat}

theorem takeUnit?_some (taken : takeUnit? text = some (size, rest)) :
    ∃ unit, Scale unit size ∧ text = unit ++ rest := by
  unfold takeUnit? at taken
  split at taken
  · cases taken
    exact ⟨_, .millisecond, rfl⟩
  · next letter later _ =>
      obtain ⟨_, found, same⟩ := Option.map_eq_some_iff.mp taken
      cases same
      split at found
      · next spelled => cases found; exact ⟨_, .week spelled, rfl⟩
      · next spelled => cases found; exact ⟨_, .day spelled, rfl⟩
      · next spelled => cases found; exact ⟨_, .hour spelled, rfl⟩
      · next spelled => cases found; exact ⟨_, .minute spelled, rfl⟩
      · next spelled => cases found; exact ⟨_, .second spelled, rfl⟩
      · cases found
  · cases taken

theorem Scale.takeUnit? (scale : Scale unit size) :
    TimeBound.takeUnit? unit = some (size, []) := by
  cases scale with
  | millisecond => rfl
  | second spelled => simp [TimeBound.takeUnit?, spelled]
  | minute spelled => simp [TimeBound.takeUnit?, spelled]
  | hour spelled => simp [TimeBound.takeUnit?, spelled]
  | day spelled => simp [TimeBound.takeUnit?, spelled]
  | week spelled => simp [TimeBound.takeUnit?, spelled]

/-- A unit does not go on with the number in front of it. -/
theorem Scale.head (scale : Scale unit size) :
    ∃ letter later, unit = letter :: later ∧ letter.isDigit = false := by
  have apart : ∀ {letter mark : Char}, letter.toLower = mark → mark.isDigit = false →
      letter.isDigit = false := by
    intro letter mark lower other
    refine Bool.eq_false_iff.mpr fun digit => ?_
    rw [toLower_of_isDigit digit] at lower
    rw [← lower, digit] at other
    cases other
  cases scale with
  | millisecond => exact ⟨_, _, rfl, by decide⟩
  | second spelled => exact ⟨_, _, rfl, apart spelled (by decide)⟩
  | minute spelled => exact ⟨_, _, rfl, apart spelled (by decide)⟩
  | hour spelled => exact ⟨_, _, rfl, apart spelled (by decide)⟩
  | day spelled => exact ⟨_, _, rfl, apart spelled (by decide)⟩
  | week spelled => exact ⟨_, _, rfl, apart spelled (by decide)⟩

theorem takeDuration?_some (taken : takeDuration? text = some (back, rest)) :
    ∃ front span, Duration front span ∧ text = front ++ rest ∧ back = min span maxWord64 := by
  unfold takeDuration? at taken
  obtain ⟨number, read, taken⟩ := Option.bind_eq_some_iff.mp taken
  obtain ⟨⟨size, behind⟩, measured, taken⟩ := Option.bind_eq_some_iff.mp taken
  cases taken
  obtain ⟨unit, scale, split⟩ := takeUnit?_some measured
  have filled : text.takeWhile Char.isDigit ≠ [] := (Text.Numeral.plain_of_word64? read).1
  have decimal : ∀ char ∈ text.takeWhile Char.isDigit, char.isDigit = true := fun _ inside =>
    List.mem_takeWhile_imp inside
  have spelled := (word64?_eq_some_iff filled decimal).mp read
  refine ⟨_, _, .of filled decimal (spelled ▸ number.toNat_lt) scale, ?_, by rw [spelled]⟩
  rw [List.append_assoc, ← split, List.takeWhile_append_dropWhile]

theorem Duration.takeDuration? (duration : Duration text span) :
    TimeBound.takeDuration? text = some (min span maxWord64, []) := by
  cases duration with
  | @of digits unit size filled decimal fits scale =>
      obtain ⟨letter, later, shape, other⟩ := scale.head
      have front : (digits ++ unit).takeWhile Char.isDigit = digits := by
        rw [List.takeWhile_append_of_pos decimal, shape,
          List.takeWhile_cons_of_neg (by simp [other]), List.append_nil]
      have back : (digits ++ unit).dropWhile Char.isDigit = unit := by
        rw [List.dropWhile_append_of_pos decimal, shape,
          List.dropWhile_cons_of_neg (by simp [other])]
      have number := UInt64.toNat_ofNat_of_lt' fits
      have read := (word64?_eq_some_iff filled decimal).mpr number.symm
      rw [TimeBound.takeDuration?, front, back, read, scale.takeUnit?]
      simp [number]

/-- A duration begins with a digit. -/
theorem Duration.skipBlanks (duration : Duration text span) : Selector.skipBlanks text = text := by
  cases duration with
  | @of digits unit size filled decimal fits scale =>
      obtain ⟨digit, later, rfl⟩ := List.exists_cons_of_ne_nil filled
      refine skipBlanks_of_not (Bool.eq_false_iff.mpr fun blank => ?_) _
      have decimal := decimal digit (.head _)
      rcases Selector.isBlank_cases blank with rfl | rfl | rfl | rfl <;> cases decimal

theorem takeBack_nil (taken : takeBack text = (back, [])) :
    ∃ span, Back text span ∧ back = min span maxWord64 := by
  unfold takeBack at taken
  split at taken
  · next rest =>
      cases found : takeDuration? (skipBlanks rest) with
      | none =>
          rw [found] at taken
          cases taken
      | some read =>
          rw [found] at taken
          cases taken
          obtain ⟨front, span, duration, whole, same⟩ := takeDuration?_some found
          obtain ⟨blanks, only, split⟩ := skipBlanks_split rest
          rw [whole, List.append_nil] at split
          exact ⟨span, split ▸ .some only duration, same⟩
  · cases taken
    exact ⟨0, .none, rfl⟩

theorem Back.takeBack (back : Back text span) :
    TimeBound.takeBack text = (min span maxWord64, []) := by
  cases back with
  | none => rfl
  | some between duration =>
      rw [TimeBound.takeBack, skipBlanks_append between, duration.skipBlanks,
        duration.takeDuration?]
      rfl

/-- What is not empty begins with the minus sign. -/
theorem Back.head (back : Back text span) : ∀ char ∈ text.head?, char = '-' := by
  cases back with
  | none => nofun
  | some => exact fun char first => (Option.some.inj first).symm

theorem Back.skipBlanks (back : Back text span) : Selector.skipBlanks text = text := by
  cases back with
  | none => rfl
  | some => exact skipBlanks_of_not (by decide) _

/-- Without a duration nothing is taken off the text. -/
theorem takeBack_suffix (text : List Char) : (takeBack text).2 <:+ text := by
  unfold takeBack
  split
  · next rest =>
      cases found : takeDuration? (skipBlanks rest) with
      | none => exact List.suffix_rfl
      | some read =>
          obtain ⟨front, span, -, whole, -⟩ := takeDuration?_some found
          have behind : read.2 <:+ skipBlanks rest := whole ▸ List.suffix_append front read.2
          exact (behind.trans (List.dropWhile_suffix _)).trans (List.suffix_cons _ _)
  · exact List.suffix_rfl

end Durations

/-! ## Times before the present moment -/

section Relative

variable {text word rest : List Char} {back span : Nat} {now time : UInt64}

theorem skipWord?_append (spelled : text.map Char.toLower = word) (rest : List Char) :
    skipWord? word (text ++ rest) = some rest := by
  subst spelled
  induction text with
  | nil => simp [skipWord?]
  | cons letter text ih =>
      rw [List.map_cons, List.cons_append, skipWord?, if_pos rfl]
      exact ih

theorem skipWord?_some (skipped : skipWord? word text = some rest) :
    ∃ front, front.map Char.toLower = word ∧ text = front ++ rest := by
  induction word generalizing text with
  | nil =>
      rw [skipWord?] at skipped
      cases skipped
      exact ⟨[], rfl, rfl⟩
  | cons letter word ih =>
      cases text with
      | nil => cases skipped
      | cons char text =>
          rw [skipWord?] at skipped
          split at skipped
          · next spelled =>
              obtain ⟨front, same, rfl⟩ := ih skipped
              exact ⟨char :: front, by rw [List.map_cons, spelled, same], rfl⟩
          · cases skipped

/-- What is left behind the word, without the parentheses that may follow it. -/
def behindCall (rest : List Char) : List Char := (skipWord? ['(', ')'] rest).getD rest

theorem behindCall_split (rest : List Char) :
    ∃ call, (call = [] ∨ call = ['(', ')']) ∧ rest = call ++ behindCall rest := by
  cases skipped : skipWord? ['(', ')'] rest with
  | none => exact ⟨[], .inl rfl, by simp [behindCall, skipped]⟩
  | some later =>
      obtain ⟨call, spelled, whole⟩ := skipWord?_some skipped
      obtain ⟨first, _, rfl, opens, spelled⟩ := List.map_eq_cons_iff.mp spelled
      obtain ⟨second, _, rfl, closes, ends⟩ := List.map_eq_cons_iff.mp spelled
      obtain rfl := eq_of_toLower opens (by decide)
      obtain rfl := eq_of_toLower closes (by decide)
      obtain rfl := List.map_eq_nil_iff.mp ends
      exact ⟨['(', ')'], .inr rfl, by rw [behindCall, skipped]; exact whole⟩

theorem behindCall_append {call later : List Char} (called : call = [] ∨ call = ['(', ')'])
    (stops : ∀ char ∈ later.head?, char ≠ '(') : behindCall (call ++ later) = later := by
  rcases called with rfl | rfl
  · cases later with
    | nil => rfl
    | cons char later =>
        have other : char.toLower ≠ '(' := fun same =>
          stops char rfl (eq_of_toLower same (by decide))
        rw [List.nil_append, behindCall, skipWord?, if_neg other]
        rfl
  · rfl

/-- What follows the word is read to its end exactly if the grammar allows it. -/
theorem takeBack_behindCall : takeBack (skipBlanks (behindCall rest)) = (back, []) ↔
    ∃ span, Since rest span ∧ back = min span maxWord64 := by
  constructor
  · intro taken
    obtain ⟨call, called, whole⟩ := behindCall_split rest
    obtain ⟨blanks, only, split⟩ := skipBlanks_split (behindCall rest)
    obtain ⟨span, allowed, same⟩ := takeBack_nil taken
    rw [split] at whole
    exact ⟨span, whole ▸ .of called only allowed, same⟩
  · rintro ⟨span, @⟨call, blanks, text, _, called, between, allowed⟩, rfl⟩
    have stops : ∀ char ∈ (blanks ++ text).head?, char ≠ '(' := by
      rintro char first rfl
      cases blanks with
      | nil => exact absurd (allowed.head _ first) (by decide)
      | cons blank blanks =>
          obtain rfl := Option.some.inj first
          exact absurd (between _ (.head _)) (by decide)
    rw [behindCall_append called stops, skipBlanks_append between, allowed.skipBlanks,
      allowed.takeBack]

theorem takeRelative?_append (spelled : word.map Char.toLower = ['n', 'o', 'w'])
    (rest : List Char) (now : UInt64) :
    takeRelative? (word ++ rest) now =
      some (UInt64.ofNat (now.toNat - (takeBack (skipBlanks (behindCall rest))).1),
        (takeBack (skipBlanks (behindCall rest))).2) := by
  rw [takeRelative?, skipWord?_append spelled]
  rfl

/-- Nothing may follow a time but white space. -/
theorem parse_eq_ok {text : String} : parse text now = .ok time ↔
    ∃ rest, take (Text.trim text.toList) now = .ok (time, rest) ∧ Text.trim rest = [] := by
  rw [parse]
  split
  · next refused => simp [refused]
  · next found rest taken =>
      rw [taken]
      dsimp only
      split
      · next spent =>
          have spent : Text.trim rest = [] := by simpa using spent
          constructor
          · rintro ⟨⟩
            exact ⟨rest, rfl, spent⟩
          · rintro ⟨_, ⟨⟩, -⟩
            rfl
      · next more =>
          refine ⟨nofun, ?_⟩
          rintro ⟨_, ⟨⟩, spent⟩
          exact absurd (by simpa using spent) more

/-- After the word for the present moment the grammar decides. -/
theorem parse_relative {text : String} (trimmed : Text.trim text.toList = word ++ rest)
    (spelled : word.map Char.toLower = ['n', 'o', 'w']) :
    parse text now = .ok time ↔
      ∃ span, Since rest span ∧ time.toNat = now.toNat - min span (UInt64.size - 1) := by
  have taken : take (Text.trim text.toList) now =
      .ok (UInt64.ofNat (now.toNat - (takeBack (skipBlanks (behindCall rest))).1),
        (takeBack (skipBlanks (behindCall rest))).2) := by
    rw [take, trimmed, takeRelative?_append spelled]
  have behind : (takeBack (skipBlanks (behindCall rest))).2 <:+ Text.trim text.toList := by
    obtain ⟨call, -, whole⟩ := behindCall_split rest
    have later : skipBlanks (behindCall rest) <:+ behindCall rest := List.dropWhile_suffix _
    rw [trimmed]
    exact (takeBack_suffix _).trans (later.trans
      (.trans ⟨call, whole.symm⟩ (List.suffix_append word rest)))
  have least (back : Nat) : (UInt64.ofNat (now.toNat - back)).toNat = now.toNat - back :=
    UInt64.toNat_ofNat_of_lt' (Nat.lt_of_le_of_lt (Nat.sub_le _ _) now.toNat_lt)
  rw [parse_eq_ok, taken]
  constructor
  · rintro ⟨_, ⟨⟩, spent⟩
    have whole := Selector.eq_nil_of_suffix behind spent
    obtain ⟨span, allowed, same⟩ := takeBack_behindCall.mp (Prod.ext rfl whole)
    exact ⟨span, allowed, (least _).trans (congrArg (now.toNat - ·) same)⟩
  · rintro ⟨span, allowed, same⟩
    have all := takeBack_behindCall.mpr ⟨span, allowed, rfl⟩
    have moment : UInt64.ofNat (now.toNat - min span maxWord64) = time :=
      UInt64.toNat_inj.mp ((least _).trans same.symm)
    exact ⟨[], by rw [all, ← moment], rfl⟩

end Relative

/-! ## Numbers of milliseconds -/

section Decimal

variable {text rest digits : List Char} {count value number : Nat} {now time : UInt64}

theorem takeDigits_suffix (taken : Timestamp.takeDigits count value text = some (number, rest)) :
    rest <:+ text := by
  induction count generalizing value text with
  | zero =>
      cases taken
      exact List.suffix_rfl
  | succ count ih =>
      cases text with
      | nil => cases taken
      | cons char text =>
          rw [Timestamp.takeDigits] at taken
          split at taken
          · cases taken
          · exact (ih taken).trans (List.suffix_cons char text)

theorem skip_digits (decimal : ∀ char ∈ text, char.isDigit = true) :
    Timestamp.skip ['-'] text = none := by
  cases text with
  | nil => rfl
  | cons char text =>
      have other : ¬ ['-'].contains char := by
        intro sign
        obtain rfl : char = '-' := by simpa using sign
        exact absurd (decimal _ (.head _)) (by decide)
      rw [Timestamp.skip, if_neg other]

/-- Digits name no moment as timestamps do, since no sign parts them. -/
theorem parse?_digits (decimal : ∀ char ∈ digits, char.isDigit = true) :
    Timestamp.parse? digits = none := by
  rw [Timestamp.parse?]
  cases taken : Timestamp.takeDigits 4 0 digits with
  | none => rfl
  | some year =>
      have unparted : Timestamp.skip ['-'] year.2 = none :=
        skip_digits fun char inside => decimal char ((takeDigits_suffix taken).mem inside)
      rw [Option.bind_eq_bind, Option.bind_some]
      dsimp only
      rw [unparted]
      rfl

/-- Digits are taken as a number, unless that is too large. -/
theorem take_digits (filled : digits ≠ []) (decimal : ∀ char ∈ digits, char.isDigit = true) :
    take digits now =
      match word64? digits with
      | some number => .ok (number, [])
      | none => .error (.tooLarge (String.ofList digits)) := by
  have all : digits.takeWhile Char.isDigit = digits := List.takeWhile_eq_self_iff.mpr decimal
  have nothing : digits.dropWhile Char.isDigit = [] := List.dropWhile_eq_nil_iff.mpr decimal
  have plain : digits.takeWhile inTimestamp = digits := by
    refine List.takeWhile_eq_self_iff.mpr fun char inside => ?_
    simp [inTimestamp, Char.isAlphanum, decimal char inside]
  have noWord : takeRelative? digits now = none := by
    obtain ⟨digit, later, rfl⟩ := List.exists_cons_of_ne_nil filled
    have other : digit.toLower ≠ 'n' := by
      intro same
      have here := decimal digit (.head _)
      rw [toLower_of_isDigit here] at same
      rw [same] at here
      cases here
    rw [takeRelative?, skipWord?, if_neg other]
    rfl
  have noMoment : takeTimestamp? digits = none := by
    rw [takeTimestamp?, plain, parse?_digits decimal]
    rfl
  have nonempty : digits.isEmpty = false := List.isEmpty_eq_false_iff.mpr filled
  rw [take, noWord]
  dsimp only
  rw [takeAbsolute, noMoment]
  dsimp only
  rw [all, nonempty, nothing]
  rfl

/-- Digits are read as the number that they are a numeral of, if that is a word. -/
theorem parse_decimal {text : String} (filled : Text.trim text.toList ≠ [])
    (decimal : ∀ char ∈ Text.trim text.toList, char.isDigit = true) :
    parse text now = .ok time ↔ Nat.ofDigitChars 10 (Text.trim text.toList) 0 = time.toNat := by
  rw [parse_eq_ok, take_digits filled decimal, ← word64?_eq_some_iff filled decimal]
  cases word64? (Text.trim text.toList) with
  | none => simp
  | some number =>
      constructor
      · rintro ⟨_, ⟨⟩, -⟩
        rfl
      · rintro ⟨⟩
        exact ⟨[], rfl, rfl⟩

end Decimal

/-! ## Bounds of either form -/

/-- A bound that starts with the word for the present moment is read exactly if the grammar allows
what follows, and is that moment less the duration. Durations stop at the largest word, and times at
the first moment. Digits are read exactly if they are a numeral of a word. -/
theorem parse_bounds (now : UInt64) :
    (∀ (text : String) (word rest : List Char), Text.trim text.toList = word ++ rest →
      word.map Char.toLower = ['n', 'o', 'w'] → ∀ time : UInt64,
      parse text now = .ok time ↔
        ∃ span, Since rest span ∧ time.toNat = now.toNat - min span (UInt64.size - 1)) ∧
    (∀ text : String, Text.trim text.toList ≠ [] →
      (∀ char ∈ Text.trim text.toList, char.isDigit = true) → ∀ time : UInt64,
      parse text now = .ok time ↔ Nat.ofDigitChars 10 (Text.trim text.toList) 0 = time.toNat) :=
  ⟨fun _ _ _ trimmed spelled _ => parse_relative trimmed spelled,
    fun _ filled decimal _ => parse_decimal filled decimal⟩

/-- The longest duration in weeks goes back to the first moment, and zeros may stand in front of the
numeral of the last word. -/
theorem parse_farthest_bounds :
    parse " nOw()\t- 18446744073709551615W " 5 = .ok 0 ∧
      parse "0018446744073709551615" 5 = .ok 18446744073709551615 := by
  have weeks : Duration ("18446744073709551615".toList ++ ['W'])
      (18446744073709551615 * 604800000) :=
    .of (by decide) (List.all_eq_true.mp (by decide)) (by decide +kernel) (.week (by decide))
  have tab : Blanks ['\t'] := List.forall_mem_singleton.mpr rfl
  have space : Blanks [' '] := List.forall_mem_singleton.mpr rfl
  have since : Since (['(', ')'] ++ (['\t'] ++ '-' :: ([' '] ++ _)))
      (18446744073709551615 * 604800000) :=
    .of (.inr rfl) tab (.some space weeks)
  constructor
  · exact ((parse_bounds 5).1 _ "nOw".toList _ (by decide +kernel) (by decide) 0).mpr
      ⟨_, since, by decide⟩
  · exact ((parse_bounds 5).2 _ (by decide) (List.all_eq_true.mp (by decide)) _).mpr
      (by decide +kernel)

end SeriesIndex.TimeBound
