import SeriesIndex.Pattern

/-!
# What readers leave

A reader of a part of a pattern leaves a rest that is no longer than what it was given, and one of a
whole construct takes a character at least. So the length of a text bounds the number of its
constructs, and the reader of whole patterns comes to the end of each text. For that the readers of
digits, of dashes and of the names of boundaries are one reader of characters of some kind.
-/

namespace SeriesIndex.Pattern

/-! ## Readers in another form -/

section Forms

variable {ignore : Bool}

/-- The characters at the front that are kept, with ignored blanks between them. -/
def front (keep : Char → Bool) (ignore : Bool) : Nat → List Char → List Char × List Char
  | 0, text => ([], text)
  | _ + 1, [] => ([], [])
  | fuel + 1, char :: rest =>
      if keep char then
        let (more, rest) := front keep ignore fuel (skip ignore rest)
        (char :: more, rest)
      else ([], char :: rest)

theorem digits_eq_front (fuel : Nat) (text : List Char) :
    digits ignore fuel text = front Char.isDigit ignore fuel text := by
  induction fuel generalizing text with
  | zero => rfl
  | succ fuel ih =>
      cases text with
      | nil => rfl
      | cons char rest => rw [digits, front, ih]

theorem boundaryName_eq_front (fuel : Nat) (text : List Char) :
    boundaryName ignore fuel text =
      front (fun char => char.isAlpha || char = '-') ignore fuel text := by
  induction fuel generalizing text with
  | zero => rfl
  | succ fuel ih =>
      cases text with
      | nil => rfl
      | cons char rest => rw [boundaryName, front, ih]

theorem leadingDashes_eq_front (fuel : Nat) (text : List Char) :
    leadingDashes ignore fuel text =
      ((front (· = '-') ignore fuel text).1.map fun char => .literal ⟨char, false⟩,
        (front (· = '-') ignore fuel text).2) := by
  induction fuel generalizing text with
  | zero => rfl
  | succ fuel ih =>
      cases text with
      | nil => rfl
      | cons char rest =>
          by_cases dash : char = '-'
          · subst dash
            simp only [leadingDashes, front, ih, decide_true, if_true, List.map_cons]
          · simp only [leadingDashes, List.cons.injEq, dash, false_and, imp_self, implies_true,
              front, decide_false, Bool.false_eq_true, if_false, List.map_nil]

/-- The name of a class up to its colon, and the bracket behind that. -/
def named (negated : Bool) (text : List Char) : Option (ClassSet × List Char) :=
  match text.dropWhile (· != ':') with
  | ':' :: ']' :: rest =>
      if asciiNames.contains (String.ofList (text.takeWhile (· != ':'))) then
        some (ClassSet.ascii (String.ofList (text.takeWhile (· != ':'))) negated, rest)
      else none
  | _ => none

theorem asciiClass?_eq_named (text : List Char) :
    asciiClass? text =
      match text with
      | ':' :: '^' :: rest => named true rest
      | ':' :: rest => named false rest
      | _ => none := rfl

/-- The start of a class from behind its caret. -/
def opened (ignore negated : Bool) (text : List Char) : Except Fault (OpenClass × List Char) :=
  match leadingDashes ignore text.length text with
  | (dashes, rest) =>
      match dashes, rest with
      | _, [] => .error .unclosedClass
      | [], ']' :: rest =>
          match skip ignore rest with
          | [] => .error .unclosedClass
          | rest => .ok (⟨negated, none, [.literal ⟨']', false⟩]⟩, rest)
      | dashes, rest => .ok (⟨negated, none, dashes.reverse⟩, rest)

theorem openClass_eq_opened (text : List Char) :
    openClass ignore text =
      match skip ignore text with
      | '^' :: rest => opened ignore true (skip ignore rest)
      | text => opened ignore false text := rfl

end Forms

/-! ## Rests -/

theorem skipBlanks_length (inComment : Bool) (text : List Char) :
    (skipBlanks inComment text).length ≤ text.length := by
  induction text generalizing inComment with
  | nil => exact Nat.le_refl _
  | cons char rest ih =>
      rw [skipBlanks]
      repeat' split
      · exact Nat.le_succ_of_le (ih _)
      · exact Nat.le_succ_of_le (ih _)
      · exact Nat.le_succ_of_le (ih _)
      · exact Nat.le_refl _

theorem skip_length (ignore : Bool) (text : List Char) :
    (skip ignore text).length ≤ text.length := by
  cases ignore
  · exact Nat.le_refl _
  · exact skipBlanks_length false text

/-- The rest left behind what is read is not longer than the bound. -/
def Leaves {α : Type} (bound : Nat) (read : Except Fault (α × List Char)) : Prop :=
  ∀ value rest, read = .ok (value, rest) → rest.length ≤ bound

section Leaving

variable {α β : Type} {bound more : Nat}

theorem leaves_error (fault : Fault) : Leaves (α := α) bound (.error fault) :=
  fun _ _ impossible => nomatch impossible

theorem leaves_ok {value : α} {rest : List Char} (short : rest.length ≤ bound) :
    Leaves bound (.ok (value, rest)) := by
  rintro _ _ ⟨⟩
  exact short

theorem Leaves.bind {read : Except Fault (β × List Char)}
    {next : β × List Char → Except Fault (α × List Char)} (leaves : Leaves more read)
    (goes : ∀ value rest, rest.length ≤ more → Leaves bound (next (value, rest))) :
    Leaves bound (read >>= next) := by
  cases read with
  | error fault => exact leaves_error fault
  | ok outcome => exact goes outcome.1 outcome.2 (leaves outcome.1 outcome.2 rfl)

/-- A value that does not depend on the text. -/
theorem leaves_pure (made : Except Fault α) {rest : List Char} (short : rest.length ≤ bound) :
    Leaves bound (made >>= fun value => pure (value, rest)) := by
  cases made with
  | error fault => exact leaves_error fault
  | ok value => exact leaves_ok short

end Leaving

section Parts

variable {ignore : Bool} {text : List Char} {bound : Nat}

theorem skip_le (short : text.length ≤ bound) : (skip ignore text).length ≤ bound :=
  Nat.le_trans (skip_length ignore text) short

theorem dropWhile_le {drop : Char → Bool} (short : text.length ≤ bound) :
    (text.dropWhile drop).length ≤ bound :=
  Nat.le_trans (List.dropWhile_sublist drop).length_le short

theorem front_le {keep : Char → Bool} (fuel : Nat) (short : text.length ≤ bound) :
    (front keep ignore fuel text).2.length ≤ bound := by
  induction fuel generalizing text with
  | zero => exact short
  | succ fuel ih =>
      cases text with
      | nil => exact short
      | cons char rest =>
          rw [front]
          split
          · exact ih (skip_le (Nat.le_of_succ_le short))
          · exact short

/-! ## Counts -/

theorem count?_leaves (short : text.length ≤ bound) : Leaves bound (count? ignore text) := by
  have digits :
      (digits ignore text.length (text.dropWhile Text.isWhitespace)).2.length ≤ bound := by
    rw [digits_eq_front]
    exact front_le _ (dropWhile_le short)
  rw [count?]
  dsimp only
  repeat' split
  · exact leaves_ok (skip_le (dropWhile_le digits))
  · exact leaves_ok (dropWhile_le (skip_le (dropWhile_le digits)))
  · exact leaves_ok (skip_le (dropWhile_le digits))
  · exact leaves_ok (dropWhile_le (skip_le (dropWhile_le digits)))
  · exact leaves_error _

theorem count_leaves (short : text.length ≤ bound) : Leaves bound (count ignore text) := by
  refine (count?_leaves short).bind fun value rest short => ?_
  cases value with
  | none => exact leaves_error _
  | some value => exact leaves_ok short

theorem bounds_leaves (short : text.length ≤ bound) : Leaves bound (bounds ignore text) := by
  unfold bounds
  dsimp only
  split
  · exact leaves_error _
  · refine (count_leaves (skip_le short)).bind fun least rest short => ?_
    dsimp only
    split
    · exact leaves_ok (Nat.le_of_succ_le short)
    · next rest =>
        have skipped : (skip ignore rest).length ≤ bound := skip_le (Nat.le_of_succ_le short)
        split
        · next same =>
            rw [same] at skipped
            exact leaves_ok (Nat.le_of_succ_le skipped)
        · refine (count_leaves skipped).bind fun most rest short => ?_
          dsimp only
          split
          · split
            · exact leaves_ok (Nat.le_of_succ_le short)
            · exact leaves_error _
          · exact leaves_error _
    · exact leaves_error _

/-! ## Escapes -/

theorem fixedHex_leaves (width value : Nat) (short : text.length ≤ bound) :
    Leaves bound (fixedHex ignore width value text) := by
  induction width generalizing value text with
  | zero => exact leaves_ok short
  | succ width ih =>
      unfold fixedHex
      split
      · exact leaves_error _
      · split
        · exact leaves_error _
        · exact ih _ (skip_le (Nat.le_of_succ_le short))

theorem bracedHex_leaves (fuel : Nat) (value : Option Nat) (short : text.length ≤ bound) :
    Leaves bound (bracedHex ignore fuel value text) := by
  induction fuel generalizing value text with
  | zero => exact leaves_error _
  | succ fuel ih =>
      unfold bracedHex
      split
      · exact leaves_error _
      · split
        · exact leaves_error _
        · exact leaves_ok (skip_le (Nat.le_of_succ_le short))
      · split
        · exact leaves_error _
        · exact ih _ (skip_le (Nat.le_of_succ_le short))

/-- A code point is a character or not, whatever comes behind it. -/
theorem charOf_leaves (code : Nat) (byte : Bool) (short : text.length ≤ bound) :
    Leaves bound
      (match charOf? code with
        | none => .error .escape
        | some char => .ok (Construct.literal ⟨char, byte⟩, text)) := by
  cases charOf? code with
  | none => exact leaves_error _
  | some char => exact leaves_ok short

theorem fixedLiteral_leaves (width : Nat) (byte : Bool) (short : text.length ≤ bound) :
    Leaves bound
      (do
        let (code, rest) ← fixedHex ignore width 0 text
        match charOf? code with
        | none => .error .escape
        | some char => return (Construct.literal ⟨char, byte⟩, rest)) :=
  (fixedHex_leaves width 0 short).bind fun code _ short => charOf_leaves code byte short

theorem hexLiteral_leaves (kind : Char) (short : text.length ≤ bound) :
    Leaves bound (hexLiteral ignore kind text) := by
  have skipped : (skip ignore text).length ≤ bound := skip_le short
  unfold hexLiteral
  dsimp only
  split
  · exact leaves_error _
  · next rest same =>
      rw [same] at skipped
      exact (bracedHex_leaves _ none (skip_le (Nat.le_of_succ_le skipped))).bind
        fun code _ short => charOf_leaves code false short
  · repeat' split
    · exact fixedLiteral_leaves 2 true skipped
    · exact fixedLiteral_leaves 4 false skipped
    · exact fixedLiteral_leaves 8 false skipped

theorem braced_leaves (fuel : Nat) (short : text.length ≤ bound) :
    Leaves bound (braced ignore fuel text) := by
  induction fuel generalizing text with
  | zero => exact leaves_error _
  | succ fuel ih =>
      unfold braced
      dsimp only
      split
      · exact leaves_error _
      · exact leaves_ok (Nat.le_of_succ_le short)
      · exact (ih (skip_le (Nat.le_of_succ_le short))).bind fun _ _ short => leaves_ok short

theorem propertyClass_leaves (negated : Bool) (short : text.length ≤ bound) :
    Leaves bound (propertyClass ignore negated text) := by
  have skipped : (skip ignore text).length ≤ bound := skip_le short
  unfold propertyClass
  split
  · exact leaves_error _
  · next same =>
      rw [same] at skipped
      exact (braced_leaves _ (skip_le (Nat.le_of_succ_le skipped))).bind
        fun _ _ short => leaves_ok short
  · exact leaves_error _
  · next same =>
      rw [same] at skipped
      exact leaves_ok (skip_le (Nat.le_of_succ_le skipped))

theorem wordBoundary_leaves (short : text.length ≤ bound) :
    Leaves bound (wordBoundary ignore text) := by
  unfold wordBoundary
  split
  · next rest =>
      have skipped : (skip ignore rest).length ≤ bound := skip_le (Nat.le_of_succ_le short)
      split
      · exact leaves_error _
      · next first more same =>
          rw [same] at skipped
          split
          · have name : (boundaryName ignore (first :: more).length (first :: more)).2.length ≤
                bound := by
              rw [boundaryName_eq_front]
              exact front_le _ skipped
            split
            · next found =>
                rw [found] at name
                repeat' split
                all_goals first
                  | exact leaves_ok (Nat.le_of_succ_le name)
                  | exact leaves_error _
            · exact leaves_error _
          · exact leaves_ok short
  · exact leaves_ok short

theorem escaped_leaves (short : text.length ≤ bound) : Leaves bound (escaped ignore text) := by
  unfold escaped
  split
  · exact leaves_error _
  · have behind := Nat.le_of_succ_le short
    dsimp only
    repeat' split
    all_goals first
      | exact leaves_error _
      | exact leaves_ok behind
      | exact hexLiteral_leaves _ behind
      | exact propertyClass_leaves _ behind
      | exact (wordBoundary_leaves behind).bind fun _ _ short => leaves_ok short

/-! ## Classes -/

theorem asciiClass?_le {found : ClassSet × List Char} (short : text.length ≤ bound)
    (named_ : asciiClass? text = some found) : found.2.length ≤ bound := by
  have read : ∀ {negated : Bool} {text : List Char}, text.length ≤ bound →
      named negated text = some found → found.2.length ≤ bound := by
    intro negated text short named_
    have behind : (text.dropWhile (· != ':')).length ≤ bound := dropWhile_le short
    unfold named at named_
    split at named_
    · next same =>
        rw [same] at behind
        split at named_
        · cases named_
          exact Nat.le_of_succ_le (Nat.le_of_succ_le behind)
        · cases named_
    · cases named_
  rw [asciiClass?_eq_named] at named_
  split at named_
  · exact read (Nat.le_of_succ_le (Nat.le_of_succ_le short)) named_
  · exact read (Nat.le_of_succ_le short) named_
  · cases named_

theorem opened_leaves (negated : Bool) (short : text.length ≤ bound) :
    Leaves bound (opened ignore negated text) := by
  have dashes : (leadingDashes ignore text.length text).2.length ≤ bound := by
    rw [leadingDashes_eq_front]
    exact front_le _ short
  unfold opened
  split
  next found =>
    rw [found] at dashes
    split
    · exact leaves_error _
    · next rest =>
        have skipped : (skip ignore rest).length ≤ bound := skip_le (Nat.le_of_succ_le dashes)
        split
        · exact leaves_error _
        · exact leaves_ok skipped
    · exact leaves_ok dashes

theorem openClass_leaves (short : text.length ≤ bound) : Leaves bound (openClass ignore text) := by
  have skipped : (skip ignore text).length ≤ bound := skip_le short
  rw [openClass_eq_opened]
  split
  · next same =>
      rw [same] at skipped
      exact opened_leaves true (skip_le (Nat.le_of_succ_le skipped))
  · exact opened_leaves false skipped

/-- A unit of a class takes a character at least. -/
theorem classUnit_leaves (short : text.length ≤ bound + 1) :
    Leaves bound (classUnit ignore text) := by
  unfold classUnit
  split
  · exact escaped_leaves (Nat.le_of_succ_le_succ short)
  · exact leaves_ok (Nat.le_of_succ_le_succ short)
  · exact leaves_error _

theorem classItem_leaves (short : text.length ≤ bound + 1) :
    Leaves bound (classItem ignore text) := by
  refine (classUnit_leaves short).bind fun first rest short => ?_
  have skipped : (skip ignore rest).length ≤ bound := skip_le short
  dsimp only
  split
  · exact leaves_error _
  · next rest' same =>
      split
      · exact leaves_pure _ skipped
      · rw [same] at skipped
        refine (classUnit_leaves (skip_le (Nat.le_succ_of_le (Nat.le_of_succ_le skipped)))).bind
          fun last rest short => ?_
        cases first.rangeEnd with
        | error fault => exact leaves_error _
        | ok first =>
            cases last.rangeEnd with
            | error fault => exact leaves_error _
            | ok last =>
                simp only [Except.bind, bind]
                split
                · exact leaves_ok short
                · exact leaves_error _
  · exact leaves_pure _ skipped

theorem classRest_leaves (fuel : Nat) (inner : OpenClass) (outer : List OpenClass)
    (short : text.length ≤ bound) : Leaves bound (classRest ignore fuel inner outer text) := by
  induction fuel generalizing inner outer text with
  | zero => exact leaves_error _
  | succ fuel ih =>
      have skipped : (skip ignore text).length ≤ bound := skip_le short
      rw [classRest]
      split
      · exact leaves_error _
      · next same =>
          rw [same] at skipped
          have behind := Nat.le_of_succ_le skipped
          split
          · next found => exact ih _ _ (asciiClass?_le behind found)
          · split
            · exact leaves_error _
            · next opening => exact ih _ _ (openClass_leaves behind _ _ opening)
      · next same =>
          rw [same] at skipped
          have behind := Nat.le_of_succ_le skipped
          split
          · exact leaves_ok behind
          · exact ih _ _ behind
      · next same =>
          rw [same] at skipped
          exact ih _ _ (Nat.le_of_succ_le (Nat.le_of_succ_le skipped))
      · next same =>
          rw [same] at skipped
          exact ih _ _ (Nat.le_of_succ_le (Nat.le_of_succ_le skipped))
      · next same =>
          rw [same] at skipped
          exact ih _ _ (Nat.le_of_succ_le (Nat.le_of_succ_le skipped))
      · split
        · exact leaves_error _
        · next item =>
            exact ih _ _ (classItem_leaves (Nat.le_succ_of_le skipped) _ _ item)

theorem bracketedClass_leaves (short : text.length ≤ bound) :
    Leaves bound (bracketedClass ignore text) := by
  refine (openClass_leaves short).bind fun inner rest short => ?_
  exact (classRest_leaves _ inner [] short).bind fun _ _ short => leaves_ok short

/-! ## Groups -/

theorem flags_leaves (change : FlagChange) (negated dangling : Bool)
    (short : text.length ≤ bound) : Leaves bound (flags change negated dangling text) := by
  induction text generalizing change negated dangling with
  | nil => exact leaves_error _
  | cons char rest ih =>
      have behind := Nat.le_of_succ_le short
      rw [flags]
      repeat' split
      · exact leaves_error _
      · exact leaves_ok behind
      · exact leaves_error _
      · exact ih _ _ _ behind
      · exact leaves_error _
      · exact ih _ _ _ behind

theorem groupName_leaves (first : Bool) (short : text.length ≤ bound) :
    Leaves bound (groupName first text) := by
  induction text generalizing first with
  | nil => exact leaves_error _
  | cons char rest ih =>
      have behind := Nat.le_of_succ_le short
      rw [groupName]
      repeat' split
      · exact leaves_error _
      · exact leaves_ok behind
      · exact (ih false behind).bind fun _ _ short => leaves_ok short
      · exact leaves_error _

end Parts

namespace Progress

variable {progress : Progress} {text : List Char} {bound : Nat}

/-- Opens a group with a name, from behind the bracket before the name. -/
def openNamed (progress : Progress) (text : List Char) : Except Fault (Progress × List Char) := do
  let (name, rest) ← groupName true text
  return (← progress.capture (some (String.ofList name)), rest)

/-- Opens a group with flags, or applies those of a directive, from behind the question mark. -/
def openFlagged (progress : Progress) (text : List Char) :
    Except Fault (Progress × List Char) := do
  match ← flags .none false false text with
  | ((change, ')'), rest') =>
      if text.head? = some ')' then .error .nothingToRepeat
      else
        return ({ progress.push (.flags change) with
          ignoring := change.ignoreBlanks.getD progress.ignoring }, rest')
  | ((change, _), rest) => return (progress.enter (.plain change), rest)

theorem repetition_leaves (least : Nat) (most : Option Nat) (short : text.length ≤ bound) :
    Leaves bound (progress.repetition least most text) := by
  unfold repetition
  split
  · exact leaves_pure _ (Nat.le_of_succ_le short)
  · exact leaves_pure _ short

theorem openGroup_leaves (short : text.length ≤ bound) :
    Leaves bound (progress.openGroup text) := by
  have skipped : (skip progress.ignoring text).length ≤ bound := skip_le short
  have name : ∀ {rest : List Char}, rest.length ≤ bound →
      Leaves bound (progress.openNamed rest) := fun short =>
    (groupName_leaves true short).bind fun _ _ short => leaves_pure _ short
  unfold openGroup
  dsimp only
  split
  · exact leaves_error _
  · exact leaves_error _
  · exact leaves_error _
  · exact leaves_error _
  · next same =>
      rw [same] at skipped
      exact name (Nat.le_of_succ_le (Nat.le_of_succ_le (Nat.le_of_succ_le skipped)))
  · next same =>
      rw [same] at skipped
      exact name (Nat.le_of_succ_le (Nat.le_of_succ_le skipped))
  · next same =>
      rw [same] at skipped
      refine (flags_leaves .none false false (Nat.le_of_succ_le skipped)).bind
        fun found rest short => ?_
      obtain ⟨change, stop⟩ := found
      by_cases directive : stop = ')'
      · subst directive
        simp only
        split
        · exact leaves_error _
        · exact leaves_ok short
      · simp only
        exact leaves_ok short
  · exact leaves_pure _ skipped

/-- What is left behind a construct is not longer than what was behind its first character. -/
theorem step_leaves (char : Char) (short : text.length ≤ bound) :
    Leaves bound (progress.step char text) := by
  unfold step
  split
  · exact openGroup_leaves short
  · exact leaves_pure _ short
  · exact leaves_ok short
  · exact (bracketedClass_leaves short).bind fun _ _ short => leaves_ok short
  · exact repetition_leaves 0 (some 1) short
  · exact repetition_leaves 0 none short
  · exact repetition_leaves 1 none short
  · dsimp only
    split
    · exact leaves_error _
    · refine (bounds_leaves short).bind fun counts rest short => ?_
      exact repetition_leaves _ _ (skip_le short)
  · exact (escaped_leaves short).bind fun _ _ short => leaves_ok short
  · exact leaves_ok short
  · exact leaves_ok short
  · exact leaves_ok short
  · exact leaves_ok short

end Progress

end SeriesIndex.Pattern
