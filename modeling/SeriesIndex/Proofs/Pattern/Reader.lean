import SeriesIndex.Proofs.Outcome
import SeriesIndex.Proofs.Pattern.Remainder

/-!
# Patterns in a group

A pattern text is anchored by putting it in a group between the start and the end of a value. Where
the reader accepts the bare text, it makes the same of it inside of the group: each part of the
reader finds the same in front of the closing parenthesis as in front of nothing. There is one other
outcome. Under the flag that ignores blanks a comment at the end of the text swallows what follows
it, and then the group is left open.

What keeps the bare text from being read keeps the anchored one from it too, or the closing
parenthesis is taken for a part of a construct that the text breaks off in, and then it is missing
at the end.
-/

namespace SeriesIndex.Pattern

/-! ## Texts with an end put to them -/

/-- What is put behind a pattern text: the end of the group and the end of the value. -/
def closing : List Char := [')', '$']

/-- A rest of the anchored text stands to one of the bare text as the whole does, or a comment has
swallowed the end. -/
def Follows (text longer : List Char) : Prop := longer = text ++ closing ∨ text = [] ∧ longer = []

namespace Follows

theorem append (text : List Char) : Follows text (text ++ closing) := .inl rfl

theorem closed : Follows [] closing := .inl rfl

theorem done : Follows [] [] := .inr ⟨rfl, rfl⟩

theorem cons {char : Char} {rest longer : List Char} (follows : Follows (char :: rest) longer) :
    longer = char :: (rest ++ closing) := by
  rcases follows with same | ⟨impossible, -⟩
  · exact same
  · cases impossible

theorem nil {longer : List Char} (follows : Follows [] longer) : longer = closing ∨ longer = [] :=
  follows.imp_right And.right

theorem length_le {text longer : List Char} (follows : Follows text longer) :
    text.length ≤ longer.length := by
  rcases follows with rfl | ⟨rfl, rfl⟩
  · exact (text.length_append).symm ▸ Nat.le_add_right _ _
  · exact Nat.le_refl _

theorem dropWhile {text longer : List Char} (follows : Follows text longer) {drop : Char → Bool}
    (stops : drop ')' = false) : Follows (text.dropWhile drop) (longer.dropWhile drop) := by
  rcases follows with rfl | ⟨rfl, rfl⟩
  · rw [List.dropWhile_append]
    split
    · next nothing =>
        rw [List.isEmpty_iff.mp nothing, closing, List.dropWhile_cons, stops]
        exact closed
    · exact append _
  · exact done

theorem skipBlanks (inComment : Bool) (text : List Char) :
    Follows (skipBlanks inComment text) (skipBlanks inComment (text ++ closing)) := by
  induction text generalizing inComment with
  | nil =>
      cases inComment
      · exact closed
      · exact done
  | cons char rest ih =>
      simp only [List.cons_append, Pattern.skipBlanks]
      repeat' split
      · exact ih _
      · exact ih _
      · exact ih _
      · exact append (char :: rest)

theorem skip {text longer : List Char} (follows : Follows text longer) (ignore : Bool) :
    Follows (skip ignore text) (skip ignore longer) := by
  rcases follows with rfl | ⟨rfl, rfl⟩
  · cases ignore
    · exact append text
    · exact skipBlanks false text
  · cases ignore <;> exact done

end Follows

/-! ## Readers that find the same -/

/-- What is read off a bare text is read off the longer one too, into a value that may depend on it,
and the rests correspond. -/
def Carries {α β : Type} (into : α → β) (read : Except Fault (α × List Char))
    (longer : Except Fault (β × List Char)) : Prop :=
  ∀ value rest, read = .ok (value, rest) →
    ∃ later, longer = .ok (into value, later) ∧ Follows rest later

/-- The longer text is read as the bare one is; and if only the longer one can be read, then what is
read of it is as told. -/
structure Tracks {α β : Type} (into : α → β) (beyond : β → List Char → Prop)
    (read : Except Fault (α × List Char)) (longer : Except Fault (β × List Char)) : Prop where
  carries : Carries into read longer
  strays : ∀ fault value later, read = .error fault → longer = .ok (value, later) →
    beyond value later

/-- Neither text can be read, or both. -/
def Never {β : Type} (_ : β) (_ : List Char) : Prop := False

/-- The closing parenthesis has been taken for a part of the text. -/
def Spent {β : Type} (_ : β) (later : List Char) : Prop := later = ['$']

section Tracking

variable {α β γ : Type} {into : α → β} {beyond : β → List Char → Prop}

theorem tracks_ok {value : α} {rest later : List Char} (follows : Follows rest later) :
    Tracks into beyond (.ok (value, rest)) (.ok (into value, later)) := by
  constructor
  · rintro _ _ ⟨⟩
    exact ⟨later, rfl, follows⟩
  · exact fun _ _ _ impossible => nomatch impossible

theorem tracks_error (fault other : Fault) :
    Tracks (α := α) into beyond (.error fault) (.error other) := by
  constructor
  · exact fun _ _ impossible => nomatch impossible
  · exact fun _ _ _ _ impossible => nomatch impossible

theorem tracks_beyond {value : β} {later : List Char} (fault : Fault)
    (holds : beyond value later) :
    Tracks (α := α) into beyond (.error fault) (.ok (value, later)) := by
  constructor
  · exact fun _ _ impossible => nomatch impossible
  · rintro _ _ _ - ⟨⟩
    exact holds

theorem tracks_of_fails {read : Except Fault (α × List Char)}
    {longer : Except Fault (β × List Char)} (fails : ∃ fault, read = .error fault)
    (failsLonger : ∃ fault, longer = .error fault) : Tracks into beyond read longer := by
  obtain ⟨fault, rfl⟩ := fails
  obtain ⟨other, rfl⟩ := failsLonger
  exact tracks_error fault other

theorem tracks_of_first {first firstLonger : Except Fault γ}
    {next : γ → Except Fault (α × List Char)} {nextLonger : γ → Except Fault (β × List Char)}
    (fails : ∃ fault, first = .error fault) (failsLonger : ∃ fault, firstLonger = .error fault) :
    Tracks into beyond (first >>= next) (firstLonger >>= nextLonger) := by
  obtain ⟨fault, rfl⟩ := fails
  obtain ⟨other, rfl⟩ := failsLonger
  exact tracks_error fault other

theorem Tracks.mono {before : β → List Char → Prop} {read : Except Fault (α × List Char)}
    {longer : Except Fault (β × List Char)} (tracks : Tracks into before read longer)
    (weaker : ∀ value later, before value later → beyond value later) :
    Tracks into beyond read longer :=
  ⟨tracks.carries, fun fault value later failed reached =>
    weaker value later (tracks.strays fault value later failed reached)⟩

theorem Tracks.bind {before : γ → List Char → Prop} {read longer : Except Fault (γ × List Char)}
    {next : γ × List Char → Except Fault (α × List Char)}
    {nextLonger : γ × List Char → Except Fault (β × List Char)}
    (tracks : Tracks id before read longer)
    (after : ∀ value later, before value later → ∀ result rest,
      nextLonger (value, later) = .ok (result, rest) → beyond result rest)
    (goes : ∀ value rest later, read = .ok (value, rest) → Follows rest later →
      Tracks into beyond (next (value, rest)) (nextLonger (value, later))) :
    Tracks into beyond (read >>= next) (longer >>= nextLonger) := by
  cases read with
  | ok outcome =>
      obtain ⟨later, rfl, follows⟩ := tracks.carries outcome.1 outcome.2 rfl
      exact goes outcome.1 outcome.2 later rfl follows
  | error fault =>
      cases longer with
      | error other => exact tracks_error fault other
      | ok outcome =>
          have holds := tracks.strays fault outcome.1 outcome.2 rfl rfl
          constructor
          · exact fun _ _ impossible => nomatch impossible
          · exact fun _ result rest _ reached => after outcome.1 outcome.2 holds result rest reached

/-- A first part that is read of both texts or of none. -/
theorem Tracks.bind_never {read longer : Except Fault (γ × List Char)}
    {next : γ × List Char → Except Fault (α × List Char)}
    {nextLonger : γ × List Char → Except Fault (β × List Char)}
    (tracks : Tracks id Never read longer)
    (goes : ∀ value rest later, Follows rest later →
      Tracks into beyond (next (value, rest)) (nextLonger (value, later))) :
    Tracks into beyond (read >>= next) (longer >>= nextLonger) :=
  tracks.bind (fun _ _ impossible => impossible.elim)
    fun value rest later _ => goes value rest later

/-- A value that does not depend on the text. -/
theorem tracks_pure {made : Except Fault α} {madeLonger : Except Fault β}
    (same : madeLonger = made.map into) {rest later : List Char} (follows : Follows rest later) :
    Tracks into beyond (made >>= fun value => pure (value, rest))
      (madeLonger >>= fun value => pure (value, later)) := by
  subst same
  cases made with
  | error fault => exact tracks_error fault fault
  | ok value => exact tracks_ok follows

theorem tracks_value (made : Except Fault β) {rest later : List Char}
    (follows : Follows rest later) :
    Tracks id beyond (made >>= fun value => pure (value, rest))
      (made >>= fun value => pure (value, later)) :=
  tracks_pure (by cases made <;> rfl) follows

end Tracking

/-! ## Texts at the end -/

theorem skip_nil (ignore : Bool) : skip ignore [] = [] := by
  cases ignore <;> rfl

theorem skip_dollar (ignore : Bool) : skip ignore ['$'] = ['$'] := by
  cases ignore <;> rfl

theorem skip_closing (ignore : Bool) : skip ignore closing = closing := by
  cases ignore <;> rfl

theorem skip_brace (ignore : Bool) (text : List Char) :
    skip ignore ('{' :: text) = '{' :: text := by
  cases ignore <;> rfl

/-! ## Counts -/

section Parts

variable {ignore : Bool} {text longer : List Char}

theorem front_closing {keep : Char → Bool} (stops : keep ')' = false) (fuel : Nat) :
    front keep ignore fuel closing = ([], closing) := by
  cases fuel with
  | zero => rfl
  | succ fuel => simp [closing, front, stops]

/-- The same characters are found in front of the end, which is not kept. -/
theorem front_follow (ignore : Bool) {keep : Char → Bool} {fuel more : Nat}
    (stops : keep ')' = false) (enough : text.length ≤ fuel) (plenty : longer.length ≤ more)
    (follows : Follows text longer) :
    (front keep ignore more longer).1 = (front keep ignore fuel text).1 ∧
      Follows (front keep ignore fuel text).2 (front keep ignore more longer).2 := by
  induction fuel generalizing text longer more with
  | zero =>
      obtain rfl := List.length_eq_zero_iff.mp (Nat.le_zero.mp enough)
      rcases follows.nil with rfl | rfl
      · rw [front_closing stops]
        exact ⟨rfl, .closed⟩
      · cases more <;> exact ⟨rfl, .done⟩
  | succ fuel ih =>
      cases text with
      | nil =>
          rcases follows.nil with rfl | rfl
          · rw [front_closing stops]
            exact ⟨rfl, .closed⟩
          · cases more <;> exact ⟨rfl, .done⟩
      | cons char rest =>
          obtain rfl := follows.cons
          cases more with
          | zero => cases plenty
          | succ more =>
              rw [front, front]
              by_cases kept : keep char = true
              · obtain ⟨same, later⟩ := ih
                  (Nat.le_trans (skip_length ignore rest) (Nat.le_of_succ_le_succ enough))
                  (Nat.le_trans (skip_length ignore _) (Nat.le_of_succ_le_succ plenty))
                  ((Follows.append rest).skip ignore)
                rw [if_pos kept, if_pos kept]
                exact ⟨congrArg (char :: ·) same, later⟩
              · rw [if_neg kept, if_neg kept]
                exact ⟨rfl, .append (char :: rest)⟩

theorem digits_follow (ignore : Bool) {fuel more : Nat} (enough : text.length ≤ fuel)
    (plenty : longer.length ≤ more) (follows : Follows text longer) :
    (digits ignore more longer).1 = (digits ignore fuel text).1 ∧
      Follows (digits ignore fuel text).2 (digits ignore more longer).2 := by
  rw [digits_eq_front, digits_eq_front]
  exact front_follow ignore rfl enough plenty follows

theorem count?_tracks (follows : Follows text longer) :
    Tracks id Never (count? ignore text) (count? ignore longer) := by
  have stops : Text.isWhitespace ')' = false := rfl
  have blanks := follows.dropWhile stops
  obtain ⟨same, rest⟩ := digits_follow ignore
    ((List.dropWhile_sublist _).length_le) ((List.dropWhile_sublist _).length_le) blanks
  have skipped := (rest.dropWhile stops).skip ignore
  rw [count?, count?]
  simp only [same]
  split
  · cases ignore
    · exact tracks_ok (skipped.dropWhile stops)
    · exact tracks_ok skipped
  · split
    · cases ignore
      · exact tracks_ok (skipped.dropWhile stops)
      · exact tracks_ok skipped
    · exact tracks_error _ _

theorem count_tracks (follows : Follows text longer) :
    Tracks id Never (count ignore text) (count ignore longer) := by
  refine (count?_tracks follows).bind_never fun value rest later follows => ?_
  cases value with
  | none => exact tracks_error _ _
  | some value => exact tracks_ok follows

/-- There is no count at the end. -/
theorem count_end (ignore : Bool) (follows : Follows [] longer) :
    ∃ fault, count ignore longer = .error fault := by
  rcases follows.nil with rfl | rfl <;> cases ignore <;> exact ⟨_, rfl⟩

theorem bounds_end (ending : Follows [] (skip ignore longer)) :
    ∃ fault, bounds ignore longer = .error fault := by
  unfold bounds
  dsimp only
  rcases ending.nil with same | same
  · have filled : ¬ closing.isEmpty = true := by decide
    obtain ⟨fault, fails⟩ := count_end ignore .closed
    rw [same, if_neg filled]
    exact ⟨fault, bind_error fails _⟩
  · rw [same]
    exact ⟨_, rfl⟩

/-- The last count, up to the closing brace. -/
theorem most_tracks (least : Nat) (follows : Follows text longer) :
    Tracks id Never
      (do
        let (most, rest) ← count ignore text
        match rest with
        | '}' :: rest =>
            if least ≤ most then return ((least, some most), rest) else .error .repetitionCount
        | _ => .error .repetitionCount)
      (do
        let (most, rest) ← count ignore longer
        match rest with
        | '}' :: rest =>
            if least ≤ most then return ((least, some most), rest) else .error .repetitionCount
        | _ => .error .repetitionCount) := by
  refine (count_tracks follows).bind_never fun most rest later follows => ?_
  cases rest with
  | nil => rcases follows.nil with rfl | rfl <;> exact tracks_error _ _
  | cons char rest =>
      obtain rfl := follows.cons
      by_cases close : char = '}'
      · subst close
        simp only
        split
        · exact tracks_ok (.append rest)
        · exact tracks_error _ _
      · simp only [List.cons.injEq, close, false_and, imp_self, implies_true]
        exact tracks_error _ _

theorem bounds_tracks (follows : Follows text longer) :
    Tracks id Never (bounds ignore text) (bounds ignore longer) := by
  have skipped := follows.skip ignore
  cases inside : skip ignore text with
  | nil =>
      rw [inside] at skipped
      exact tracks_of_fails (bounds_end (inside ▸ .done)) (bounds_end skipped)
  | cons char rest =>
      rw [inside] at skipped
      unfold bounds
      dsimp only
      rw [inside, skipped.cons]
      refine (count_tracks (.append (char :: rest))).bind_never fun least rest later follows => ?_
      cases rest with
      | nil => rcases follows.nil with rfl | rfl <;> exact tracks_error _ _
      | cons char rest =>
          obtain rfl := follows.cons
          by_cases close : char = '}'
          · subst close
            exact tracks_ok (.append rest)
          · by_cases comma : char = ','
            · subst comma
              have further := (Follows.append rest).skip ignore
              simp only
              cases beyond : skip ignore rest with
              | nil =>
                  rw [beyond] at further
                  have nothing := count_end ignore .done
                  rcases further.nil with same | same
                  · rw [same]
                    exact tracks_of_first nothing (count_end ignore .closed)
                  · rw [same]
                    exact tracks_of_first nothing nothing
              | cons char rest =>
                  rw [beyond] at further
                  rw [further.cons]
                  by_cases close : char = '}'
                  · subst close
                    exact tracks_ok (.append rest)
                  · simp only [List.cons.injEq, close, false_and, imp_self, implies_true]
                    exact most_tracks least (.append (char :: rest))
            · simp only [List.cons.injEq, close, comma, false_and, imp_self, implies_true]
              exact tracks_error _ _

/-! ## Escapes -/

theorem fixedHex_tracks (width value : Nat) (follows : Follows text longer) :
    Tracks id Never (fixedHex ignore width value text) (fixedHex ignore width value longer) := by
  induction width generalizing value text longer with
  | zero => exact tracks_ok follows
  | succ width ih =>
      cases text with
      | nil => rcases follows.nil with rfl | rfl <;> exact tracks_error _ _
      | cons char rest =>
          obtain rfl := follows.cons
          rw [fixedHex, fixedHex]
          split
          · exact tracks_error _ _
          · exact ih _ ((Follows.append rest).skip ignore)

/-- No brace closes what the end follows. -/
theorem bracedHex_end (fuel : Nat) (value : Option Nat) (follows : Follows [] longer) :
    ∃ fault, bracedHex ignore fuel value longer = .error fault := by
  rcases follows.nil with rfl | rfl <;> cases fuel <;> exact ⟨_, rfl⟩

theorem bracedHex_tracks {fuel more : Nat} (enough : text.length ≤ fuel) (plenty : fuel ≤ more)
    (value : Option Nat) (follows : Follows text longer) :
    Tracks id Never (bracedHex ignore fuel value text) (bracedHex ignore more value longer) := by
  induction fuel generalizing value text longer more with
  | zero =>
      obtain rfl := List.length_eq_zero_iff.mp (Nat.le_zero.mp enough)
      exact tracks_of_fails (bracedHex_end 0 value .done) (bracedHex_end more value follows)
  | succ fuel ih =>
      cases text with
      | nil =>
          exact tracks_of_fails (bracedHex_end _ value .done) (bracedHex_end more value follows)
      | cons char rest =>
          obtain rfl := follows.cons
          obtain ⟨more, rfl⟩ := Nat.exists_eq_add_of_lt (Nat.lt_of_succ_le plenty)
          have fewer : (skip ignore rest).length ≤ fuel := skip_le (Nat.le_of_succ_le_succ enough)
          have skipped := (Follows.append rest).skip ignore
          by_cases close : char = '}'
          · subst close
            cases value with
            | none => exact tracks_error _ _
            | some value => exact tracks_ok skipped
          · rw [bracedHex, bracedHex]
            · split
              · exact tracks_error _ _
              · exact ih fewer (Nat.le_add_right fuel more) _ skipped
            · exact close
            · exact close

/-- A code point is a character or not, whatever comes behind it. -/
theorem charOf_tracks (code : Nat) (byte : Bool) (follows : Follows text longer) :
    Tracks id Never
      (match charOf? code with
        | none => .error .escape
        | some char => .ok (Construct.literal ⟨char, byte⟩, text))
      (match charOf? code with
        | none => .error .escape
        | some char => .ok (Construct.literal ⟨char, byte⟩, longer)) := by
  cases charOf? code with
  | none => exact tracks_error _ _
  | some char => exact tracks_ok follows

/-- The literal of a character with a fixed number of digits. -/
theorem fixedLiteral_tracks (width : Nat) (byte : Bool) (follows : Follows text longer) :
    Tracks id Never
      (do
        let (code, rest) ← fixedHex ignore width 0 text
        match charOf? code with
        | none => .error .escape
        | some char => return (Construct.literal ⟨char, byte⟩, rest))
      (do
        let (code, rest) ← fixedHex ignore width 0 longer
        match charOf? code with
        | none => .error .escape
        | some char => return (Construct.literal ⟨char, byte⟩, rest)) :=
  (fixedHex_tracks width 0 follows).bind_never fun code _ _ follows =>
    charOf_tracks code byte follows

theorem hexLiteral_end (kind : Char) (ending : Follows [] (skip ignore longer)) :
    ∃ fault, hexLiteral ignore kind longer = .error fault := by
  unfold hexLiteral
  dsimp only
  rcases ending.nil with same | same
  · rw [same]
    by_cases short : kind = 'x'
    · subst short
      exact ⟨_, rfl⟩
    · by_cases medium : kind = 'u'
      · subst medium
        exact ⟨_, rfl⟩
      · simp only [short, medium, if_false]
        exact ⟨_, rfl⟩
  · rw [same]
    exact ⟨_, rfl⟩

theorem hexLiteral_tracks (kind : Char) (follows : Follows text longer) :
    Tracks id Never (hexLiteral ignore kind text) (hexLiteral ignore kind longer) := by
  have skipped := follows.skip ignore
  cases inside : skip ignore text with
  | nil =>
      rw [inside] at skipped
      exact tracks_of_fails (hexLiteral_end kind (inside ▸ .done)) (hexLiteral_end kind skipped)
  | cons char rest =>
      rw [inside] at skipped
      have short : (char :: rest).length ≤ text.length := inside ▸ skip_length ignore text
      have begins := skipped.cons
      unfold hexLiteral
      dsimp only
      rw [inside, begins]
      rw [begins] at skipped
      by_cases brace : char = '{'
      · subst brace
        have fewer : (skip ignore rest).length ≤ text.length := skip_le (Nat.le_of_succ_le short)
        exact (bracedHex_tracks fewer follows.length_le none
          ((Follows.append rest).skip ignore)).bind_never
          fun code _ _ follows => charOf_tracks code false follows
      · simp only [List.cons.injEq, brace, false_and, imp_self, implies_true]
        repeat' split
        · exact fixedLiteral_tracks 2 true skipped
        · exact fixedLiteral_tracks 4 false skipped
        · exact fixedLiteral_tracks 8 false skipped

/-- No brace closes what the end follows. -/
theorem braced_end (fuel : Nat) (follows : Follows [] longer) :
    ∃ fault, braced ignore fuel longer = .error fault := by
  rcases follows.nil with rfl | rfl
  · match fuel with
    | 0 => exact ⟨_, rfl⟩
    | 1 => cases ignore <;> exact ⟨_, rfl⟩
    | 2 => cases ignore <;> exact ⟨_, rfl⟩
    | _ + 3 => cases ignore <;> exact ⟨_, rfl⟩
  · cases fuel <;> exact ⟨_, rfl⟩

theorem braced_tracks {fuel more : Nat} (enough : text.length ≤ fuel) (plenty : fuel ≤ more)
    (follows : Follows text longer) :
    Tracks id Never (braced ignore fuel text) (braced ignore more longer) := by
  induction fuel generalizing text longer more with
  | zero =>
      obtain rfl := List.length_eq_zero_iff.mp (Nat.le_zero.mp enough)
      exact tracks_of_fails (braced_end 0 .done) (braced_end more follows)
  | succ fuel ih =>
      cases text with
      | nil => exact tracks_of_fails (braced_end _ .done) (braced_end more follows)
      | cons char rest =>
          obtain rfl := follows.cons
          obtain ⟨more, rfl⟩ := Nat.exists_eq_add_of_lt (Nat.lt_of_succ_le plenty)
          have fewer : (skip ignore rest).length ≤ fuel := skip_le (Nat.le_of_succ_le_succ enough)
          by_cases close : char = '}'
          · subst close
            exact tracks_ok (.append rest)
          · rw [braced, braced]
            · exact (ih fewer (Nat.le_add_right fuel more)
                ((Follows.append rest).skip ignore)).bind_never
                fun _ _ _ follows => tracks_ok follows
            · exact close
            · exact close

theorem propertyClass_tracks (negated : Bool) (follows : Follows text longer) :
    Tracks id Spent (propertyClass ignore negated text) (propertyClass ignore negated longer) := by
  have skipped := follows.skip ignore
  unfold propertyClass
  cases inside : skip ignore text with
  | nil =>
      rw [inside] at skipped
      rcases skipped.nil with same | same
      · rw [same]
        -- the parenthesis is taken for the letter of a property
        exact tracks_beyond _ (skip_dollar ignore)
      · rw [same]
        exact tracks_error _ _
  | cons char rest =>
      rw [inside] at skipped
      have short : (char :: rest).length ≤ text.length := inside ▸ skip_length ignore text
      rw [skipped.cons]
      have after := (Follows.append rest).skip ignore
      by_cases brace : char = '{'
      · subst brace
        have fewer : (skip ignore rest).length ≤ text.length := skip_le (Nat.le_of_succ_le short)
        exact (braced_tracks fewer follows.length_le after).bind_never
          fun _ _ _ follows => tracks_ok follows
      · by_cases slash : char = '\\'
        · subst slash
          exact tracks_error _ _
        · simp only
          exact tracks_ok after

theorem boundaryName_follow (ignore : Bool) {fuel more : Nat} (enough : text.length ≤ fuel)
    (plenty : longer.length ≤ more) (follows : Follows text longer) :
    (boundaryName ignore more longer).1 = (boundaryName ignore fuel text).1 ∧
      Follows (boundaryName ignore fuel text).2 (boundaryName ignore more longer).2 := by
  rw [boundaryName_eq_front, boundaryName_eq_front]
  exact front_follow ignore rfl enough plenty follows

/-- A boundary that a brace follows, with nothing but blanks before the end of the text. -/
def Dangles (ignore : Bool) (later : List Char) : Prop :=
  ∃ blanks, later = '{' :: (blanks ++ closing) ∧ skip ignore blanks = []

theorem wordBoundary_tracks (follows : Follows text longer) :
    Tracks id (fun place later => place = .wordBoundary ∧ Dangles ignore later)
      (wordBoundary ignore text) (wordBoundary ignore longer) := by
  cases text with
  | nil =>
      rcases follows.nil with rfl | rfl
      · exact tracks_ok .closed
      · exact tracks_ok .done
  | cons char rest =>
      obtain rfl := follows.cons
      by_cases brace : char = '{'
      · subst brace
        have skipped := (Follows.append rest).skip ignore
        simp only [wordBoundary]
        cases inside : skip ignore rest with
        | nil =>
            rw [inside] at skipped
            rcases skipped.nil with same | same
            · rw [same]
              exact tracks_beyond _ ⟨rfl, rest, rfl, inside⟩
            · rw [same]
              exact tracks_error _ _
        | cons first more =>
            rw [inside] at skipped
            rw [skipped.cons]
            dsimp only
            split
            · obtain ⟨same, later⟩ := boundaryName_follow ignore
                (Nat.le_refl (first :: more).length) (Nat.le_refl _) (.append (first :: more))
              rw [List.cons_append] at same later
              generalize boundaryName ignore (first :: (more ++ closing)).length
                (first :: (more ++ closing)) = long at same later ⊢
              generalize boundaryName ignore (first :: more).length (first :: more) = short
                at same later ⊢
              obtain ⟨name, rest⟩ := short
              obtain ⟨other, restLonger⟩ := long
              obtain rfl : other = name := same
              cases rest with
              | nil =>
                  have later : Follows [] restLonger := later
                  rcases later.nil with rfl | rfl <;> exact tracks_error _ _
              | cons char rest =>
                  obtain rfl : restLonger = char :: (rest ++ closing) := Follows.cons later
                  by_cases close : char = '}'
                  · subst close
                    simp only
                    generalize String.ofList other = word
                    split
                    · exact tracks_ok (.append rest)
                    · exact tracks_ok (.append rest)
                    · exact tracks_ok (.append rest)
                    · exact tracks_ok (.append rest)
                    · exact tracks_error _ _
                  · simp only [Prod.mk.injEq, List.cons.injEq, close, false_and, and_false,
                      imp_self, implies_true]
                    exact tracks_error _ _
            · exact tracks_ok (.append ('{' :: rest))
      · simp only [wordBoundary, List.cons.injEq, brace, false_and, imp_self, implies_true]
        exact tracks_ok (.append (char :: rest))

/-- The closing parenthesis has been taken for an escaped character, or a boundary is left with an
open brace. -/
def Misread (ignore : Bool) (unit : Construct) (later : List Char) : Prop :=
  later = ['$'] ∨ unit = .assertion .wordBoundary ∧ Dangles ignore later

theorem escaped_tracks (follows : Follows text longer) :
    Tracks id (Misread ignore) (escaped ignore text) (escaped ignore longer) := by
  cases text with
  | nil =>
      rcases follows.nil with rfl | rfl
      · exact tracks_beyond _ (.inl rfl)
      · exact tracks_error _ _
  | cons char rest =>
      obtain rfl := follows.cons
      have after := Follows.append rest
      have dangling : ∀ place later, place = .wordBoundary ∧ Dangles ignore later →
          ∀ unit rest, (.ok (.assertion place, later) : Except Fault _) = .ok (unit, rest) →
            Misread ignore unit rest := by
        rintro _ later ⟨rfl, dangles⟩ _ _ ⟨⟩
        exact .inr ⟨rfl, dangles⟩
      unfold escaped
      dsimp only
      repeat' split
      all_goals first
        | exact tracks_error _ _
        | exact tracks_ok after
        | exact (hexLiteral_tracks _ after).mono fun _ _ impossible => impossible.elim
        | exact (propertyClass_tracks _ after).mono fun _ _ spent => .inl spent
        | exact (wordBoundary_tracks after).bind dangling fun _ _ _ _ follows => tracks_ok follows

end Parts

end SeriesIndex.Pattern
