import SeriesIndex.Proofs.Pattern.Classes
import SeriesIndex.Proofs.Pattern.Shape

/-!
# Anchored patterns

The pattern of an anchored text is that of the bare text between the start and the end of a value:
what has been read of the bare text is, inside of the group, what has been read one level further
in. So whatever the shape of the bare text tells holds for each value that the pattern accepts.

A text that is no pattern is none between the start and the end of a value either, for any reason
but one: a closing parenthesis that opens nothing closes the group that the text has been put in.
-/

namespace SeriesIndex.Pattern

/-! ## Groups -/

section Groups

variable {text longer : List Char}

theorem flags_tracks (change : FlagChange) (negated dangling : Bool)
    (follows : Follows text longer) :
    Tracks id (fun found later => found.2 = ')' ∧ later = ['$'])
      (flags change negated dangling text) (flags change negated dangling longer) := by
  induction text generalizing change negated dangling longer with
  | nil =>
      rcases follows.nil with rfl | rfl
      · cases dangling
        · exact tracks_beyond _ ⟨rfl, rfl⟩
        · exact tracks_error _ _
      · exact tracks_error _ _
  | cons char rest ih =>
      obtain rfl := follows.cons
      rw [flags, flags]
      repeat' split
      · exact tracks_error _ _
      · exact tracks_ok (.append rest)
      · exact tracks_error _ _
      · exact ih _ _ _ (.append rest)
      · exact tracks_error _ _
      · exact ih _ _ _ (.append rest)

/-- No name goes on past the end. -/
theorem groupName_end (first : Bool) (follows : Follows [] longer) :
    ∃ fault, groupName first longer = .error fault := by
  rcases follows.nil with rfl | rfl
  · have stops : isNameChar first ')' = false := by cases first <;> decide +kernel
    exact ⟨.groupName, by simp [closing, groupName, stops]⟩
  · exact ⟨_, rfl⟩

theorem groupName_tracks (first : Bool) (follows : Follows text longer) :
    Tracks id Never (groupName first text) (groupName first longer) := by
  induction text generalizing first longer with
  | nil => exact tracks_of_fails ⟨_, rfl⟩ (groupName_end first follows)
  | cons char rest ih =>
      obtain rfl := follows.cons
      rw [groupName, groupName]
      repeat' split
      · exact tracks_error _ _
      · exact tracks_ok (.append rest)
      · exact (ih false (.append rest)).bind_never fun _ _ _ follows => tracks_ok follows
      · exact tracks_error _ _

end Groups

/-! ## One level further in -/

/-- What stands in front of the group of an anchored text. -/
def Level.anchor : Level := ⟨.plain .none, [], [.assertion .lineStart], false⟩

namespace Progress

/-- What has been read of a bare text, read inside of the group of an anchored one. -/
def within (progress : Progress) : Progress :=
  { progress with outer := progress.outer ++ [.anchor] }

variable {progress next : Progress} {text longer : List Char}

theorem within_outer (progress : Progress) : progress.within.outer ≠ [] := by
  simp [within]

theorem leave_within (encloses : progress.outer ≠ []) :
    progress.within.leave = progress.leave.map within := by
  obtain ⟨level, outer, same⟩ := List.exists_cons_of_ne_nil encloses
  simp only [leave, within, same]
  rfl

theorem capture_within (name : Option String) :
    progress.within.capture name = (progress.capture name).map within := by
  cases name with
  | none => rfl
  | some name =>
      simp only [capture]
      rw [show progress.within.names = progress.names from rfl]
      split <;> rfl

theorem repeatLast_within (counts : Counts) :
    progress.within.repeatLast counts = (progress.repeatLast counts).map within := by
  unfold repeatLast
  rw [show progress.within.parts = progress.parts from rfl]
  split <;> rfl

theorem repetition_tracks (least : Nat) (most : Option Nat) (follows : Follows text longer) :
    Tracks within Never (progress.repetition least most text)
      (progress.within.repetition least most longer) := by
  cases text with
  | nil =>
      rcases follows.nil with rfl | rfl
      · exact tracks_pure (repeatLast_within _) .closed
      · exact tracks_pure (repeatLast_within _) .done
  | cons char rest =>
      obtain rfl := follows.cons
      by_cases fewer : char = '?'
      · subst fewer
        exact tracks_pure (repeatLast_within _) (.append rest)
      · simp only [repetition, List.cons.injEq, fewer, false_and, imp_self, implies_true]
        exact tracks_pure (repeatLast_within _) (.append (char :: rest))

/-- A group is left open that nothing can close: only the mark of the end is left of the text, or a
brace that no count follows. -/
def Lost (progress : Progress) (later : List Char) : Prop :=
  progress.outer ≠ [] ∧ (later = ['$'] ∨ Dangles progress.ignoring later)

theorem openNamed_tracks (follows : Follows text longer) :
    Tracks within Never (progress.openNamed text) (progress.within.openNamed longer) :=
  (groupName_tracks true follows).bind_never fun _ _ _ follows =>
    tracks_pure (capture_within _) follows

/-- A question mark at the end says nothing about a group. -/
theorem openFlagged_end (follows : Follows [] longer) :
    ∃ fault, progress.openFlagged longer = .error fault := by
  rcases follows.nil with rfl | rfl <;> exact ⟨_, rfl⟩

theorem openFlagged_tracks (char : Char) (rest : List Char) :
    Tracks within Lost (progress.openFlagged (char :: rest))
      (progress.within.openFlagged (char :: rest ++ closing)) := by
  refine (flags_tracks .none false false (.append (char :: rest))).bind ?_
    fun found behind later _ follows => ?_
  · rintro ⟨change, _⟩ _ ⟨rfl, rfl⟩ next later read
    simp only at read
    split at read
    · cases read
    · cases read
      exact ⟨progress.within_outer, .inl rfl⟩
  · obtain ⟨change, stop⟩ := found
    by_cases directive : stop = ')'
    · subst directive
      show Tracks within Lost (if (char :: rest).head? = some ')' then _ else _)
        (if (char :: rest ++ closing).head? = some ')' then _ else _)
      by_cases nothing : (char :: rest).head? = some ')'
      · have longer : (char :: rest ++ closing).head? = some ')' := nothing
        rw [if_pos nothing, if_pos longer]
        exact tracks_error _ _
      · have longer : ¬ (char :: rest ++ closing).head? = some ')' := nothing
        rw [if_neg nothing, if_neg longer]
        exact tracks_ok follows
    · simp only
      exact tracks_ok follows

theorem openGroup_tracks (follows : Follows text longer) :
    Tracks within Lost (progress.openGroup text) (progress.within.openGroup longer) := by
  have skipped := follows.skip progress.ignoring
  unfold openGroup
  rw [show progress.within.ignoring = progress.ignoring from rfl]
  dsimp only
  cases inside : skip progress.ignoring text with
  | nil =>
      rw [inside] at skipped
      rcases skipped.nil with same | same
      · rw [same]
        exact tracks_pure (capture_within none) .closed
      · rw [same]
        exact tracks_pure (capture_within none) .done
  | cons mark rest =>
      rw [inside] at skipped
      rw [skipped.cons]
      have named_ : ∀ {text longer : List Char}, Follows text longer →
          Tracks within Lost (progress.openNamed text) (progress.within.openNamed longer) :=
        fun follows => (openNamed_tracks follows).mono fun _ _ impossible => impossible.elim
      by_cases question : mark = '?'
      · subst question
        -- what the group is shows in the two characters behind the mark
        cases rest with
        | nil =>
            have open_ := @openFlagged_end progress.within _ .closed
            exact tracks_of_fails (@openFlagged_end progress _ .done) open_
        | cons char rest =>
            by_cases ahead : char = '='
            · subst ahead
              exact tracks_error _ _
            · by_cases aheadNot : char = '!'
              · subst aheadNot
                exact tracks_error _ _
              · by_cases angle : char = '<'
                · subst angle
                  cases rest with
                  | nil => exact named_ .closed
                  | cons char rest =>
                      by_cases behind : char = '='
                      · subst behind
                        exact tracks_error _ _
                      · by_cases behindNot : char = '!'
                        · subst behindNot
                          exact tracks_error _ _
                        · simp only [List.cons_append, List.cons.injEq, behind, behindNot,
                            false_and, imp_self, implies_true]
                          exact named_ (.append (char :: rest))
                · by_cases letter : char = 'P'
                  · subst letter
                    cases rest with
                    | nil => exact openFlagged_tracks 'P' []
                    | cons char rest =>
                        by_cases angle : char = '<'
                        · subst angle
                          exact named_ (.append rest)
                        · simp only [Char.reduceEq, List.cons_append, List.cons.injEq, angle,
                            false_and, and_false, imp_self, implies_true]
                          exact openFlagged_tracks 'P' (char :: rest)
                  · simp only [List.cons_append, List.cons.injEq, ahead, aheadNot, angle,
                      letter, false_and, imp_self, implies_true]
                    exact openFlagged_tracks char rest
      · simp only [List.cons.injEq, question, false_and, imp_self, implies_true]
        exact tracks_pure (capture_within none) (.append (mark :: rest))

theorem pushConstruct_within (progress : Progress) (unit : Construct) :
    progress.within.pushConstruct unit = (progress.pushConstruct unit).within := by
  cases unit <;> rfl

/-- Inside of the group a construct is read as outside of it; or it takes the closing parenthesis,
and leaves a group open for good. -/
theorem step_tracks (char : Char) (encloses : char = ')' → progress.outer ≠ [])
    (follows : Follows text longer) :
    Tracks within Lost (progress.step char text) (progress.within.step char longer) := by
  have never : ∀ {next : Progress} {later : List Char}, Never next later → Lost next later :=
    fun impossible => impossible.elim
  unfold step
  rw [show progress.within.ignoring = progress.ignoring from rfl,
    show progress.within.parts = progress.parts from rfl]
  split
  · exact openGroup_tracks follows
  · exact tracks_pure (leave_within (encloses rfl)) follows
  · exact tracks_ok follows
  · exact (bracketedClass_tracks follows).bind_never fun _ _ _ follows => tracks_ok follows
  · exact (repetition_tracks 0 (some 1) follows).mono fun _ _ => never
  · exact (repetition_tracks 0 none follows).mono fun _ _ => never
  · exact (repetition_tracks 1 none follows).mono fun _ _ => never
  · dsimp only
    split
    · exact tracks_error _ _
    · refine (bounds_tracks follows).bind_never fun counts rest later follows => ?_
      exact (repetition_tracks _ _ (follows.skip _)).mono fun _ _ => never
  · refine (escaped_tracks follows).bind ?_ fun unit rest later _ follows => ?_
    · rintro unit later misread next rest read
      cases read
      have outer : (progress.within.pushConstruct unit).outer = progress.within.outer := by
        cases unit <;> rfl
      refine ⟨outer ▸ progress.within_outer, ?_⟩
      rcases misread with rfl | ⟨rfl, dangles⟩
      · exact .inl rfl
      · exact .inr dangles
    · dsimp only
      rw [pushConstruct_within]
      exact tracks_ok follows
  · exact tracks_ok follows
  · exact tracks_ok follows
  · exact tracks_ok follows
  · exact tracks_ok follows

/-- A parenthesis outside of all groups opens nothing. -/
theorem step_outermost (outermost : progress.outer = []) :
    progress.step ')' text = .error .unopenedGroup := by
  have left : progress.leave = .error .unopenedGroup := by simp only [leave, outermost]
  exact bind_error left _

end Progress

/-! ## Whole texts -/

/-- A pattern in a group between the start and the end of a line. -/
def Written.anchored (written : Written) : Written :=
  .concat [.assertion .lineStart, .group (.plain .none) written, .assertion .lineEnd]

namespace Progress

variable {progress : Progress} {text longer : List Char}

theorem finish_open (fuel : Nat) (encloses : progress.outer ≠ [])
    (ending : skip progress.ignoring text = []) :
    ∃ fault, finish fuel progress text = .error fault := by
  cases fuel with
  | zero => exact ⟨_, rfl⟩
  | succ fuel =>
      have open_ : ¬ progress.outer.isEmpty = true := mt List.isEmpty_iff.mp encloses
      exact ⟨.unclosedGroup, by rw [finish, ending]; exact if_neg open_⟩

/-- A brace with nothing behind it is no repetition. -/
theorem step_brace_fails (ending : Follows [] (skip progress.ignoring text)) :
    ∃ fault, progress.step '{' text = .error fault := by
  obtain ⟨fault, fails⟩ := bounds_end ending
  simp only [step]
  split
  · exact ⟨_, rfl⟩
  · exact ⟨fault, bind_error fails _⟩

theorem finish_lost (fuel : Nat) (lost : progress.Lost text) :
    ∃ fault, finish fuel progress text = .error fault := by
  obtain ⟨encloses, left⟩ := lost
  cases fuel with
  | zero => exact ⟨_, rfl⟩
  | succ fuel =>
      rcases left with rfl | ⟨blanks, rfl, blank⟩
      · have pushed : (progress.push (.assertion .lineEnd)).outer ≠ [] := encloses
        rw [finish, skip_dollar]
        exact finish_open fuel pushed (skip_nil _)
      · have ending := (Follows.append blanks).skip progress.ignoring
        rw [blank] at ending
        obtain ⟨fault, stuck⟩ := step_brace_fails ending
        rw [finish, skip_brace]
        simp only [stuck]
        exact ⟨fault, rfl⟩

/-- At the end of a bare text with a group left open, the closing parenthesis closes another one
than that of the anchored text. -/
theorem finish_unclosed (fuel : Nat) (encloses : progress.outer ≠ [])
    (ending : skip progress.ignoring longer = closing ∨ skip progress.ignoring longer = []) :
    ∃ fault, finish fuel progress.within longer = .error fault := by
  cases fuel with
  | zero => exact ⟨_, rfl⟩
  | succ fuel =>
      rcases ending with same | same
      · obtain ⟨level, outer, levels⟩ := List.exists_cons_of_ne_nil encloses
        have left : ∃ next, progress.within.leave = .ok next ∧ next.outer = outer ++ [.anchor] := by
          simp only [leave, within, levels]
          exact ⟨_, rfl, rfl⟩
        obtain ⟨next, left, outers⟩ := left
        have lost : next.Lost ['$'] := ⟨by simp [outers], .inl rfl⟩
        have stepped : progress.within.step ')' ['$'] = .ok (next, ['$']) := by
          show (progress.within.leave >>= fun next => pure (next, ['$'])) = _
          rw [left]
          rfl
        rw [finish, show progress.within.ignoring = progress.ignoring from rfl, same, closing]
        simp only [stepped]
        exact finish_lost fuel lost
      · exact finish_open _ progress.within_outer same

/-- At the end of the bare text the group is closed, unless a comment has swallowed the rest. -/
theorem finish_closing {progress : Progress} {longer : List Char} (fuel : Nat)
    (outermost : progress.outer = [])
    (ending : skip progress.ignoring longer = closing ∨ skip progress.ignoring longer = []) :
    finish (fuel + 3) progress.within longer = .ok progress.body.anchored ∨
      finish (fuel + 3) progress.within longer = .error .unclosedGroup := by
  rw [finish, show progress.within.ignoring = progress.ignoring from rfl]
  rcases ending with same | same
  · refine .inl ?_
    have left : progress.within.leave =
        .ok ⟨[], [], [.group (.plain .none) progress.body, .assertion .lineStart], false,
          progress.captures, progress.names⟩ := by
      simp only [leave, within, outermost]
      rfl
    have stepped : progress.within.step ')' ['$'] =
        .ok (⟨[], [], [.group (.plain .none) progress.body, .assertion .lineStart], false,
          progress.captures, progress.names⟩, ['$']) := by
      show (progress.within.leave >>= fun next => pure (next, ['$'])) = _
      rw [left]
      rfl
    rw [same, closing]
    dsimp only
    rw [stepped]
    rfl
  · refine .inr ?_
    rw [same]
    simp [within]

/-- A text is read in the same way inside of the group, and what cannot be read of it cannot be read
there, unless a parenthesis opens nothing. -/
theorem finish_within {fuel more : Nat} (enough : text.length < fuel) (plenty : fuel + 2 ≤ more)
    (follows : Follows text longer) :
    (∀ written, finish fuel progress text = .ok written →
      finish more progress.within longer = .ok written.anchored ∨
        finish more progress.within longer = .error .unclosedGroup) ∧
      ∀ fault, finish fuel progress text = .error fault → fault ≠ .unopenedGroup →
        ∃ other, finish more progress.within longer = .error other := by
  induction fuel generalizing progress text longer more with
  | zero => cases enough
  | succ fuel ih =>
      have skipped := follows.skip progress.ignoring
      have short : (skip progress.ignoring text).length ≤ fuel :=
        skip_le (Nat.le_of_lt_succ enough)
      obtain ⟨more, rfl⟩ : ∃ spare, more = spare + 3 := ⟨more - 3, by omega⟩
      rw [finish]
      cases inside : skip progress.ignoring text with
      | nil =>
          rw [inside] at skipped
          dsimp only
          split
          · next outermost =>
              have closed := finish_closing more (List.isEmpty_iff.mp outermost) skipped.nil
              constructor
              · rintro _ ⟨⟩
                exact closed
              · rintro _ ⟨⟩
          · next open_ =>
              have fails := finish_unclosed (more + 3) (mt List.isEmpty_iff.mpr open_) skipped.nil
              constructor
              · rintro _ ⟨⟩
              · exact fun _ _ _ => fails
      | cons char rest =>
          rw [inside] at skipped short
          have behind : rest.length < fuel := short
          rw [finish, show progress.within.ignoring = progress.ignoring from rfl, skipped.cons]
          dsimp only
          by_cases outermost : char = ')' ∧ progress.outer = []
          · -- the one fault that the group hides
            obtain ⟨rfl, outermost⟩ := outermost
            rw [step_outermost outermost]
            constructor
            · rintro _ ⟨⟩
            · rintro _ ⟨⟩ opened
              exact absurd rfl opened
          · have tracks := step_tracks char (fun close outer => outermost ⟨close, outer⟩)
              (.append rest)
            cases stepped : progress.step char rest with
            | ok outcome =>
                obtain ⟨later, same, follows⟩ := tracks.carries outcome.1 outcome.2 stepped
                have fewer := step_leaves char (Nat.le_refl _) outcome.1 outcome.2 stepped
                rw [same]
                exact ih (Nat.lt_of_le_of_lt fewer behind) (by omega) follows
            | error fault =>
                constructor
                · rintro _ ⟨⟩
                · intro _ _ _
                  cases again : progress.within.step char (rest ++ closing) with
                  | error other => exact ⟨other, rfl⟩
                  | ok outcome =>
                      exact finish_lost _ (tracks.strays fault outcome.1 outcome.2 stepped again)

end Progress

theorem toList_anchored (text : String) :
    (anchored text).toList = '^' :: '(' :: '?' :: ':' :: (text.toList ++ closing) := by
  simp [anchored, closing]

/-- The start of the anchored text opens the group. -/
theorem finish_anchored (text : String) :
    (∀ written, Progress.finish (text.toList.length + 1) .start text.toList = .ok written →
      Progress.finish ((anchored text).toList.length + 1) .start (anchored text).toList =
          .ok written.anchored ∨
        Progress.finish ((anchored text).toList.length + 1) .start (anchored text).toList =
          .error .unclosedGroup) ∧
      ∀ fault, Progress.finish (text.toList.length + 1) .start text.toList = .error fault →
        fault ≠ .unopenedGroup → ∃ other, Progress.finish ((anchored text).toList.length + 1)
          .start (anchored text).toList = .error other := by
  have entered : Progress.finish ((anchored text).toList.length + 1) .start
      (anchored text).toList =
      Progress.finish ((text.toList ++ closing).length + 3) Progress.start.within
        (text.toList ++ closing) := by
    rw [toList_anchored]
    rfl
  have plenty : text.toList.length + 1 + 2 ≤ (text.toList ++ closing).length + 3 := by
    rw [List.length_append]
    omega
  rw [entered]
  exact Progress.finish_within (Nat.lt_succ_self _) plenty (.append text.toList)

/-- The pattern of an anchored text is that of the bare text in a group. -/
theorem parse_anchored {text : String} {written whole : Written}
    (bare : Written.parse text.toList = .ok written)
    (read : Written.parse (anchored text).toList = .ok whole) : whole = written.anchored := by
  obtain ⟨first, finished, bounded⟩ := bind_ok.mp bare
  obtain ⟨second, finishedWhole, boundedWhole⟩ := bind_ok.mp read
  obtain rfl : first = written := by
    split at bounded
    · cases bounded
    · exact Except.ok.inj bounded
  obtain rfl : second = whole := by
    split at boundedWhole
    · cases boundedWhole
    · exact Except.ok.inj boundedWhole
  rcases (finish_anchored text).1 first finished with same | same
  · rw [same] at finishedWhole
    exact (Except.ok.inj finishedWhole).symm
  · rw [same] at finishedWhole
    cases finishedWhole

theorem Written.depth_anchored (written : Written) : written.depth ≤ written.anchored.depth := by
  have inner : written.depth + 1 ≤ Written.depths
      [.assertion .lineStart, .group (.plain .none) written, .assertion .lineEnd] :=
    Nat.le_trans (Nat.le_max_left _ _) (Nat.le_max_right _ _)
  exact Nat.le_succ_of_le (Nat.le_of_succ_le inner)

/-- A text that is no pattern is none in a group either, unless a parenthesis opens nothing. -/
theorem parse_fails {text : String} {fault : Fault}
    (failed : Written.parse text.toList = .error fault) (opened : fault ≠ .unopenedGroup) :
    ∃ other, Written.parse (anchored text).toList = .error other := by
  unfold Written.parse at failed
  cases finished : Progress.finish (text.toList.length + 1) .start text.toList with
  | error stop =>
      rw [bind_error finished] at failed
      obtain rfl := Except.error.inj failed
      obtain ⟨other, fails⟩ := (finish_anchored text).2 stop finished opened
      exact ⟨other, bind_error fails _⟩
  | ok written =>
      rw [finished] at failed
      have deep : maxDepth < written.depth := by
        by_cases deep : maxDepth < written.depth
        · exact deep
        · cases (if_neg deep).symm.trans failed
      unfold Written.parse
      rcases (finish_anchored text).1 written finished with same | same
      · rw [same]
        exact ⟨.tooDeep, if_pos (Nat.lt_of_lt_of_le deep written.depth_anchored)⟩
      · exact ⟨_, bind_error same _⟩

/-! ## Meanings -/

section Meanings

variable {flags : Flags} {textOnly : Bool}

/-- What only text can match means the same where other bytes are allowed too. -/
theorem Flags.literal_ok {written : Literal} {expr : Expr}
    (read : flags.literal textOnly written = .ok expr) :
    flags.literal false written = .ok expr := by
  unfold Flags.literal at read ⊢
  split at read
  · split at read
    · cases read
    · exact read
  · exact read

theorem Flags.member_ok {written : Literal} {member : Nat}
    (read : flags.member textOnly written = .ok member) :
    flags.member false written = .ok member := by
  unfold Flags.member at read ⊢
  split at read
  · split at read
    · cases read
    · exact read
  · exact read

theorem Flags.perl_ok {class_ : PerlClass} {set : Unicode.CharSet}
    (read : flags.perl textOnly class_ = .ok set) : flags.perl false class_ = .ok set := by
  unfold Flags.perl at read ⊢
  dsimp only at read ⊢
  generalize (if class_.negated = true then _ else _) = found at read ⊢
  split at read
  · cases read
  · simpa using read

theorem Flags.bracketed_ok {negated : Bool} {inside set : Unicode.CharSet}
    (read : flags.bracketed textOnly negated inside = .ok set) :
    flags.bracketed false negated inside = .ok set := by
  unfold Flags.bracketed at read ⊢
  dsimp only at read ⊢
  split at read
  · cases read
  · simpa using read

theorem Flags.dot_ok {expr : Expr} (read : flags.dot textOnly = .ok expr) :
    flags.dot false = .ok expr := by
  unfold Flags.dot at read ⊢
  split at read
  · cases read
  · simpa using read

mutual

theorem ClassSet.members_ok {set : ClassSet} {members : Unicode.CharSet}
    (read : set.members flags textOnly = .ok members) :
    set.members flags false = .ok members := by
  cases set with
  | empty => exact read
  | literal written =>
      obtain ⟨member, here, same⟩ := bind_ok.mp read
      exact bind_ok.mpr ⟨member, Flags.member_ok here, same⟩
  | range first last =>
      obtain ⟨low, lowHere, rest⟩ := bind_ok.mp read
      obtain ⟨high, highHere, same⟩ := bind_ok.mp rest
      exact bind_ok.mpr ⟨low, Flags.member_ok lowHere,
        bind_ok.mpr ⟨high, Flags.member_ok highHere, same⟩⟩
  | ascii name negated => exact Flags.bracketed_ok read
  | property class_ => exact read
  | perl class_ => exact Flags.perl_ok read
  | bracketed negated set =>
      obtain ⟨inside, here, same⟩ := bind_ok.mp read
      exact bind_ok.mpr ⟨inside, ClassSet.members_ok here, Flags.bracketed_ok same⟩
  | union items =>
      obtain ⟨ranges, here, same⟩ := bind_ok.mp read
      exact bind_ok.mpr ⟨ranges, ClassSet.allMembers_ok here, same⟩
  | combined operation left right =>
      obtain ⟨first, firstHere, rest⟩ := bind_ok.mp read
      obtain ⟨second, secondHere, same⟩ := bind_ok.mp rest
      exact bind_ok.mpr ⟨first, ClassSet.members_ok firstHere,
        bind_ok.mpr ⟨second, ClassSet.members_ok secondHere, same⟩⟩

theorem ClassSet.allMembers_ok {sets : List ClassSet} {ranges : List Unicode.CharRange}
    (read : ClassSet.allMembers flags textOnly sets = .ok ranges) :
    ClassSet.allMembers flags false sets = .ok ranges := by
  cases sets with
  | nil => exact read
  | cons set rest =>
      obtain ⟨first, firstHere, more⟩ := bind_ok.mp read
      obtain ⟨others, othersHere, same⟩ := bind_ok.mp more
      exact bind_ok.mpr ⟨first, ClassSet.members_ok firstHere,
        bind_ok.mpr ⟨others, ClassSet.allMembers_ok othersHere, same⟩⟩

end

mutual

theorem Written.toExpr_ok {flags : Flags} {written : Written} {meaning : Expr × Flags}
    (read : written.toExpr textOnly flags = .ok meaning) :
    written.toExpr false flags = .ok meaning := by
  cases written with
  | empty => exact read
  | flags change => exact read
  | literal written =>
      obtain ⟨expr, here, same⟩ := bind_ok.mp read
      exact bind_ok.mpr ⟨expr, Flags.literal_ok here, same⟩
  | dot =>
      obtain ⟨expr, here, same⟩ := bind_ok.mp read
      exact bind_ok.mpr ⟨expr, Flags.dot_ok here, same⟩
  | assertion place => exact read
  | property class_ => exact read
  | perl class_ =>
      obtain ⟨set, here, same⟩ := bind_ok.mp read
      exact bind_ok.mpr ⟨set, Flags.perl_ok here, same⟩
  | bracketed negated set =>
      obtain ⟨inside, insideHere, rest⟩ := bind_ok.mp read
      obtain ⟨members, here, same⟩ := bind_ok.mp rest
      exact bind_ok.mpr ⟨inside, ClassSet.members_ok insideHere,
        bind_ok.mpr ⟨members, Flags.bracketed_ok here, same⟩⟩
  | repeated counts operand =>
      obtain ⟨meaning, here, same⟩ := bind_ok.mp read
      exact bind_ok.mpr ⟨meaning, Written.toExpr_ok here, same⟩
  | group kind body =>
      cases kind with
      | capture index name =>
          obtain ⟨meaning, here, same⟩ := bind_ok.mp read
          exact bind_ok.mpr ⟨meaning, Written.toExpr_ok here, same⟩
      | plain change =>
          obtain ⟨meaning, here, same⟩ := bind_ok.mp read
          exact bind_ok.mpr ⟨meaning, Written.toExpr_ok here, same⟩
  | concat parts =>
      obtain ⟨meanings, here, same⟩ := bind_ok.mp read
      exact bind_ok.mpr ⟨meanings, Written.toExprs_ok here, same⟩
  | alternation branches =>
      obtain ⟨meanings, here, same⟩ := bind_ok.mp read
      exact bind_ok.mpr ⟨meanings, Written.toExprs_ok here, same⟩

theorem Written.toExprs_ok {flags : Flags} {parts : List Written}
    {meanings : List Expr × Flags} (read : Written.toExprs textOnly flags parts = .ok meanings) :
    Written.toExprs false flags parts = .ok meanings := by
  cases parts with
  | nil => exact read
  | cons part rest =>
      obtain ⟨first, firstHere, more⟩ := bind_ok.mp read
      obtain ⟨others, othersHere, same⟩ := bind_ok.mp more
      exact bind_ok.mpr ⟨first, Written.toExpr_ok firstHere,
        bind_ok.mpr ⟨others, Written.toExprs_ok othersHere, same⟩⟩

end

theorem toExpr_anchored {written : Written} {meaning : Expr × Flags}
    (read : written.toExpr false .default = .ok meaning) :
    written.anchored.toExpr false .default = .ok (meaning.1.whole, .default) := by
  -- the flags of the text hold up to the end of its group
  have body : (Written.group (.plain .none) written).toExpr false .default =
      .ok (meaning.1, .default) := bind_ok.mpr ⟨meaning, read, rfl⟩
  have rest : Written.toExprs false .default
      [.group (.plain .none) written, .assertion .lineEnd] =
      .ok ([meaning.1, .look .textEnd], .default) :=
    bind_ok.mpr ⟨_, body, bind_ok.mpr ⟨([.look .textEnd], .default), rfl, rfl⟩⟩
  exact bind_ok.mpr ⟨_, bind_ok.mpr ⟨(.look .textStart, .default), rfl,
    bind_ok.mpr ⟨_, rest, rfl⟩⟩, rfl⟩

theorem toExpr_anchored_fails {written : Written} {fault : Fault}
    (failed : written.toExpr false .default = .error fault) :
    written.anchored.toExpr false .default = .error fault := by
  have body : (Written.group (.plain .none) written).toExpr false .default = .error fault :=
    bind_error failed _
  have rest : Written.toExprs false .default
      [.group (.plain .none) written, .assertion .lineEnd] = .error fault := bind_error body _
  have parts : Written.toExprs false .default
      [.assertion .lineStart, .group (.plain .none) written, .assertion .lineEnd] =
        .error fault := bind_error rest _
  exact bind_error parts _

end Meanings

/-- The expression of an anchored text is that of the bare text, if it has one, between the start
and the end of a value. -/
theorem Expr.parse_anchored {text : String} {textOnly : Bool} {bare whole : Expr}
    (read : Expr.parse textOnly text.toList = .ok bare)
    (compiled : Expr.parse false (anchored text).toList = .ok whole) : whole = bare.whole := by
  obtain ⟨written, readWritten, meant⟩ := bind_ok.mp read
  obtain ⟨meaning, meansBare, same⟩ := bind_ok.mp meant
  obtain ⟨writtenWhole, readWhole, meantWhole⟩ := bind_ok.mp compiled
  obtain ⟨meaningWhole, meansWhole, sameWhole⟩ := bind_ok.mp meantWhole
  rw [SeriesIndex.Pattern.parse_anchored readWritten readWhole,
    toExpr_anchored (Written.toExpr_ok meansBare)] at meansWhole
  cases meansWhole
  cases same
  cases sameWhole
  rfl

/-- A text that has no expression has none between the start and the end of a value either, unless
a parenthesis opens nothing. -/
theorem Expr.parse_fails {text : String} {fault : Fault}
    (failed : Expr.parse false text.toList = .error fault)
    (opened : fault ≠ .unopenedGroup) :
    ∃ other, Expr.parse false (anchored text).toList = .error other := by
  cases read : Written.parse text.toList with
  | error stop =>
      obtain rfl : stop = fault := Except.error.inj ((bind_error read _).symm.trans failed)
      obtain ⟨other, fails⟩ := SeriesIndex.Pattern.parse_fails read opened
      exact ⟨other, bind_error fails _⟩
  | ok written =>
      have meant : (written.toExpr false .default >>= fun meaning => pure meaning.1) =
          .error fault := by
        unfold Expr.parse at failed
        rwa [read] at failed
      cases meaning : written.toExpr false .default with
      | ok meaning =>
          rw [meaning] at meant
          cases meant
      | error stop =>
          cases readWhole : Written.parse (anchored text).toList with
          | error other => exact ⟨other, bind_error readWhole _⟩
          | ok whole =>
              obtain rfl := SeriesIndex.Pattern.parse_anchored read readWhole
              unfold Expr.parse
              rw [readWhole]
              exact ⟨stop, bind_error (toExpr_anchored_fails meaning) _⟩

end SeriesIndex.Pattern
