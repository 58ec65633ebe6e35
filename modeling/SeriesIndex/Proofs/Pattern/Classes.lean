import SeriesIndex.Proofs.Pattern.Reader

/-!
# Classes in a group

What stands between the brackets of a class is found in front of the closing parenthesis as in front
of nothing. A class that the text breaks off in may take the parenthesis for one of its items, but
no bracket follows it.
-/

namespace SeriesIndex.Pattern

section Classes

variable {ignore : Bool} {text longer : List Char}

/-! ## Names and dashes -/

/-- What is found in front of the end. -/
def inFront : ClassSet × List Char → ClassSet × List Char :=
  fun (set, rest) => (set, rest ++ closing)

theorem takeWhile_append_of_dropWhile {keep : Char → Bool} {char : Char} {rest : List Char}
    (found : text.dropWhile keep = char :: rest) (more : List Char) :
    (text ++ more).takeWhile keep = text.takeWhile keep := by
  induction text with
  | nil => cases found
  | cons first others ih =>
      rw [List.cons_append, List.takeWhile_cons, List.takeWhile_cons]
      rw [List.dropWhile_cons] at found
      split
      · next kept =>
          rw [if_pos kept] at found
          rw [ih found]
      · rfl

theorem named_append (negated : Bool) (text : List Char) :
    named negated (text ++ closing) = (named negated text).map inFront := by
  cases found : text.dropWhile (· != ':') with
  | nil =>
      have nothing : (text ++ closing).dropWhile (· != ':') = [] := by
        rw [List.dropWhile_append, found]
        rfl
      simp [named, found, nothing]
  | cons colon rest =>
      have name := takeWhile_append_of_dropWhile found closing
      have behind : (text ++ closing).dropWhile (· != ':') = colon :: (rest ++ closing) := by
        rw [List.dropWhile_append, found]
        rfl
      unfold named
      rw [found, behind, name]
      cases rest with
      | nil =>
          rw [closing]
          split
          · next impossible => simp at impossible
          · split
            · next impossible => simp at impossible
            · rfl
      | cons bracket rest =>
          split
          · next same =>
              cases same
              simp only [Char.isValue]
              split <;> rfl
          · next other =>
              split
              · next same =>
                  cases same
                  exact absurd rfl (other (rest ++ closing))
              · rfl

/-- A named class is found in both texts or in none. -/
theorem asciiClass?_append (text : List Char) :
    asciiClass? (text ++ closing) = (asciiClass? text).map inFront := by
  rw [asciiClass?_eq_named, asciiClass?_eq_named]
  cases text with
  | nil => rfl
  | cons char rest =>
      by_cases colon : char = ':'
      · subst colon
        cases rest with
        | nil => exact named_append false []
        | cons char rest =>
            by_cases caret : char = '^'
            · subst caret
              exact named_append true rest
            · simp only [List.cons_append, List.cons.injEq, caret, false_and, imp_self,
                implies_true]
              exact named_append false (char :: rest)
      · simp only [List.cons_append, List.cons.injEq, colon, false_and, imp_self, implies_true]
        rfl

theorem leadingDashes_follow (ignore : Bool) {fuel more : Nat} (enough : text.length ≤ fuel)
    (plenty : longer.length ≤ more) (follows : Follows text longer) :
    (leadingDashes ignore more longer).1 = (leadingDashes ignore fuel text).1 ∧
      Follows (leadingDashes ignore fuel text).2 (leadingDashes ignore more longer).2 := by
  have stops : decide (')' = '-') = false := rfl
  obtain ⟨same, later⟩ :=
    @front_follow _ _ ignore (· = '-') _ _ stops enough plenty follows
  rw [leadingDashes_eq_front, leadingDashes_eq_front, same]
  exact ⟨rfl, later⟩

/-! ## Items -/

theorem classUnit_tracks (follows : Follows text longer) :
    Tracks id (Misread ignore) (classUnit ignore text) (classUnit ignore longer) := by
  cases text with
  | nil =>
      rcases follows.nil with rfl | rfl
      · exact tracks_beyond _ (.inl rfl)
      · exact tracks_error _ _
  | cons char rest =>
      obtain rfl := follows.cons
      by_cases slash : char = '\\'
      · subst slash
        exact escaped_tracks (.append rest)
      · simp only [classUnit]
        exact tracks_ok (.append rest)

theorem head?_follow {mark : Char} (inner : mark ≠ ')') (follows : Follows text longer) :
    longer.head? = some mark ↔ text.head? = some mark := by
  cases text with
  | nil =>
      rcases follows.nil with rfl | rfl
      · simpa [closing] using inner.symm
      · rfl
  | cons char rest => rw [follows.cons, List.head?_cons, List.head?_cons]

/-- What comes after a dash decides in the same way in front of the end. -/
theorem peekAfter_follow (ignore : Bool) {mark : Char} (inner : mark ≠ ')')
    (follows : Follows text longer) :
    peekAfter ignore longer = some mark ↔ peekAfter ignore text = some mark := by
  cases ignore with
  | false => exact head?_follow inner follows
  | true =>
      have stops : Text.isWhitespace ')' = false := rfl
      have blanks := follows.dropWhile stops
      simp only [peekAfter, if_true]
      cases inside : text.dropWhile Text.isWhitespace with
      | nil =>
          rw [inside] at blanks
          rcases blanks.nil with same | same
          · rw [same]
            exact head?_follow inner .closed
          · rw [same]
      | cons char rest =>
          rw [inside] at blanks
          rw [blanks.cons]
          by_cases comment : char = '#'
          · subst comment
            exact head?_follow inner ((Follows.append rest).dropWhile stops)
          · simp only [List.cons.injEq, comment, false_and, imp_self, implies_true]
            exact head?_follow inner (.append (char :: rest))

/-- The end of the text, or what the closing parenthesis leaves of it. -/
def Ended {β : Type} (_ : β) (later : List Char) : Prop := later = ['$'] ∨ later = closing

theorem classItem_tracks (ignore : Bool) (follows : Follows text longer) :
    Tracks id Ended (classItem ignore text) (classItem ignore longer) := by
  refine (classUnit_tracks follows).bind ?_ fun first rest later _ follows => ?_
  · rintro unit later (rfl | ⟨rfl, blanks, rfl, -⟩) set rest read
    · dsimp only at read
      rw [skip_dollar] at read
      obtain ⟨_, -, same⟩ := bind_ok.mp read
      cases same
      exact .inl rfl
    · dsimp only at read
      rw [skip_brace] at read
      cases read
  · dsimp only
    have skipped := follows.skip ignore
    cases inside : skip ignore rest with
    | nil =>
        rw [inside] at skipped
        rcases skipped.nil with same | same
        · rw [same]
          cases first.item with
          | error fault => exact tracks_of_fails ⟨_, rfl⟩ ⟨fault, rfl⟩
          | ok item => exact tracks_beyond _ (.inr rfl)
        · rw [same]
          exact tracks_error _ _
    | cons char more =>
        rw [inside] at skipped
        rw [skipped.cons]
        by_cases dash : char = '-'
        · subst dash
          have after := Follows.append more
          have notBracket : ']' ≠ ')' := by decide
          have notDash : '-' ≠ ')' := by decide
          have bracket := peekAfter_follow ignore notBracket after
          have mark := peekAfter_follow ignore notDash after
          simp only [bracket, mark]
          split
          · exact tracks_value _ (.append ('-' :: more))
          · refine (classUnit_tracks (after.skip ignore)).bind ?_
              fun last rest later _ follows => ?_
            · rintro unit later misread set rest read
              obtain ⟨low, -, read⟩ := bind_ok.mp read
              obtain ⟨high, made, read⟩ := bind_ok.mp read
              split at read
              · cases read
                rcases misread with rfl | ⟨rfl, -⟩
                · exact .inl rfl
                · cases made
              · cases read
            · cases first.rangeEnd with
              | error fault => exact tracks_error _ _
              | ok first =>
                  cases last.rangeEnd with
                  | error fault => exact tracks_error _ _
                  | ok last =>
                      simp only [Except.bind, bind]
                      split
                      · exact tracks_ok follows
                      · exact tracks_error _ _
        · simp only [List.cons.injEq, dash, false_and, imp_self, implies_true]
          exact tracks_value _ (.append (char :: more))

/-! ## Opened classes -/

theorem opened_tracks (negated : Bool) (follows : Follows text longer) :
    Tracks id Ended (opened ignore negated text) (opened ignore negated longer) := by
  obtain ⟨same, later⟩ := leadingDashes_follow ignore (Nat.le_refl text.length)
    (Nat.le_refl longer.length) follows
  rw [opened, opened]
  generalize leadingDashes ignore longer.length longer = long at same later ⊢
  generalize leadingDashes ignore text.length text = short at same later ⊢
  obtain ⟨dashes, rest⟩ := short
  obtain ⟨others, restLonger⟩ := long
  obtain rfl : others = dashes := same
  cases rest with
  | nil =>
      have later : Follows [] restLonger := later
      rcases later.nil with rfl | rfl
      · cases others <;> exact tracks_beyond _ (.inr rfl)
      · cases others <;> exact tracks_error _ _
  | cons char rest =>
      obtain rfl : restLonger = char :: (rest ++ closing) := Follows.cons later
      cases others with
      | cons dash dashes =>
          simp only
          exact tracks_ok (.append (char :: rest))
      | nil =>
          by_cases bracket : char = ']'
          · subst bracket
            have skipped := (Follows.append rest).skip ignore
            simp only
            cases inside : skip ignore rest with
            | nil =>
                rw [inside] at skipped
                rcases skipped.nil with same | same
                · rw [same]
                  exact tracks_beyond _ (.inr rfl)
                · rw [same]
                  exact tracks_error _ _
            | cons char rest =>
                rw [inside] at skipped
                rw [skipped.cons]
                exact tracks_ok (.append (char :: rest))
          · simp only [List.cons.injEq, bracket, false_and, imp_self, implies_true]
            exact tracks_ok (.append (char :: rest))

theorem openClass_tracks (ignore : Bool) (follows : Follows text longer) :
    Tracks id Ended (openClass ignore text) (openClass ignore longer) := by
  have skipped := follows.skip ignore
  rw [openClass_eq_opened, openClass_eq_opened]
  cases inside : skip ignore text with
  | nil =>
      rw [inside] at skipped
      rcases skipped.nil with same | same
      · rw [same]
        exact opened_tracks false .closed
      · rw [same]
        exact opened_tracks false .done
  | cons char rest =>
      rw [inside] at skipped
      rw [skipped.cons]
      by_cases caret : char = '^'
      · subst caret
        exact opened_tracks true ((Follows.append rest).skip ignore)
      · simp only [List.cons.injEq, caret, false_and, imp_self, implies_true]
        exact opened_tracks false (.append (char :: rest))

/-- A mark that stands twice in front of the end stands twice in the bare text. -/
theorem pair_inFront {char mark : Char} {rest more : List Char} (inner : mark ≠ ')')
    (same : char :: (rest ++ closing) = mark :: mark :: more) :
    char :: rest = mark :: mark :: rest.tail := by
  obtain ⟨rfl, behind⟩ := List.cons.inj same
  cases rest with
  | nil => exact absurd (List.cons.inj behind).1.symm inner
  | cons next rest => rw [(List.cons.inj behind).1, List.tail_cons]

/-! ## Closed classes -/

theorem classRest_dollar (fuel : Nat) (inner : OpenClass) (outer : List OpenClass) :
    ∃ fault, classRest ignore fuel inner outer ['$'] = .error fault := by
  cases fuel <;> cases ignore <;> exact ⟨_, rfl⟩

/-- No class is closed behind the end of the text. -/
theorem classRest_end (fuel : Nat) (inner : OpenClass) (outer : List OpenClass)
    (ending : Follows [] (skip ignore longer)) :
    ∃ fault, classRest ignore fuel inner outer longer = .error fault := by
  cases fuel with
  | zero => exact ⟨_, rfl⟩
  | succ fuel =>
      rw [classRest]
      rcases ending.nil with same | same
      · -- the parenthesis is an item, and then the class is still open
        rw [same]
        cases ignore <;> exact classRest_dollar fuel (inner.push (.literal ⟨')', false⟩)) outer
      · rw [same]
        exact ⟨_, rfl⟩

theorem classRest_ended (ended : longer = ['$'] ∨ longer = closing) (fuel : Nat)
    (inner : OpenClass) (outer : List OpenClass) :
    ∃ fault, classRest ignore fuel inner outer longer = .error fault := by
  rcases ended with rfl | rfl
  · exact classRest_dollar fuel inner outer
  · exact classRest_end fuel inner outer (.inl (skip_closing ignore))

section Steps

variable {rest : List Char} (fuel : Nat) (inner : OpenClass) (outer : List OpenClass)

theorem classRest_named {found : ClassSet × List Char} (inside : skip ignore text = '[' :: rest)
    (named_ : asciiClass? rest = some found) :
    classRest ignore (fuel + 1) inner outer text =
      classRest ignore fuel (inner.push found.1) outer found.2 := by
  rw [classRest, inside]
  simp only [named_]

/-- A bracket that starts no named class starts another one. -/
theorem classRest_open (inside : skip ignore text = '[' :: rest)
    (unnamed : asciiClass? rest = none) :
    classRest ignore (fuel + 1) inner outer text =
      (openClass ignore rest >>= fun outcome =>
        classRest ignore fuel outcome.1 (inner :: outer) outcome.2) := by
  rw [classRest, inside]
  simp only [unnamed]
  cases openClass ignore rest <;> rfl

/-- A mark that stands twice is an operator. -/
theorem classRest_pair {mark : Char} (listed : mark ∈ ['&', '-', '~']) :
    ∃ operation, ∀ {text rest : List Char}, skip ignore text = mark :: mark :: rest →
      ∀ (fuel : Nat) (inner : OpenClass) (outer : List OpenClass),
        classRest ignore (fuel + 1) inner outer text =
          classRest ignore fuel (inner.operate operation) outer rest := by
  simp only [List.mem_cons, List.not_mem_nil, or_false] at listed
  rcases listed with rfl | rfl | rfl
  · exact ⟨.intersection, fun inside _ _ _ => by rw [classRest, inside]; rfl⟩
  · exact ⟨.difference, fun inside _ _ _ => by rw [classRest, inside]; rfl⟩
  · exact ⟨.symmetricDifference, fun inside _ _ _ => by rw [classRest, inside]; rfl⟩

/-- What is neither a bracket nor an operator starts an item. -/
theorem classRest_item {char : Char} (inside : skip ignore text = char :: rest)
    (noOpen : char ≠ '[') (noClose : char ≠ ']')
    (noPair : ∀ mark ∈ ['&', '-', '~'], ∀ more, char :: rest ≠ mark :: mark :: more) :
    classRest ignore (fuel + 1) inner outer text =
      (classItem ignore (char :: rest) >>= fun outcome =>
        classRest ignore fuel (inner.push outcome.1) outer outcome.2) := by
  rw [classRest, inside]
  split
  · next impossible => cases impossible
  · next same =>
      cases same
      exact absurd rfl noOpen
  · next same =>
      cases same
      exact absurd rfl noClose
  · next same => exact absurd same (noPair '&' (by simp) _)
  · next same => exact absurd same (noPair '-' (by simp) _)
  · next same => exact absurd same (noPair '~' (by simp) _)
  · cases classItem ignore (char :: rest) <;> rfl

end Steps

theorem classRest_tracks {fuel more : Nat} (enough : text.length < fuel) (plenty : fuel ≤ more)
    (inner : OpenClass) (outer : List OpenClass) (follows : Follows text longer) :
    Tracks id Never (classRest ignore fuel inner outer text)
      (classRest ignore more inner outer longer) := by
  induction fuel generalizing inner outer text longer more with
  | zero => cases enough
  | succ fuel ih =>
      have skipped := follows.skip ignore
      have short : (skip ignore text).length ≤ fuel := skip_le (Nat.le_of_lt_succ enough)
      cases inside : skip ignore text with
      | nil =>
          rw [inside] at skipped
          exact tracks_of_fails (classRest_end _ inner outer (inside ▸ .done))
            (classRest_end more inner outer skipped)
      | cons char rest =>
          rw [inside] at skipped short
          have behind : rest.length < fuel := short
          obtain ⟨more, rfl⟩ := Nat.exists_eq_add_of_lt (Nat.lt_of_succ_le plenty)
          have plenty : fuel ≤ fuel + more := Nat.le_add_right fuel more
          by_cases open_ : char = '['
          · subst open_
            have both := asciiClass?_append rest
            cases named_ : asciiClass? rest with
            | some found =>
                rw [named_] at both
                have fewer := asciiClass?_le (Nat.le_refl _) named_
                rw [classRest_named fuel inner outer inside named_,
                  classRest_named _ inner outer skipped.cons both]
                exact ih (Nat.lt_of_le_of_lt fewer behind) plenty _ _ (.append found.2)
            | none =>
                rw [named_] at both
                rw [classRest_open fuel inner outer inside named_,
                  classRest_open _ inner outer skipped.cons both]
                refine (openClass_tracks ignore (.append rest)).bind ?_
                  fun opening rest later read follows => ?_
                · intro opening later ended set rest read
                  obtain ⟨fault, fails⟩ :=
                    classRest_ended ended (fuel + more) opening (inner :: outer)
                  cases fails.symm.trans read
                · have fewer := openClass_leaves (Nat.le_refl _) _ _ read
                  exact ih (Nat.lt_of_le_of_lt fewer behind) plenty _ _ follows
          by_cases close : char = ']'
          · subst close
            rw [classRest, inside, classRest, skipped.cons]
            cases outer with
            | nil => exact tracks_ok (.append rest)
            | cons next outer => exact ih behind plenty _ _ (.append rest)
          by_cases pair : ∃ mark ∈ ['&', '-', '~'], ∃ more, char :: rest = mark :: mark :: more
          · obtain ⟨mark, listed, beyond, same⟩ := pair
            cases same
            obtain ⟨operation, operates⟩ := @classRest_pair ignore _ listed
            rw [operates inside, operates skipped.cons]
            exact ih (Nat.lt_of_succ_lt behind) plenty _ _ (.append beyond)
          · have noPair : ∀ mark ∈ ['&', '-', '~'], ∀ more, char :: rest ≠ mark :: mark :: more :=
              fun mark listed more same => pair ⟨mark, listed, more, same⟩
            have noPairLonger : ∀ mark ∈ ['&', '-', '~'], ∀ more,
                char :: (rest ++ closing) ≠ mark :: mark :: more := by
              intro mark listed more same
              have noEnd : mark ≠ ')' := by
                rintro rfl
                exact absurd listed (by decide)
              exact noPair mark listed _ (pair_inFront noEnd same)
            rw [classRest_item fuel inner outer inside open_ close noPair,
              classRest_item _ inner outer skipped.cons open_ close noPairLonger]
            refine (classItem_tracks ignore (.append (char :: rest))).bind ?_
              fun item rest later read follows => ?_
            · intro item later ended set rest read
              obtain ⟨fault, fails⟩ := classRest_ended ended (fuel + more) (inner.push item) outer
              cases fails.symm.trans read
            · have fewer := classItem_leaves (Nat.le_refl _) _ _ read
              exact ih (Nat.lt_of_le_of_lt fewer behind) plenty _ _ follows

theorem bracketedClass_tracks (follows : Follows text longer) :
    Tracks id Never (bracketedClass ignore text) (bracketedClass ignore longer) := by
  refine (openClass_tracks ignore follows).bind ?_ fun inner rest later _ follows => ?_
  · intro inner later ended set rest read
    obtain ⟨fault, fails⟩ := classRest_ended ended (later.length + 1) inner []
    dsimp only at read
    rw [fails] at read
    cases read
  · exact (classRest_tracks (Nat.lt_succ_self _) (Nat.succ_le_succ follows.length_le) inner []
      follows).bind_never fun _ _ _ follows => tracks_ok follows

end Classes

end SeriesIndex.Pattern
