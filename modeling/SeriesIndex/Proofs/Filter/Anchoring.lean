import SeriesIndex.Proofs.Filter.Selection
import SeriesIndex.Proofs.Matcher
import SeriesIndex.Proofs.Pattern.Anchored

/-!
# Matchers about whole values

A matcher that asks for a pattern is to be taken as its text tells by itself: values are described
as a whole, and a text that is no pattern is refused. Putting the text between the start and the end
of a value keeps to that but for texts that fall into two there, since they close the group that
they have been put in and open another one.
-/

namespace SeriesIndex

namespace Pattern

variable {text : String} {fault : Fault}

/-- The text is no pattern by itself, since it closes a group that it has not opened, and becomes
one between the start and the end of a value. -/
def FallsApart (text : String) : Prop :=
  Expr.parse false text.toList = .error .unopenedGroup ∧ ∃ pattern, compile false text = .ok pattern

theorem compile_fails (failed : Expr.parse false text.toList = .error fault)
    (together : ¬ FallsApart text) : ∃ refusal, compile false text = .error refusal := by
  cases compiled : compile false text with
  | error refusal => exact ⟨refusal, rfl⟩
  | ok pattern =>
      have opened : fault ≠ .unopenedGroup := by
        rintro rfl
        exact together ⟨failed, pattern, compiled⟩
      obtain ⟨other, fails⟩ := Expr.parse_fails failed opened
      rw [compile, fails] at compiled
      cases compiled

end Pattern

/-- The pattern text that a matcher asks about: that a value is there, if it asks for none. -/
def Matcher.patternText (matcher : Matcher) : String :=
  if matcher.value.isEmpty then ".+" else matcher.value

theorem Matcher.patternText_of_filled {matcher : Matcher} (filled : matcher.value.isEmpty = false) :
    matcher.patternText = matcher.value := by
  rw [patternText, filled]
  rfl

/-- A matcher is taken as its pattern text tells by itself. It is only added to the set if that is a
pattern; the values that the filter wants are then decided by a pattern that accepts just those that
the text spans as a whole. If the text is no pattern there is no other set than the one at hand. -/
structure FilterSet.Takes (set : FilterSet) (matcher : Matcher) : Prop where
  added : ∀ next, set.add matcher = .ok next → ∃ bare pattern filter,
    Pattern.Expr.parse false matcher.patternText.toList = .ok bare ∧
      Pattern.compile false matcher.patternText = .ok pattern ∧
      next = set.insert filter ∧ filter.name = matcher.label ∧
      filter.text = matcher.patternText ∧ filter.inverted = pattern.accepts [] ∧
      (∀ own, filter.pattern? = some own → own = pattern) ∧
      (∀ value, filter.Wants value ↔ pattern.accepts value = !filter.inverted) ∧
      ∀ value, pattern.accepts value = true ↔ bare.Spans value
  refused : ∀ fault, Pattern.Expr.parse false matcher.patternText.toList = .error fault →
    ∃ refusal, set.add matcher = .error (.badPattern matcher.label matcher.patternText refusal)
  /-- Nothing else keeps a matcher from being added. -/
  compiles : ∀ pattern, Pattern.compile false matcher.patternText = .ok pattern →
    ∃ next, set.add matcher = .ok next

namespace FilterSet

variable {set : FilterSet} {matcher : Matcher}

theorem add_pattern (set : FilterSet) (asks : matcher.op.isPattern = true) :
    ∃ negative, set.add matcher =
      (Filter.ofPattern set.tenant matcher.label matcher.patternText negative).map set.insert := by
  unfold add Filter.ofMatcher Matcher.patternText
  dsimp only
  split
  · exact ⟨_, rfl⟩
  · exact ⟨_, rfl⟩

/-- A matcher that asks for a pattern is taken as its text tells, unless the text falls apart. -/
theorem takes_iff (set : FilterSet) (asks : matcher.op.isPattern = true) :
    set.Takes matcher ↔ ¬ Pattern.FallsApart matcher.patternText := by
  obtain ⟨negative, adds⟩ := add_pattern set asks
  constructor
  · rintro takes ⟨failed, pattern, compiled⟩
    obtain ⟨refusal, refused⟩ := takes.refused _ failed
    obtain ⟨filter, made⟩ :=
      Filter.ofPattern_of_compiled set.tenant matcher.label negative compiled
    rw [adds, made] at refused
    cases refused
  · intro together
    constructor
    · intro next added
      rw [adds] at added
      cases made : Filter.ofPattern set.tenant matcher.label matcher.patternText negative with
      | error fault =>
          rw [made] at added
          cases added
      | ok filter =>
          rw [made] at added
          cases added
          obtain ⟨pattern, compiled, -, names, texts, -, inverted, -, -, wants⟩ :=
            Filter.ofPattern_ok made
          cases read : Pattern.Expr.parse false matcher.patternText.toList with
          | error fault =>
              obtain ⟨refusal, fails⟩ := Pattern.compile_fails read together
              cases fails.symm.trans compiled
          | ok bare =>
              exact ⟨bare, pattern, filter, rfl, compiled, rfl, names, texts, inverted,
                fun own => Filter.pattern?_of_pattern compiled made,
                fun value => inverted ▸ wants value,
                fun value => Pattern.accepts_iff_spans compiled read⟩
    · intro fault failed
      obtain ⟨refusal, fails⟩ := Pattern.compile_fails failed together
      rw [adds, Filter.ofPattern, fails]
      exact ⟨refusal, rfl⟩
    · intro pattern compiled
      obtain ⟨filter, made⟩ :=
        Filter.ofPattern_of_compiled set.tenant matcher.label negative compiled
      exact ⟨set.insert filter, by rw [adds, made]; rfl⟩

/-- A text that stands alone is taken for what it is. -/
theorem takes_sample :
    MatchOp.describedBy.isPattern = true ∧
      (empty ⟨0, 0⟩).Takes ⟨"job", .describedBy, "ab"⟩ := by
  have asks : MatchOp.describedBy.isPattern = true := rfl
  have text : Matcher.patternText ⟨"job", .describedBy, "ab"⟩ = "ab" :=
    Matcher.patternText_of_filled (by decide)
  have together : ¬ Pattern.FallsApart "ab" := by
    rintro ⟨failed, -⟩
    have read : (Pattern.Expr.parse false "ab".toList).toOption.isSome = true := by decide +kernel
    rw [failed] at read
    cases read
  refine ⟨asks, (takes_iff (empty ⟨0, 0⟩) asks).mpr ?_⟩
  rwa [text]

/-- A text that closes the group it is put in and opens another is added, although it is no pattern
by itself, and its first branch is about the start of a value only. -/
theorem takes_apart :
    Pattern.Expr.parse false "a)|(b".toList = .error .unopenedGroup ∧
      (∃ next, (empty ⟨0, 0⟩).add ⟨"job", .describedBy, "a)|(b"⟩ = .ok next) ∧
      (∃ pattern, Pattern.compile false "a)|(b" = .ok pattern ∧
        pattern.accepts (Bytes.ofText "ax") = true) ∧
      ¬ (empty ⟨0, 0⟩).Takes ⟨"job", .describedBy, "a)|(b"⟩ := by
  have failed : Pattern.Expr.parse false "a)|(b".toList = .error .unopenedGroup := by rfl
  have accepted : (Pattern.compile false "a)|(b").toOption.map
      (fun pattern => pattern.accepts (Bytes.ofText "ax")) = some true := by decide +kernel
  obtain ⟨pattern, compiled, accepts⟩ : ∃ pattern, Pattern.compile false "a)|(b" = .ok pattern ∧
      pattern.accepts (Bytes.ofText "ax") = true := by
    cases compiled : Pattern.compile false "a)|(b" with
    | error refusal =>
        rw [compiled] at accepted
        cases accepted
    | ok pattern =>
        rw [compiled] at accepted
        exact ⟨pattern, rfl, Option.some.inj accepted⟩
  have text : Matcher.patternText ⟨"job", .describedBy, "a)|(b"⟩ = "a)|(b" :=
    Matcher.patternText_of_filled (by decide)
  obtain ⟨negative, added⟩ :=
    @add_pattern ⟨"job", .describedBy, "a)|(b"⟩ (empty ⟨0, 0⟩) rfl
  rw [text] at added
  obtain ⟨filter, made⟩ := Filter.ofPattern_of_compiled (empty ⟨0, 0⟩).tenant
    (Matcher.label ⟨"job", .describedBy, "a)|(b"⟩) negative compiled
  rw [made] at added
  refine ⟨failed, ⟨_, added⟩, ⟨pattern, compiled, accepts⟩, fun takes => ?_⟩
  have refused := takes.refused
  rw [text] at refused
  obtain ⟨refusal, refused⟩ := refused _ failed
  cases added.symm.trans refused

end FilterSet

end SeriesIndex
