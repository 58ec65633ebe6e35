import SeriesIndex.Proofs.Filter
import SeriesIndex.Proofs.Row

/-!
# What matchers ask

A matcher asks something of the value that labels have for its name. The filter made of it wants
some values that are not empty: the ones that satisfy the matcher, or, if the filter is negative,
the ones that do not.
-/

namespace SeriesIndex

namespace Matcher

/-- The label that the matcher is about; without a name it is the metric. -/
def label (matcher : Matcher) : String :=
  if matcher.name.isEmpty then Key.metricName else matcher.name

/-- The value is the operand or is described by it, or is not, as the operator asks. -/
def Accepts (matcher : Matcher) (value : String) : Prop :=
  match matcher.op with
  | .equal => Bytes.ofText value = Bytes.ofText matcher.value
  | .notEqual => Bytes.ofText value ≠ Bytes.ofText matcher.value
  | .describedBy => ∃ pattern, Pattern.compile false matcher.value = .ok pattern ∧
      pattern.accepts (Bytes.ofText value) = true
  | .notDescribedBy => ∃ pattern, Pattern.compile false matcher.value = .ok pattern ∧
      pattern.accepts (Bytes.ofText value) = false

/-- The labels have a value for the label of the matcher that it accepts. -/
def Admits (matcher : Matcher) (labels : List Label) : Prop :=
  matcher.Accepts (Label.valueOf labels matcher.label)

/-- A matcher with a pattern asks whether the pattern describes the value. -/
theorem accepts_of_compiled {matcher : Matcher} (asks : matcher.op.isPattern = true)
    {pattern : Pattern} (compiled : Pattern.compile false matcher.value = .ok pattern)
    (value : String) :
    matcher.Accepts value ↔ pattern.accepts (Bytes.ofText value) = !matcher.op.isNegative := by
  obtain ⟨name, op, operand⟩ := matcher
  have known : ∀ expected : Bool,
      (∃ pattern, Pattern.compile false operand = .ok pattern ∧
        pattern.accepts (Bytes.ofText value) = expected) ↔
      pattern.accepts (Bytes.ofText value) = expected := by
    intro expected
    rw [compiled]
    constructor
    · rintro ⟨_, ⟨⟩, accepted⟩
      exact accepted
    · exact fun accepted => ⟨pattern, rfl, accepted⟩
  cases op with
  | equal => cases asks
  | notEqual => cases asks
  | describedBy => exact known true
  | notDescribedBy => exact known false

end Matcher

namespace Filter

variable {tenant : Tenant} {matcher : Matcher} {filter : Filter}

theorem ofMatcher_of_filled (filled : matcher.value ≠ "") :
    ofMatcher tenant matcher =
      if matcher.op.isPattern then
        ofPattern tenant matcher.label matcher.value matcher.op.isNegative
      else .ok (ofValue tenant matcher.label matcher.value matcher.op.isNegative) := by
  unfold ofMatcher
  dsimp only
  rw [if_neg (by simpa using filled)]
  rfl

theorem ofMatcher_of_empty (empty : matcher.value = "") :
    ofMatcher tenant matcher = ofPattern tenant matcher.label ".+" (!matcher.op.isNegative) := by
  unfold ofMatcher
  dsimp only
  rw [if_pos (by simpa using empty)]
  rfl

/-- A filter of a matcher with an operand wants no empty value, and those of its label that
the matcher accepts, or, if it is negative, those that it does not accept. -/
theorem ofMatcher_ok (filled : matcher.value ≠ "")
    (made : ofMatcher tenant matcher = .ok filter) :
    filter.tenant = tenant ∧ filter.name = matcher.label ∧ ¬ filter.Wants [] ∧
      ∀ value, matcher.Accepts value ↔
        (filter.Wants (Bytes.ofText value) ↔ filter.negative = false) := by
  rw [ofMatcher_of_filled filled] at made
  split at made
  · next asks =>
      obtain ⟨pattern, compiled, tenants, names, -, -, -, negative, -, wants⟩ := ofPattern_ok made
      refine ⟨tenants, names, ?_, ?_⟩
      · rw [wants []]
        exact (Bool.eq_not_self _).mp
      · intro value
        rw [Matcher.accepts_of_compiled asks compiled, wants, negative]
        cases pattern.accepts (Bytes.ofText value) <;> cases pattern.accepts [] <;>
          cases matcher.op.isNegative <;> decide
  · next asks =>
      cases made
      refine ⟨rfl, rfl, ?_, ?_⟩
      · intro listed
        exact filled (Bytes.ofText_eq_nil_iff.mp (List.mem_singleton.mp listed).symm)
      · intro value
        have wants : (ofValue tenant matcher.label matcher.value matcher.op.isNegative).Wants
            (Bytes.ofText value) ↔ Bytes.ofText value = Bytes.ofText matcher.value :=
          List.mem_singleton
        rw [wants]
        obtain ⟨name, op, operand⟩ := matcher
        cases op with
        | equal => simp [Matcher.Accepts, ofValue, MatchOp.isNegative]
        | notEqual => simp [Matcher.Accepts, ofValue, MatchOp.isNegative]
        | describedBy => exact absurd rfl asks
        | notDescribedBy => exact absurd rfl asks

end Filter

end SeriesIndex
