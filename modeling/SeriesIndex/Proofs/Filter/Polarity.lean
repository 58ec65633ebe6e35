import SeriesIndex.Proofs.Matcher
import SeriesIndex.Proofs.Search.Presence
import SeriesIndex.Selector.Reader

/-!
# Positive matchers and filters

A selector has to have a positive matcher, and the set of its filters a filter that is not negative.
Whether a matcher is positive is told from its operand as a pattern of text, and whether a filter is
negative from the same operand as a pattern of bytes. The two come out the same for every matcher
but those whose pattern describes the empty value and is one of bytes only.
-/

namespace SeriesIndex

namespace Pattern

/-- A pattern of text is the same pattern among those of bytes. -/
theorem compile_of_textOnly {text : String} {pattern : Pattern}
    (compiled : compile true text = .ok pattern) : compile false text = .ok pattern := by
  unfold compile at compiled
  split at compiled
  · cases compiled
  · next expr read =>
      obtain ⟨written, readWritten, meant⟩ := bind_ok.mp read
      obtain ⟨meaning, means, same⟩ := bind_ok.mp meant
      have again : Expr.parse false (anchored text).toList = .ok expr :=
        bind_ok.mpr ⟨written, readWritten, bind_ok.mpr ⟨meaning, Written.toExpr_ok means, same⟩⟩
      rw [compile, again]
      exact compiled

theorem compile_of_accepts {text : String} {textOnly : Bool} {value : Bytes}
    (accepts : (compile textOnly text).toOption.map (·.accepts value) = some true) :
    ∃ pattern, compile textOnly text = .ok pattern ∧ pattern.accepts value = true := by
  cases compiled : compile textOnly text with
  | error refusal =>
      rw [compiled] at accepts
      cases accepts
  | ok pattern =>
      rw [compiled] at accepts
      exact ⟨pattern, rfl, Option.some.inj accepts⟩

end Pattern

namespace Matcher

/-- The pattern describes the empty value, but it is no pattern of text: some of it stands for
bytes that are not part of a text. -/
structure Torn (matcher : Matcher) : Prop where
  asks : matcher.op.isPattern = true
  noText : ∃ refusal, Pattern.compile true matcher.value = .error refusal
  empty : ∃ pattern, Pattern.compile false matcher.value = .ok pattern ∧
    pattern.accepts [] = true

variable {tenant : Tenant} {matcher : Matcher} {filter : Filter}

/-- What the operand tells about the empty value as a pattern of text is right unless it is torn. -/
theorem describesEmpty_iff (asks : matcher.op.isPattern = true) {pattern : Pattern}
    (compiled : Pattern.compile false matcher.value = .ok pattern) :
    matcher.describesEmpty = pattern.accepts [] ↔ ¬ matcher.Torn := by
  rw [describesEmpty, if_pos asks]
  cases asText : Pattern.compile true matcher.value with
  | ok own =>
      obtain rfl := Except.ok.inj ((Pattern.compile_of_textOnly asText).symm.trans compiled)
      refine iff_of_true rfl (fun torn => ?_)
      obtain ⟨refusal, failed⟩ := torn.noText
      cases failed.symm.trans asText
  | error refusal =>
      constructor
      · intro rejects torn
        obtain ⟨own, same, accepts⟩ := torn.empty
        obtain rfl := Except.ok.inj (same.symm.trans compiled)
        exact Bool.false_ne_true (rejects.trans accepts)
      · intro whole
        cases accepts : pattern.accepts [] with
        | false => rfl
        | true => exact absurd ⟨asks, ⟨refusal, asText⟩, pattern, compiled, accepts⟩ whole

theorem Torn.filled (torn : matcher.Torn) : matcher.value ≠ "" := by
  intro empty
  obtain ⟨refusal, failed⟩ := torn.noText
  have reads : (Pattern.compile true "").toOption.isSome = true := by decide +kernel
  rw [← empty, failed] at reads
  cases reads

/-- With the empty operand a matcher is positive if it asks for another value. -/
theorem isPositive_of_empty (empty : matcher.value = "") :
    matcher.isPositive = matcher.op.isNegative := by
  obtain ⟨pattern, compiled, accepts⟩ :=
    @Pattern.compile_of_accepts "" true [] (by decide +kernel)
  have describes : matcher.describesEmpty = true := by
    rw [describesEmpty, empty, compiled]
    split
    · exact accepts
    · rfl
  rw [isPositive, describes, Bool.true_beq]

end Matcher

namespace Filter

variable {tenant : Tenant} {matcher : Matcher} {filter : Filter}

/-- The filter of a matcher is negative if the matcher is not positive and only then, unless the
matcher is torn. -/
theorem negative_iff (made : ofMatcher tenant matcher = .ok filter) :
    filter.negative = !matcher.isPositive ↔ ¬ matcher.Torn := by
  by_cases empty : matcher.value = ""
  · rw [ofMatcher_of_empty empty] at made
    obtain ⟨pattern, compiled, -, -, -, -, -, negative, -⟩ := ofPattern_ok made
    refine iff_of_true ?_ (fun torn => torn.filled empty)
    rw [negative, Pattern.anyLine_rejects_empty compiled, Matcher.isPositive_of_empty empty,
      Bool.bne_false]
  · rw [ofMatcher_of_filled empty] at made
    split at made
    · next asks =>
        obtain ⟨pattern, compiled, -, -, -, -, -, negative, -⟩ := ofPattern_ok made
        rw [← Matcher.describesEmpty_iff asks compiled, negative, Matcher.isPositive]
        cases matcher.describesEmpty <;> cases pattern.accepts [] <;>
          cases matcher.op.isNegative <;> decide
    · next plain =>
        cases made
        have differs : matcher.describesEmpty = false := by
          rw [Matcher.describesEmpty, if_neg plain]
          simpa using empty
        refine iff_of_true ?_ (fun torn => plain torn.asks)
        rw [Matcher.isPositive, differs, Bool.false_beq, Bool.not_not]
        rfl

end Filter

namespace Matcher

variable {tenant : Tenant} {matcher : Matcher} {filter : Filter}

theorem Torn.op (torn : matcher.Torn) :
    matcher.op = .describedBy ∨ matcher.op = .notDescribedBy := by
  have asks := torn.asks
  cases op : matcher.op with
  | equal => exact absurd (op ▸ asks) (by decide)
  | notEqual => exact absurd (op ▸ asks) (by decide)
  | describedBy => exact .inl rfl
  | notDescribedBy => exact .inr rfl

theorem Torn.isPositive (torn : matcher.Torn) : matcher.isPositive = !matcher.op.isNegative := by
  obtain ⟨refusal, failed⟩ := torn.noText
  rw [Matcher.isPositive, describesEmpty, if_pos torn.asks, failed, Bool.false_beq]

/-- A torn matcher is positive if it asks for values that its pattern describes. -/
theorem isPositive_iff :
    matcher.isPositive = true ↔
      ¬ matcher.Torn ∧ matcher.isPositive = true ∨ matcher.Torn ∧ matcher.op = .describedBy := by
  by_cases torn : matcher.Torn
  · rw [torn.isPositive]
    rcases torn.op with op | op
    · simp [op, torn, MatchOp.isNegative]
    · simp [op, MatchOp.isNegative]
  · simp [torn]

/-- The filter of a torn matcher is not negative if the matcher asks for values that its pattern
does not describe. -/
theorem filter_positive_iff (made : Filter.ofMatcher tenant matcher = .ok filter) :
    filter.negative = false ↔
      ¬ matcher.Torn ∧ matcher.isPositive = true ∨
        matcher.Torn ∧ matcher.op = .notDescribedBy := by
  have agrees := Filter.negative_iff made
  by_cases torn : matcher.Torn
  · have same : filter.negative = matcher.isPositive := by simpa [torn] using agrees
    rw [same, torn.isPositive]
    rcases torn.op with op | op
    · simp [op, torn, MatchOp.isNegative]
    · simp [op, torn, MatchOp.isNegative]
  · simp [agrees.mpr torn, torn]

end Matcher

theorem Selector.hasPositive_iff {matchers : List Matcher} :
    hasPositive ⟨matchers⟩ = true ↔
      (∃ matcher ∈ matchers, ¬ matcher.Torn ∧ matcher.isPositive = true) ∨
        ∃ matcher ∈ matchers, matcher.Torn ∧ matcher.op = .describedBy := by
  have members : hasPositive ⟨matchers⟩ = true ↔
      ∃ matcher ∈ matchers, matcher.isPositive = true := List.any_eq_true
  rw [members, ← exists_or]
  refine exists_congr fun matcher => ?_
  rw [← and_or_left]
  exact and_congr_right fun _ => Matcher.isPositive_iff

namespace FilterSet

variable {tenant : Tenant} {matchers : List Matcher} {set : FilterSet}

/-- Filters of matchers allow a search exactly if one of them is not negative. -/
theorem ofMatchers_iff (added : (empty tenant).addAll matchers = .ok set) :
    (∃ made, ofMatchers tenant matchers = .ok made) ↔
      ∃ filter ∈ set.filters, filter.negative = false := by
  constructor
  · rintro ⟨made, succeeded⟩
    obtain ⟨whole, again, checked⟩ := bind_ok.mp succeeded
    obtain rfl := Except.ok.inj (again.symm.trans added)
    obtain ⟨⟨⟩, valid, -⟩ := bind_ok.mp checked
    exact Search.validate_ok valid
  · rintro ⟨filter, inside, positive⟩
    exact ⟨set, bind_ok.mpr ⟨set, added,
      bind_ok.mpr ⟨(), validate_of_positive inside positive, rfl⟩⟩⟩

theorem exists_positive_iff (added : (empty tenant).addAll matchers = .ok set) :
    (∃ filter ∈ set.filters, filter.negative = false) ↔
      (∃ matcher ∈ matchers, ¬ matcher.Torn ∧ matcher.isPositive = true) ∨
        ∃ matcher ∈ matchers, matcher.Torn ∧ matcher.op = .notDescribedBy := by
  obtain ⟨-, -, members⟩ := addAll_ok (.empty tenant) added
  have compiled := compiled_of_addAll added
  rw [← exists_or]
  constructor
  · rintro ⟨filter, inside, positive⟩
    rcases (members filter).mp inside with impossible | ⟨matcher, listed, made⟩
    · exact absurd impossible List.not_mem_nil
    · exact ⟨matcher, and_or_left.mp ⟨listed, (Matcher.filter_positive_iff made).mp positive⟩⟩
  · rintro ⟨matcher, found⟩
    obtain ⟨listed, positive⟩ := and_or_left.mpr found
    obtain ⟨filter, made⟩ := compiled matcher listed
    exact ⟨filter, (members filter).mpr (.inr ⟨matcher, listed, made⟩),
      (Matcher.filter_positive_iff made).mpr positive⟩

/-- Matchers whose filters can all be made have a positive one exactly if their filters allow a
search, unless the only positive ones on one of the two sides are torn. -/
theorem ofMatchers_positive_iff (added : (empty tenant).addAll matchers = .ok set) :
    ((∃ made, ofMatchers tenant matchers = .ok made) ↔
      ∃ filter ∈ set.filters, filter.negative = false) ∧
    ((Selector.hasPositive ⟨matchers⟩ = true ↔ ∃ made, ofMatchers tenant matchers = .ok made) ↔
      (∃ matcher ∈ matchers, ¬ matcher.Torn ∧ matcher.isPositive = true) ∨
        ((∃ matcher ∈ matchers, matcher.Torn ∧ matcher.op = .describedBy) ↔
          ∃ matcher ∈ matchers, matcher.Torn ∧ matcher.op = .notDescribedBy)) := by
  refine ⟨ofMatchers_iff added, ?_⟩
  rw [ofMatchers_iff added, exists_positive_iff added, Selector.hasPositive_iff]
  by_cases sure : ∃ matcher ∈ matchers, ¬ matcher.Torn ∧ matcher.isPositive = true
  · simp only [sure, true_or]
  · simp only [sure, false_or]

/-- A matcher for one value is positive and allows a search, beside one that only rules a value
out. -/
theorem ofMatchers_positive_sample :
    ∃ set made, (empty ⟨0, 0⟩).addAll [⟨"job", .equal, "api"⟩, ⟨"path", .notEqual, "/"⟩] = .ok set ∧
      Selector.hasPositive ⟨[⟨"job", .equal, "api"⟩, ⟨"path", .notEqual, "/"⟩]⟩ = true ∧
      ofMatchers ⟨0, 0⟩ [⟨"job", .equal, "api"⟩, ⟨"path", .notEqual, "/"⟩] = .ok made := by
  have added : (empty ⟨0, 0⟩).addAll [⟨"job", .equal, "api"⟩, ⟨"path", .notEqual, "/"⟩] =
      .ok (((empty ⟨0, 0⟩).insert (.ofValue ⟨0, 0⟩ "job" "api" false)).insert
        (.ofValue ⟨0, 0⟩ "path" "/" true)) := rfl
  have positive : Selector.hasPositive ⟨[⟨"job", .equal, "api"⟩, ⟨"path", .notEqual, "/"⟩]⟩ =
      true := by decide
  have whole : ¬ Matcher.Torn ⟨"job", .equal, "api"⟩ := fun torn => absurd torn.asks (by decide)
  obtain ⟨-, agrees⟩ := ofMatchers_positive_iff added
  obtain ⟨made, succeeded⟩ :=
    (agrees.mpr (.inl ⟨_, .head _, whole, by decide⟩)).mp positive
  exact ⟨_, made, added, positive, succeeded⟩

/-- A matcher whose pattern describes the empty value and one byte that is no text. -/
def tornMatcher (op : MatchOp) : Matcher := ⟨"a", op, "(?-u:\\xFF)?"⟩

theorem tornMatcher_torn {op : MatchOp} (asks : op.isPattern = true) : (tornMatcher op).Torn := by
  have text : (Pattern.compile true "(?-u:\\xFF)?").toOption.isSome = false := by decide +kernel
  have bytes := @Pattern.compile_of_accepts "(?-u:\\xFF)?" false [] (by decide +kernel)
  refine ⟨asks, ?_, bytes⟩
  cases compiled : Pattern.compile true "(?-u:\\xFF)?" with
  | error refusal => exact ⟨refusal, compiled⟩
  | ok pattern =>
      rw [compiled] at text
      cases text

/-- The filter of a torn matcher can be made, and it allows a search alone exactly if the matcher
asks for values that its pattern does not describe. -/
theorem ofMatchers_tornMatcher {op : MatchOp} (asks : op.isPattern = true) :
    (∃ set, (empty ⟨0, 0⟩).addAll [tornMatcher op] = .ok set) ∧
      ((∃ made, ofMatchers ⟨0, 0⟩ [tornMatcher op] = .ok made) ↔ op = .notDescribedBy) := by
  have torn := tornMatcher_torn asks
  obtain ⟨pattern, compiled, -⟩ := torn.empty
  obtain ⟨filter, made⟩ := Filter.ofPattern_of_compiled ⟨0, 0⟩ (tornMatcher op).label
    (tornMatcher op).op.isNegative compiled
  have added : (empty ⟨0, 0⟩).addAll [tornMatcher op] = .ok ((empty ⟨0, 0⟩).insert filter) := by
    have made : Filter.ofMatcher ⟨0, 0⟩ (tornMatcher op) = .ok filter := by
      rw [Filter.ofMatcher_of_filled torn.filled, if_pos torn.asks]
      exact made
    refine bind_ok.mpr ⟨_, ?_, rfl⟩
    rw [add, empty, made]
    rfl
  refine ⟨⟨_, added⟩, ?_⟩
  rw [ofMatchers_iff added, exists_positive_iff added]
  simp only [List.mem_singleton, exists_eq_left, torn, not_true, false_and, true_and, false_or]
  exact Iff.rfl

/-- The reader of selectors takes a torn matcher that asks for what its pattern describes, which
allows no search, and refuses the opposite one, which allows a search. -/
theorem ofMatchers_positive_torn :
    Selector.parse "\x7ba=~\"(?-u:\\xFF)?\"\x7d" = .ok ⟨[tornMatcher .describedBy]⟩ ∧
      (∀ made, ofMatchers ⟨0, 0⟩ [tornMatcher .describedBy] ≠ .ok made) ∧
      Selector.parse "\x7ba!~\"(?-u:\\xFF)?\"\x7d" =
        .error (.noPositive "\x7ba!~\"(?-u:\\\\xFF)?\"\x7d") ∧
      (∃ made, ofMatchers ⟨0, 0⟩ [tornMatcher .notDescribedBy] = .ok made) ∧
      ¬ ∀ tenant matchers set, (empty tenant).addAll matchers = .ok set →
        (Selector.hasPositive ⟨matchers⟩ = true ↔
          ∃ made, ofMatchers tenant matchers = .ok made) := by
  have taken : Selector.parse "\x7ba=~\"(?-u:\\xFF)?\"\x7d" =
      .ok ⟨[tornMatcher .describedBy]⟩ := by decide +kernel
  have refused : Selector.parse "\x7ba!~\"(?-u:\\xFF)?\"\x7d" =
      .error (.noPositive "\x7ba!~\"(?-u:\\\\xFF)?\"\x7d") := by decide +kernel
  obtain ⟨⟨set, added⟩, allows⟩ := @ofMatchers_tornMatcher .describedBy rfl
  have none : ¬ ∃ made, ofMatchers ⟨0, 0⟩ [tornMatcher .describedBy] = .ok made :=
    allows.not.mpr (by decide)
  have some_ := (@ofMatchers_tornMatcher .notDescribedBy rfl).2.mpr rfl
  refine ⟨taken, fun made succeeded => none ⟨made, succeeded⟩, refused, some_, fun agree => none ?_⟩
  refine (agree _ _ _ added).mp ?_
  rw [Selector.hasPositive_iff]
  exact .inr ⟨_, .head _, tornMatcher_torn rfl, rfl⟩

end FilterSet

end SeriesIndex
