import Mathlib.Data.List.Nodup
import SeriesIndex.Proofs.Filter

/-!
# What a scan with a filter selects

The filter of a pattern lists the values that the pattern accepts, or has all values with a common
start looked at and decides about each by the pattern. Either way a scan selects just the values
that the pattern accepts, or for an inverted filter those that it rejects.
-/

namespace SeriesIndex

theorem Key.escape_injective : Function.Injective Key.escape := fun left right same =>
  Except.ok.inj ((Key.unescape_escape left).symm.trans (same ▸ Key.unescape_escape right))

namespace Filter

/-- A scan selects a value that is listed, or one that starts with what the filter's key ends in and
that the pattern decides for. -/
def Selects (filter : Filter) (value : Bytes) : Prop :=
  match filter.pattern? with
  | none => Key.escape value ∈ filter.suffixes
  | some pattern =>
      (∃ start, filter.key = filter.labelKey ++ Key.escape start ∧ start <+: value) ∧
        (pattern.accepts value != filter.inverted) = true

/-- All that a sound filter wants is selected, and nothing else. -/
theorem selects_iff_wants {filter : Filter} (sound : filter.Sound) (value : Bytes) :
    filter.Selects value ↔ filter.Wants value := by
  obtain ⟨tenant, name, text, isPattern, negative, inverted, selection⟩ := filter
  cases selection with
  | listed values => exact List.mem_map_of_injective Key.escape_injective
  | scanned start pattern =>
      have decides : (pattern.accepts value != inverted) = true ↔
          pattern.accepts value = !inverted := by
        cases pattern.accepts value <;> cases inverted <;> decide
      refine ⟨fun selected => decides.mp selected.2, fun wanted => ⟨⟨start, rfl, ?_⟩, ?_⟩⟩
      · exact sound value wanted
      · exact decides.mpr wanted

section Patterns

variable {tenant : Tenant} {name text : String} {negative : Bool} {filter : Filter}

/-- The values that are selected for a pattern are listed once, and no other pattern decides. -/
theorem select_cases (text : String) (pattern : Pattern) :
    (∃ values, values.Nodup ∧ select text pattern = .listed values) ∨
      ∃ start, select text pattern = .scanned start pattern := by
  unfold select
  split
  · next values shape =>
      dsimp only
      split
      · exact .inr ⟨_, rfl⟩
      · refine .inl ⟨_, (Ascending.ofList_ascending _).imp ?_, rfl⟩
        rintro value _ less rfl
        exact List.lt_irrefl value less
  · exact .inr ⟨_, rfl⟩
  · exact .inr ⟨_, rfl⟩

theorem selection_of_pattern {pattern : Pattern}
    (compiled : Pattern.compile false text = .ok pattern)
    (made : ofPattern tenant name text negative = .ok filter) :
    (∃ values, values.Nodup ∧ filter.selection = .listed values) ∨
      ∃ start, filter.selection = .scanned start pattern := by
  rw [ofPattern, compiled] at made
  dsimp only at made
  split at made
  · cases made
    exact .inr ⟨_, rfl⟩
  · cases made
    exact select_cases text pattern

/-- The suffixes of a pattern's filter are there, each once, and one of them is empty only if all
values have to be looked at. -/
theorem suffixes_of_pattern (made : ofPattern tenant name text negative = .ok filter) :
    filter.suffixes ≠ [] ∧ filter.suffixes.Nodup ∧
      (filter.isFullScan = true ↔ filter.pattern?.isSome = true) := by
  obtain ⟨pattern, compiled, -, -, -, -, -, -, sound, wants⟩ := ofPattern_ok made
  have rejects : ¬ filter.Wants [] := fun wanted =>
    (Bool.eq_not_self _).mp ((wants []).mp wanted)
  obtain ⟨values, nodup, selection⟩ | ⟨start, selection⟩ := selection_of_pattern compiled made
  · have suffixes : filter.suffixes = values.map Key.escape := by rw [Filter.suffixes, selection]
    have looksUp : filter.pattern? = none := by rw [Filter.pattern?, selection]
    have filled : values ≠ [] := by rwa [Sound, selection] at sound
    have noEmpty : [] ∉ values := by rwa [Wants, selection] at rejects
    rw [isFullScan, suffixes, looksUp]
    refine ⟨fun none => filled (List.map_eq_nil_iff.mp none), nodup.map Key.escape_injective,
      iff_of_false ?_ (by decide)⟩
    intro full
    have alone : Key.escape [] ∈ values.map Key.escape := by
      rw [eq_of_beq full]
      exact List.mem_singleton_self _
    exact noEmpty ((List.mem_map_of_injective Key.escape_injective).mp alone)
  · have suffixes : filter.suffixes = [[]] := by rw [Filter.suffixes, selection]
    have scans : filter.pattern? = some pattern := by rw [Filter.pattern?, selection]
    rw [isFullScan, suffixes, scans]
    exact ⟨List.cons_ne_nil _ _, List.nodup_singleton _, iff_of_true rfl rfl⟩

/-- The pattern that decides about the values is the one that the filter was made of. -/
theorem pattern?_of_pattern {pattern own : Pattern}
    (compiled : Pattern.compile false text = .ok pattern)
    (made : ofPattern tenant name text negative = .ok filter)
    (decides : filter.pattern? = some own) : own = pattern := by
  obtain ⟨values, -, selection⟩ | ⟨start, selection⟩ := selection_of_pattern compiled made
  · rw [pattern?, selection] at decides
    cases decides
  · rw [pattern?, selection] at decides
    exact (Option.some.inj decides).symm

/-- A pattern that compiles is made into a filter whose scans select just the values that the
pattern accepts; one that accepts the empty value into a filter for the opposite, whose scans look
at all values and select just those that the pattern rejects. There is always something to look up
or to look at and nothing twice, and all is looked at exactly if the pattern has to decide. -/
theorem ofPattern_selects (tenant : Tenant) (name : String) {text : String} (negative : Bool)
    {pattern : Pattern} (compiled : Pattern.compile false text = .ok pattern) :
    ∃ filter, ofPattern tenant name text negative = .ok filter ∧
      filter.labelKey = Key.namePrefix tenant (Bytes.ofText name) ∧
      (pattern.accepts [] = false →
        filter.inverted = false ∧ filter.negative = negative ∧
          ∀ value, filter.Selects value ↔ pattern.accepts value = true) ∧
      (pattern.accepts [] = true →
        filter.inverted = true ∧ filter.negative = !negative ∧ filter.pattern? = some pattern ∧
          ∀ value, filter.Selects value ↔ pattern.accepts value = false) ∧
      (∀ own, filter.pattern? = some own → own = pattern) ∧
      filter.suffixes ≠ [] ∧ filter.suffixes.Nodup ∧
      (filter.isFullScan = true ↔ filter.pattern?.isSome = true) := by
  obtain ⟨filter, made, scans⟩ : ∃ filter, ofPattern tenant name text negative = .ok filter ∧
      (pattern.accepts [] = true → filter.pattern? = some pattern) := by
    rw [ofPattern, compiled]
    dsimp only
    split
    · exact ⟨_, rfl, fun _ => rfl⟩
    · next rejects => exact ⟨_, rfl, fun accepts => absurd accepts rejects⟩
  obtain ⟨own, same, tenants, names, -, -, inverted, polarity, sound, wants⟩ := ofPattern_ok made
  obtain rfl := Except.ok.inj (compiled.symm.trans same)
  have selects : ∀ value, filter.Selects value ↔ pattern.accepts value = !pattern.accepts [] :=
    fun value => (selects_iff_wants sound value).trans (wants value)
  refine ⟨filter, made, ?_, ?_, ?_, fun other => pattern?_of_pattern compiled made,
    suffixes_of_pattern made⟩
  · rw [labelKey, tenants, names]
  · intro rejects
    rw [rejects] at inverted polarity selects
    exact ⟨inverted, by simpa using polarity, selects⟩
  · intro accepts
    rw [accepts] at inverted polarity selects
    exact ⟨inverted, by simpa using polarity, scans accepts, selects⟩

/-- The filter of a pattern with one value looks it up. -/
theorem ofPattern_selects_sample :
    ∃ pattern filter, Pattern.compile false "ab" = .ok pattern ∧
      ofPattern ⟨0, 0⟩ "job" "ab" false = .ok filter ∧
      ∀ value, filter.Selects value ↔ pattern.accepts value = true := by
  have accepted : ((Pattern.compile false "ab").map fun pattern => pattern.accepts []) =
      .ok false := by decide +kernel
  cases compiled : Pattern.compile false "ab" with
  | error refusal =>
      rw [compiled] at accepted
      cases accepted
  | ok pattern =>
      rw [compiled] at accepted
      obtain ⟨filter, made, -, plain, -⟩ := ofPattern_selects ⟨0, 0⟩ "job" false compiled
      exact ⟨pattern, filter, rfl, made, (plain (Except.ok.inj accepted)).2.2⟩

end Patterns

end Filter

end SeriesIndex
