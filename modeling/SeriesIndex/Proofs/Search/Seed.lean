import SeriesIndex.Proofs.Search.Evaluate

/-!
# Plans and their seeds

A plan orders the filters of a set and leaves none out. The search starts with the first of them
that is not negative, and a set that allows a search has one.
-/

namespace SeriesIndex.Search

variable {σ : Type} [CostStore σ]

theorem withCosts_filters (date : UInt64) (tenant : Tenant) (filters : List Filter) (costs : σ) :
    (withCosts date tenant filters costs).1.map (·.2) = filters := by
  induction filters generalizing costs with
  | nil => rfl
  | cons filter rest ih => exact congrArg (filter :: ·) (ih _)

/-- A plan orders the filters and leaves none out. -/
theorem plan_perm (date : UInt64) (set : FilterSet) (costs : σ) :
    (plan date set costs).1.Perm set.filters := by
  have sorted := (List.mergeSort_perm (withCosts date set.tenant set.filters costs).1
    Planned.notAfter).map (·.2)
  rwa [withCosts_filters] at sorted

/-- The seed is hoisted past the negative filters in front of it. -/
theorem takeSeed?_split {filters others : List Filter} {seed : Filter}
    (taken : takeSeed? filters = some (seed, others)) :
    ∃ early late, filters = early ++ seed :: late ∧ others = early ++ late ∧
      (∀ filter ∈ early, filter.negative = true) ∧ seed.negative = false := by
  induction filters generalizing others with
  | nil => cases taken
  | cons filter rest ih =>
      rw [takeSeed?] at taken
      by_cases negative : filter.negative = true
      · rw [if_pos negative] at taken
        obtain ⟨⟨first, later⟩, inner, same⟩ := Option.map_eq_some_iff.mp taken
        cases same
        obtain ⟨early, late, rfl, rfl, passed, positive⟩ := ih inner
        exact ⟨filter :: early, late, rfl, rfl, List.forall_mem_cons.mpr ⟨negative, passed⟩,
          positive⟩
      · rw [if_neg negative] at taken
        cases taken
        exact ⟨[], rest, rfl, rfl, nofun, by simpa using negative⟩

theorem takeSeed?_some {filters others : List Filter} {seed : Filter}
    (taken : takeSeed? filters = some (seed, others)) :
    filters.Perm (seed :: others) ∧ seed.negative = false := by
  obtain ⟨early, late, rfl, rfl, -, positive⟩ := takeSeed?_split taken
  exact ⟨List.perm_middle, positive⟩

theorem takeSeed?_none {filters : List Filter} (none : takeSeed? filters = none) :
    ∀ filter ∈ filters, filter.negative = true := by
  induction filters with
  | nil => exact fun _ impossible => absurd impossible List.not_mem_nil
  | cons filter rest ih =>
      rw [takeSeed?] at none
      by_cases negative : filter.negative = true
      · rw [if_pos negative] at none
        rintro other inside
        rcases List.mem_cons.mp inside with rfl | later
        · exact negative
        · exact ih (Option.map_eq_none_iff.mp none) other later
      · rw [if_neg negative] at none
        cases none

/-- The filter that a search starts with: the first of its plan that is not negative. -/
def seed? (search : Search) (set : FilterSet) (window : Window) (costs : σ) : Option Filter :=
  (takeSeed? (plan (search.date window) set costs).1).map (·.1)

theorem seed?_mem {search : Search} {set : FilterSet} {window : Window} {costs : σ}
    {seed : Filter} (first : search.seed? set window costs = some seed) :
    seed ∈ set.filters ∧ seed.negative = false := by
  obtain ⟨⟨_, others⟩, taken, rfl⟩ := Option.map_eq_some_iff.mp first
  obtain ⟨perm, positive⟩ := takeSeed?_some taken
  exact ⟨((plan_perm _ set costs).mem_iff).mp (perm.mem_iff.mpr List.mem_cons_self), positive⟩

theorem mergeSort_pair {α : Type} (le : α → α → Bool) (first second : α) :
    [first, second].mergeSort le =
      if le first second then [first, second] else [second, first] := by
  simp [List.mergeSort, List.MergeSort.Internal.splitInTwo, List.merge]

/-- Of two filters the search starts with the cheaper one that is not negative. -/
theorem seed?_pair {search : Search} {set : FilterSet} {window : Window} {costs : σ}
    {first second : Planned}
    (pair : (withCosts (search.date window) set.tenant set.filters costs).1 = [first, second]) :
    search.seed? set window costs =
      (takeSeed? ((if first.notAfter second then [first, second] else [second, first]).map
        (·.2))).map (·.1) := by
  rw [seed?, plan]
  dsimp only
  rw [pair, mergeSort_pair]

theorem validate_ok {set : FilterSet} (valid : set.validate = .ok ()) :
    ∃ filter ∈ set.filters, filter.negative = false := by
  unfold FilterSet.validate at valid
  split at valid
  · cases valid
  · split at valid
    · cases valid
    · next positive => simpa using positive

/-- A plan for a valid set has a filter to start with. -/
theorem exists_seed {set : FilterSet} (valid : set.validate = .ok ()) (date : UInt64) (costs : σ) :
    ∃ seed others, takeSeed? (plan date set costs).1 = some (seed, others) := by
  cases taken : takeSeed? (plan date set costs).1 with
  | some chosen => exact ⟨chosen.1, chosen.2, rfl⟩
  | none =>
      obtain ⟨filter, inside, positive⟩ := validate_ok valid
      have negative := takeSeed?_none taken filter ((plan_perm date set costs).mem_iff.mpr inside)
      rw [positive] at negative
      cases negative

/-- No filter of the set's own tenant is stray. -/
theorem stray?_eq_none {set : FilterSet}
    (own : ∀ filter ∈ set.filters, filter.tenant = set.tenant) : stray? set = none := by
  apply List.find?_eq_none.mpr
  intro filter inside
  have begins : set.key <+: filter.key := by
    refine List.IsPrefix.trans ?_ labelKey_prefix_key
    rw [FilterSet.key, Filter.labelKey, Key.namePrefix, own filter inside]
    exact List.prefix_append _ _
  simpa using Bytes.startsWith_iff.mpr begins

/-- Filters that were added to a set are of its tenant. -/
theorem stray?_of_built {set : FilterSet} (built : set.Built) : stray? set = none :=
  stray?_eq_none fun filter inside => (built.made filter inside).tenant_eq

end SeriesIndex.Search
