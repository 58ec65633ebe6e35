import SeriesIndex.Proofs.Search.Exact

/-!
# Searches that the limit cuts off

A limit below the number of identifiers that a filter matches cuts off what is collected for it.
For the first filter that loses identifiers, so the answer depends on which filter the remembered
costs put first. For a negative filter it keeps identifiers that the filter was to take away. Both
are told exactly by what is collected for each filter in full.
-/

namespace SeriesIndex.Search

open IdentifierSet

/-! ## Searches of the sample -/

/-- Costs that remember, from before anything was stored, that no series has `b="y"`. -/
def staleCosts : RecentCosts :=
  CostCache.record (.empty 16) 0 ⟨0, 0⟩ (.ofValue ⟨0, 0⟩ "b" "y" false) 0

theorem sampleSet_seed (second : Bool) :
    sampleSearch.seed? (sampleSet false second) ⟨0, 86400000, 1⟩ (RecentCosts.empty 16) =
      some (.ofValue ⟨0, 0⟩ "a" "x" false) := by
  cases second <;> exact (seed?_pair rfl).trans rfl

theorem sampleSet_seed_stale :
    sampleSearch.seed? (sampleSet false false) ⟨0, 86400000, 1⟩ staleCosts =
      some (.ofValue ⟨0, 0⟩ "b" "y" false) :=
  (seed?_pair rfl).trans rfl

theorem sampleTable_collected : 2 ∈ sampleSearch.collected ⟨0, 86400000, 1⟩ sampleTable
    (.ofValue ⟨0, 0⟩ "a" "x" false) := by
  decide +kernel

theorem sampleTable_leaves : sampleSearch.Leaves ⟨0, 86400000, 1⟩ sampleTable
    (.ofValue ⟨0, 0⟩ "a" "x" false) 2 :=
  leaves_of_collected sampleSearch _ (sampleTable_postings _)
    (Filter.ofValue_sound _ _ _ _) rfl sampleTable_collected

theorem sampleTable_matches (negative : Bool) : sampleSearch.Matches ⟨0, 86400000, 1⟩ sampleTable
    (.ofValue ⟨0, 0⟩ "b" "y" negative) 2 := by
  refine (mem_idsOf (sampleTable_postings _) (Filter.ofValue_sound _ _ _ _)).mp ?_
  cases negative <;> decide +kernel

/-! ## What a limit leaves -/

section Limits

variable {σ τ : Type} [CostStore σ] [CostStore τ] {search : Search} {window : Window}
  {state : State σ} {set : FilterSet} {found : IdentifierSet}

/-- What is found is what answers the search exactly if all that answers it is collected for the
first filter, and what is collected there and should be taken away is collected for some negative
filter. -/
theorem Found.answers_iff {table : Table} {seed : Filter}
    (members : search.Found window table set.filters seed found) (built : set.Built)
    (postings : ∀ filter ∈ set.filters, filter.ReadsPostings table) :
    (∀ id, id ∈ found ↔ search.Answers window table set id) ↔
      (∀ id, search.Answers window table set id → id ∈ search.collected window table seed) ∧
      ∀ id ∈ search.collected window table seed,
        (∀ filter ∈ set.filters, filter.negative = false →
          search.Matches window table filter id) →
        (∃ filter ∈ set.filters, filter.negative = true ∧
          search.Matches window table filter id) →
        ∃ filter ∈ set.filters, filter.negative = true ∧
          id ∈ search.collected window table filter := by
  constructor
  · intro exact_
    refine ⟨fun id answers => ((members.mem_iff id).mp ((exact_ id).mpr answers)).1, ?_⟩
    rintro id collected included ⟨filter, inside, negative, matched⟩
    apply Classical.byContradiction
    intro none
    have known : id ∈ found := (members.mem_iff id).mpr ⟨collected, included,
      fun other held negative taken => none ⟨other, held, negative, taken⟩⟩
    exact ((exact_ id).mp known).spared filter inside negative matched
  · rintro ⟨complete, taken⟩ id
    rw [members.mem_iff]
    constructor
    · rintro ⟨collected, included, spared⟩
      refine ⟨included, ?_⟩
      intro filter inside negative matched
      obtain ⟨other, held, otherNegative, away⟩ :=
        taken id collected included ⟨filter, inside, negative, matched⟩
      exact spared other held otherNegative away
    · intro answers
      refine ⟨complete id answers, answers.included, ?_⟩
      intro filter inside negative collected
      exact answers.spared filter inside negative (matches_of_collected search window
        (postings filter inside) (built.made filter inside).sound collected)

/-- An identifier that a negative filter matches is found only if the filter matches more
identifiers than the limit allows to collect. So what is found answers the search exactly if each
identifier collected for the first filter that should be taken away is collected for some negative
filter. -/
theorem query_sound_iff (built : set.Built) (valid : set.validate = .ok ())
    (postings : ∀ filter ∈ set.filters, filter.ReadsPostings state.scans.store.table)
    (ordered : window.first ≤ window.last)
    (given : (search.query set window state).1 = .ok found) :
    (∀ id ∈ found, ∀ filter ∈ set.filters,
      (filter.negative = false → search.Matches window state.scans.store.table filter id) ∧
      (filter.negative = true → search.Matches window state.scans.store.table filter id →
        window.limit < {id | search.Matches window state.scans.store.table filter id}.ncard)) ∧
    ∃ seed, search.seed? set window state.costs = some seed ∧
      ((∀ id ∈ found, search.Answers window state.scans.store.table set id) ↔
        ∀ id ∈ search.collected window state.scans.store.table seed,
          (∀ filter ∈ set.filters, filter.negative = false →
            search.Matches window state.scans.store.table filter id) →
          (∃ filter ∈ set.filters, filter.negative = true ∧
            search.Matches window state.scans.store.table filter id) →
          ∃ filter ∈ set.filters, filter.negative = true ∧
            id ∈ search.collected window state.scans.store.table filter) := by
  obtain ⟨seed, inside, positive, first, settles⟩ :=
    query_built search window state built valid postings ordered
  rw [given] at settles
  obtain ⟨_, ⟨⟩, members⟩ | ⟨⟨_, ⟨⟩⟩, _⟩ := settles
  have included : ∀ id ∈ found, ∀ filter ∈ set.filters, filter.negative = false →
      search.Matches window state.scans.store.table filter id := by
    intro id known filter inside positive
    have leaves := ((members id).mp known).2 filter inside
    rwa [Leaves, if_neg (by simp [positive])] at leaves
  have kept : ∀ id ∈ found, ∀ filter ∈ set.filters, filter.negative = true →
      id ∉ search.collected window state.scans.store.table filter := by
    intro id known filter inside negative
    have leaves := ((members id).mp known).2 filter inside
    rwa [Leaves, if_pos negative] at leaves
  refine ⟨?_, seed, first, ?_⟩
  · intro id known filter inside
    refine ⟨included id known filter inside, ?_⟩
    intro negative matched
    apply Nat.lt_of_not_le
    intro room
    apply kept id known filter inside negative
    exact collected_of_matches (postings filter inside) (built.made filter inside).sound room
      matched
  · constructor
    · rintro sound id collected matched ⟨filter, inside, negative, unwanted⟩
      apply Classical.byContradiction
      intro none
      have known : id ∈ found := by
        refine (members id).mpr ⟨collected, ?_⟩
        intro other held
        rw [Leaves]
        split
        · next negative => exact fun taken => none ⟨other, held, negative, taken⟩
        · next positive => exact matched other held (by simpa using positive)
      exact (sound id known).spared filter inside negative unwanted
    · intro condition id known
      refine ⟨included id known, ?_⟩
      intro filter inside negative matched
      obtain ⟨other, held, otherNegative, taken⟩ :=
        condition id ((members id).mp known).1 (included id known)
          ⟨filter, inside, negative, matched⟩
      exact kept id known other held otherNegative taken

/-- Series 2 has `b="y"`, for which only series 1 is collected, so a search that excludes `b="y"`
finds series 2. -/
theorem query_unsound_sample :
    ∃ found, (sampleSearch.query (sampleSet false true) ⟨0, 86400000, 1⟩
        (sampleState (RecentCosts.empty 16))).1 = .ok found ∧
      ∃ id ∈ found, ∃ filter ∈ (sampleSet false true).filters, filter.negative = true ∧
        sampleSearch.Matches ⟨0, 86400000, 1⟩ sampleTable filter id := by
  obtain ⟨seed, first, found, given, members⟩ :=
    sampleState_found (RecentCosts.empty 16) 1 (sampleSet_built false true) rfl
  obtain rfl := Option.some.inj (first.symm.trans (sampleSet_seed true))
  have excluding : Filter.ofValue ⟨0, 0⟩ "b" "y" true ∈ (sampleSet false true).filters := by
    rw [sampleSet_filters]
    exact .tail _ (.head _)
  refine ⟨found, given, 2, (members 2).mpr ⟨sampleTable_collected, ?_⟩, _, excluding, rfl,
    sampleTable_matches _⟩
  rw [sampleSet_filters]
  refine List.forall_mem_cons.mpr ⟨sampleTable_leaves, List.forall_mem_singleton.mpr ?_⟩
  rw [Leaves, if_pos (by rfl)]
  decide +kernel

/-- With a limit of 2 all that has `b="y"` is collected. -/
theorem query_sound_sample :
    ∃ found, (sampleSearch.query (sampleSet false true) ⟨0, 86400000, 2⟩
        (sampleState (RecentCosts.empty 16))).1 = .ok found ∧
      ∀ id ∈ found,
        sampleSearch.Answers ⟨0, 86400000, 2⟩ sampleTable (sampleSet false true) id := by
  have built := sampleSet_built false true
  obtain ⟨_, -, found, given, -⟩ := sampleState_found (RecentCosts.empty 16) 2 built rfl
  obtain ⟨-, seed, -, sound⟩ := query_sound_iff built rfl
    (fun filter _ => sampleTable_postings filter) (by decide) given
  refine ⟨found, given, sound.mpr ?_⟩
  rintro id - - ⟨filter, inside, negative, matched⟩
  exact ⟨filter, inside, negative, collected_of_matches (sampleTable_postings filter)
    (built.made filter inside).sound (matches_ncard_le.trans (sampleTable_posted _)) matched⟩

/-- Two searches that differ in what costs they remember find the same exactly if the filters they
start with have collected the same of what all filters leave in; so they do if they start with the
same filter, or if no filter that is not negative matches more identifiers than the limit. -/
theorem query_agrees_iff {other : State τ} {otherFound : IdentifierSet} (built : set.Built)
    (valid : set.validate = .ok ())
    (postings : ∀ filter ∈ set.filters, filter.ReadsPostings state.scans.store.table)
    (ordered : window.first ≤ window.last)
    (same : other.scans.store.table = state.scans.store.table)
    (given : (search.query set window state).1 = .ok found)
    (otherGiven : (search.query set window other).1 = .ok otherFound) :
    ∃ seed otherSeed, search.seed? set window state.costs = some seed ∧
      search.seed? set window other.costs = some otherSeed ∧
      (found = otherFound ↔ ∀ id,
        (∀ filter ∈ set.filters, search.Leaves window state.scans.store.table filter id) →
        (id ∈ search.collected window state.scans.store.table seed ↔
          id ∈ search.collected window state.scans.store.table otherSeed)) ∧
      (seed = otherSeed → found = otherFound) ∧
      ((∀ filter ∈ set.filters, filter.negative = false →
        {id | search.Matches window state.scans.store.table filter id}.ncard ≤ window.limit) →
        found = otherFound) := by
  obtain ⟨seed, inside, positive, first, settles⟩ :=
    query_built search window state built valid postings ordered
  obtain ⟨otherSeed, otherInside, otherPositive, otherFirst, otherSettles⟩ :=
    query_built search window other built valid (same ▸ postings) ordered
  rw [given] at settles
  rw [otherGiven] at otherSettles
  obtain ⟨_, ⟨⟩, members⟩ | ⟨⟨_, ⟨⟩⟩, _⟩ := settles
  obtain ⟨_, ⟨⟩, otherMembers⟩ | ⟨⟨_, ⟨⟩⟩, _⟩ := otherSettles
  rw [same] at otherMembers
  have agree : found = otherFound ↔ ∀ id,
      (∀ filter ∈ set.filters, search.Leaves window state.scans.store.table filter id) →
      (id ∈ search.collected window state.scans.store.table seed ↔
        id ∈ search.collected window state.scans.store.table otherSeed) := by
    constructor
    · rintro rfl id leaves
      exact (and_iff_left leaves).symm.trans
        (((members id).symm.trans (otherMembers id)).trans (and_iff_left leaves))
    · intro condition
      ext id
      rw [members id, otherMembers id]
      exact and_congr_left fun leaves => condition id leaves
  refine ⟨seed, otherSeed, first, otherFirst, agree, ?_, fun room => agree.mpr ?_⟩
  · rintro rfl
    exact agree.mpr fun id _ => Iff.rfl
  · intro id leaves
    -- with room for all matches each of the two has collected what it leaves in
    have collects : ∀ filter ∈ set.filters, filter.negative = false →
        id ∈ search.collected window state.scans.store.table filter := by
      intro filter inside positive
      have left := leaves filter inside
      rw [Leaves, if_neg (by simp [positive])] at left
      exact collected_of_matches (postings filter inside) (built.made filter inside).sound
        (room filter inside positive) left
    exact ⟨fun _ => collects otherSeed otherInside otherPositive,
      fun _ => collects seed inside positive⟩

/-- A count of zero remembered for `b="y"` makes the search start with it. Collecting only series 1
for it, the search misses series 2, which it finds if it starts with `a="x"`. -/
theorem query_disagrees_sample :
    ∃ found otherFound,
      (sampleSearch.query (sampleSet false false) ⟨0, 86400000, 1⟩
        (sampleState (RecentCosts.empty 16))).1 = .ok found ∧
      (sampleSearch.query (sampleSet false false) ⟨0, 86400000, 1⟩
        (sampleState staleCosts)).1 = .ok otherFound ∧
      found ≠ otherFound := by
  have built := sampleSet_built false false
  obtain ⟨_, first, found, given, members⟩ :=
    sampleState_found (RecentCosts.empty 16) 1 built rfl
  obtain rfl := Option.some.inj (first.symm.trans (sampleSet_seed false))
  obtain ⟨_, otherFirst, otherFound, otherGiven, otherMembers⟩ :=
    sampleState_found staleCosts 1 built rfl
  obtain rfl := Option.some.inj (otherFirst.symm.trans sampleSet_seed_stale)
  refine ⟨found, otherFound, given, otherGiven, ?_⟩
  intro same
  have known : (2 : UInt64) ∈ found := by
    refine (members 2).mpr ⟨sampleTable_collected, ?_⟩
    rw [sampleSet_filters]
    refine List.forall_mem_cons.mpr ⟨sampleTable_leaves, List.forall_mem_singleton.mpr ?_⟩
    rw [Leaves, if_neg (by decide)]
    exact sampleTable_matches false
  exact absurd ((otherMembers 2).mp (same ▸ known)).1 (by decide +kernel)

/-- With a limit of 2 it finds the same. -/
theorem query_agrees_sample :
    ∃ found,
      (sampleSearch.query (sampleSet false false) ⟨0, 86400000, 2⟩
        (sampleState (RecentCosts.empty 16))).1 = .ok found ∧
      (sampleSearch.query (sampleSet false false) ⟨0, 86400000, 2⟩
        (sampleState staleCosts)).1 = .ok found := by
  have built := sampleSet_built false false
  obtain ⟨_, -, found, given, -⟩ := sampleState_found (RecentCosts.empty 16) 2 built rfl
  obtain ⟨_, -, otherFound, otherGiven, -⟩ := sampleState_found staleCosts 2 built rfl
  have same : (sampleState staleCosts).scans.store.table =
      (sampleState (RecentCosts.empty 16)).scans.store.table := rfl
  obtain ⟨_, _, -, -, -, -, agree⟩ := query_agrees_iff built rfl
    (fun filter _ => sampleTable_postings filter) (by decide) same given otherGiven
  obtain rfl := agree fun filter _ _ => matches_ncard_le.trans (sampleTable_posted _)
  exact ⟨found, given, otherGiven⟩

end Limits

end SeriesIndex.Search
