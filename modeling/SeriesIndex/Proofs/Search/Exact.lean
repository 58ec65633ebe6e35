import SeriesIndex.Proofs.Search.Query

/-!
# What a search answers

With a limit that all identifiers of the tenant fit in, a search finds the identifiers that match
every filter that is not negative and no negative one, whatever costs are remembered.
-/

namespace SeriesIndex

/-- The identifiers that occur in postings of the tenant. -/
def Table.posted (table : Table) (tenant : Tenant) : Set UInt64 :=
  {id | ∃ label content bucket ids,
    Key.posting tenant label content bucket ids ∈ table.items ∧ id ∈ ids}

namespace Search

open IdentifierSet

/-- The identifier matches the filters that are not negative and none of the negative ones. -/
structure Answers (search : Search) (window : Window) (table : Table) (set : FilterSet)
    (id : UInt64) : Prop where
  included : ∀ filter ∈ set.filters, filter.negative = false →
    search.Matches window table filter id
  spared : ∀ filter ∈ set.filters, filter.negative = true →
    ¬ search.Matches window table filter id

section Limits

variable {search : Search} {window : Window} {table : Table} {filter : Filter}

/-- All that matches is collected if the limit allows it. -/
theorem collected_of_matches (postings : filter.ReadsPostings table) (sound : filter.Sound)
    (room : {id | search.Matches window table filter id}.ncard ≤ window.limit) {id : UInt64}
    (matched : search.Matches window table filter id) :
    id ∈ search.collected window table filter :=
  (mem_gather_of_ncard_le (fun _ => mem_idsOf postings sound) room).mpr matched

/-- A filter matches no other identifiers than those of its tenant. -/
theorem matches_ncard_le :
    {id | search.Matches window table filter id}.ncard ≤ (table.posted filter.tenant).ncard := by
  have finite := finite_word64
  refine Set.ncard_le_ncard ?_ (Set.toFinite _)
  rintro id ⟨content, bucket, ids, held, inside, -, -, -⟩
  exact ⟨_, content, bucket, ids, held, inside⟩

end Limits

section Answers

variable {σ : Type} [CostStore σ] {search : Search} {window : Window} {state : State σ}
  {set : FilterSet}

/-- A search of a set that matchers were added to finds what its first filter collected and every
filter leaves in. -/
theorem query_built (search : Search) (window : Window) (state : State σ) (built : set.Built)
    (valid : set.validate = .ok ())
    (postings : ∀ filter ∈ set.filters, filter.ReadsPostings state.scans.store.table)
    (ordered : window.first ≤ window.last) :
    ∃ seed ∈ set.filters, seed.negative = false ∧
      search.seed? set window state.costs = some seed ∧
      Settles (Calm search.deadline state.scans.store) (search.query set window state).1
        (search.Found window state.scans.store.table set.filters seed) := by
  obtain ⟨seed, first, settles⟩ := query_gives search window state valid
    (fun filter inside => (built.made filter inside).tenant_eq) postings
    (fun filter inside => (built.made filter inside).sound) ordered
  obtain ⟨inside, positive⟩ := seed?_mem first
  exact ⟨seed, inside, positive, first, settles⟩

/-- What is found was collected for the first filter, matches every filter that is not negative and
was not collected for a negative one. -/
theorem Found.mem_iff {table : Table} {filters : List Filter} {seed : Filter}
    {found : IdentifierSet} (members : search.Found window table filters seed found) (id : UInt64) :
    id ∈ found ↔ id ∈ search.collected window table seed ∧
      (∀ filter ∈ filters, filter.negative = false → search.Matches window table filter id) ∧
      ∀ filter ∈ filters, filter.negative = true → id ∉ search.collected window table filter := by
  refine (members id).trans (and_congr_right fun _ => ?_)
  constructor
  · intro leaves
    constructor
    · intro filter inside positive
      have left := leaves filter inside
      rwa [Leaves, if_neg (by simp [positive])] at left
    · intro filter inside negative
      have left := leaves filter inside
      rwa [Leaves, if_pos negative] at left
  · rintro ⟨included, spared⟩ filter inside
    rw [Leaves]
    split
    · next negative => exact spared filter inside negative
    · next positive => exact included filter inside (by simpa using positive)

/-- If no filter matches more identifiers than the limit nothing is cut off, so what is found is
what answers the search. -/
theorem Found.iff_answers_of_room {table : Table} {seed : Filter} {found : IdentifierSet}
    (members : search.Found window table set.filters seed found) (inside : seed ∈ set.filters)
    (positive : seed.negative = false) (built : set.Built)
    (postings : ∀ filter ∈ set.filters, filter.ReadsPostings table)
    (room : ∀ filter ∈ set.filters,
      {id | search.Matches window table filter id}.ncard ≤ window.limit) (id : UInt64) :
    id ∈ found ↔ search.Answers window table set id := by
  have collects : ∀ filter ∈ set.filters, search.Matches window table filter id →
      id ∈ search.collected window table filter := fun filter inside =>
    collected_of_matches (postings filter inside) (built.made filter inside).sound
      (room filter inside)
  rw [members.mem_iff]
  constructor
  · rintro ⟨-, included, spared⟩
    refine ⟨included, ?_⟩
    intro filter inside negative matched
    exact spared filter inside negative (collects filter inside matched)
  · rintro ⟨included, spared⟩
    refine ⟨collects seed inside (included seed inside positive), included, ?_⟩
    intro filter inside negative collected
    exact spared filter inside negative
      (matches_of_collected search window (postings filter inside)
        (built.made filter inside).sound collected)

/-- With a limit that the identifiers of the tenant do not exceed no filter matches more. -/
theorem Found.iff_answers {table : Table} {seed : Filter} {found : IdentifierSet}
    (members : search.Found window table set.filters seed found) (inside : seed ∈ set.filters)
    (positive : seed.negative = false) (built : set.Built)
    (postings : ∀ filter ∈ set.filters, filter.ReadsPostings table)
    (room : (table.posted set.tenant).ncard ≤ window.limit) (id : UInt64) :
    id ∈ found ↔ search.Answers window table set id := by
  refine members.iff_answers_of_room inside positive built postings ?_ id
  intro filter inside
  exact Nat.le_trans matches_ncard_le ((built.made filter inside).tenant_eq ▸ room)

/-- A search that nothing disturbs, with a limit that the identifiers of the tenant do not exceed,
finds exactly those that match the filters which are not negative and none of the negative ones. -/
theorem query_exact (built : set.Built) (valid : set.validate = .ok ())
    (postings : ∀ filter ∈ set.filters, filter.ReadsPostings state.scans.store.table)
    (ordered : window.first ≤ window.last) (calm : Calm search.deadline state.scans.store)
    (room : (state.scans.store.table.posted set.tenant).ncard ≤ window.limit) :
    ∃ found, (search.query set window state).1 = .ok found ∧
      ∀ id, id ∈ found ↔ search.Answers window state.scans.store.table set id := by
  obtain ⟨seed, inside, positive, -, settles⟩ :=
    query_built search window state built valid postings ordered
  obtain ⟨found, given, members⟩ := settles.resolve_right fun disturbed => disturbed.2 calm
  exact ⟨found, given, members.iff_answers inside positive built postings room⟩

/-! ## A sample -/

/-- In the first bucket the label `a` has the value `x` in series 2, and the label `b` the value `y`
in series 1 and 2. -/
def sampleTable : Table :=
  Table.empty.insertAll
    [Key.posting ⟨0, 0⟩ (Bytes.ofText "a") (Bytes.ofText "x") 0 [2],
      Key.posting ⟨0, 0⟩ (Bytes.ofText "b") (Bytes.ofText "y") 0 [1, 2]]

/-- A search with buckets of a day that has all the time it needs. -/
def sampleSearch : Search := ⟨86400000, 64, .ahead 0⟩

def sampleState {σ : Type} (costs : σ) : State σ :=
  ⟨⟨.ofTable .memory sampleTable, 0⟩, costs, []⟩

/-- The filters of two matchers, about `a` and about `b`. -/
def sampleSet (first second : Bool) : FilterSet :=
  ((FilterSet.empty ⟨0, 0⟩).insert (.ofValue ⟨0, 0⟩ "a" "x" first)).insert
    (.ofValue ⟨0, 0⟩ "b" "y" second)

theorem sampleTable_items {item : Bytes} (held : item ∈ sampleTable.items) :
    item = Key.posting ⟨0, 0⟩ (Bytes.ofText "a") (Bytes.ofText "x") 0 [2] ∨
      item = Key.posting ⟨0, 0⟩ (Bytes.ofText "b") (Bytes.ofText "y") 0 [1, 2] := by
  rcases Table.mem_insertAll.mp held with added | old
  · simpa using added
  · exact absurd old List.not_mem_nil

theorem sampleTable_postings (filter : Filter) : filter.ReadsPostings sampleTable := by
  intro item held _
  rcases sampleTable_items held with rfl | rfl
  · exact ⟨_, _, _, _, _, List.cons_ne_nil _ _, rfl⟩
  · exact ⟨_, _, _, _, _, List.cons_ne_nil _ _, rfl⟩

theorem sampleTable_posted (tenant : Tenant) :
    (sampleTable.posted tenant).ncard ≤ 2 := by
  have within : sampleTable.posted tenant ⊆ {1, 2} := by
    rintro id ⟨label, content, bucket, ids, held, inside⟩
    rcases sampleTable_items held with same | same
    · obtain ⟨-, -, -, -, rfl⟩ := Key.posting_inj same
      exact .inr (by simpa using inside)
    · obtain ⟨-, -, -, -, rfl⟩ := Key.posting_inj same
      simpa using inside
  have pair := Set.ncard_insert_le (1 : UInt64) {2}
  rw [Set.ncard_singleton] at pair
  exact (Set.ncard_le_ncard within (Set.toFinite _)).trans pair

theorem sampleSet_built (first second : Bool) : (sampleSet first second).Built := by
  have one : (FilterSet.empty ⟨0, 0⟩).add ⟨"a", .asking first false, "x"⟩ =
      .ok ((FilterSet.empty ⟨0, 0⟩).insert (.ofValue ⟨0, 0⟩ "a" "x" first)) := by
    cases first <;> rfl
  have both : ((FilterSet.empty ⟨0, 0⟩).insert (.ofValue ⟨0, 0⟩ "a" "x" first)).add
      ⟨"b", .asking second false, "y"⟩ = .ok (sampleSet first second) := by
    cases second <;> rfl
  exact .add (.add (.empty _) one) both

theorem sampleSet_filters (first second : Bool) : (sampleSet first second).filters =
    [.ofValue ⟨0, 0⟩ "a" "x" first, .ofValue ⟨0, 0⟩ "b" "y" second] := by
  cases first <;> cases second <;> rfl

theorem sampleState_calm {σ : Type} (costs : σ) :
    Calm sampleSearch.deadline (sampleState costs).scans.store :=
  ⟨fun _ => rfl, fun _ => rfl⟩

/-- A search of the sample finds what its first filter has collected and every filter leaves in. -/
theorem sampleState_found (costs : σ) (limit : Nat) (built : set.Built)
    (valid : set.validate = .ok ()) :
    ∃ seed, sampleSearch.seed? set ⟨0, 86400000, limit⟩ costs = some seed ∧
      ∃ found, (sampleSearch.query set ⟨0, 86400000, limit⟩ (sampleState costs)).1 = .ok found ∧
        sampleSearch.Found ⟨0, 86400000, limit⟩ sampleTable set.filters seed found := by
  obtain ⟨seed, -, -, first, settles⟩ := query_built sampleSearch ⟨0, 86400000, limit⟩
    (sampleState costs) built valid (fun filter _ => sampleTable_postings filter)
    (UInt64.le_iff_toNat_le.mpr (Nat.zero_le _))
  exact ⟨seed, first, settles.resolve_right fun disturbed => disturbed.2 (sampleState_calm costs)⟩

/-- Series 1 has `b="y"` and not `a="x"`, whatever is remembered. -/
theorem query_exact_sample :
    ∃ found, (sampleSearch.query (sampleSet true false) ⟨0, 86400000, 2⟩
        (sampleState (RecentCosts.empty 16))).1 = .ok found ∧
      ∀ id, id ∈ found ↔
        sampleSearch.Answers ⟨0, 86400000, 2⟩ sampleTable (sampleSet true false) id :=
  query_exact (sampleSet_built true false) rfl (fun filter _ => sampleTable_postings filter)
    (by decide) (sampleState_calm _) (sampleTable_posted _)

end Answers

end Search

end SeriesIndex
