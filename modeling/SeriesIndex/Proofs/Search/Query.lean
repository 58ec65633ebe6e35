import SeriesIndex.Proofs.Search.Course

/-!
# What a search finds

Whatever the order of its filters, a search finds the identifiers collected for its first filter
that match every other filter and are not among those collected for a negative one. What is
collected is cut off at the limit, so the first filter and the negative ones count as far as the
limit reaches; the filters evaluated within what is left count in full.
-/

namespace SeriesIndex.Search

open IdentifierSet

/-- The identifiers that evaluating a filter in full collects. -/
def collected (search : Search) (window : Window) (table : Table) (filter : Filter) :
    IdentifierSet :=
  empty.gather window.limit (search.idsOf filter window table)

/-- A filter leaves an identifier in: it matches, or the filter is negative and has not collected
it. -/
def Leaves (search : Search) (window : Window) (table : Table) (filter : Filter) (id : UInt64) :
    Prop :=
  if filter.negative then id ∉ search.collected window table filter
  else search.Matches window table filter id

/-! ## Narrowing -/

section Narrowing

variable (search : Search) (window : Window) {filter : Filter}

/-- An evaluation in full collects the identifiers of its filter. -/
theorem evaluate_collects {scans : ScanState} (postings : filter.ReadsPostings scans.store.table)
    (sound : filter.Sound) :
    scans.store.Rereads (search.evaluate filter window none scans).2.store ∧
      Settles (Calm search.deadline scans.store) (search.evaluate filter window none scans).1
        (· = search.collected window scans.store.table filter) :=
  evaluate_none postings sound

/-- An evaluation leaves of what was found what its filter leaves in. -/
theorem evaluate_leaves {scans : ScanState} (postings : filter.ReadsPostings scans.store.table)
    (sound : filter.Sound) {found : IdentifierSet} (small : found.size ≤ window.limit) :
    scans.store.Rereads
        (search.evaluate filter window (within filter (some found)) scans).2.store ∧
      Settles (Calm search.deadline scans.store)
        (search.evaluate filter window (within filter (some found)) scans).1 fun matched =>
        ∀ id, id ∈ leaving filter matched (some found) ↔
          id ∈ found ∧ search.Leaves window scans.store.table filter id := by
  rw [within]
  split
  · next negative =>
      obtain ⟨same, settles⟩ := evaluate_collects search window postings sound
      refine ⟨same, settles.imp_left ?_⟩
      rintro ⟨matched, given, rfl⟩
      refine ⟨_, given, fun id => ?_⟩
      rw [leaving, if_pos negative, mem_difference, Leaves, if_pos negative]
  · next positive =>
      obtain ⟨same, settles⟩ := evaluate_some search postings sound small
      refine ⟨same, settles.imp_left ?_⟩
      rintro ⟨matched, given, members⟩
      refine ⟨matched, given, fun id => ?_⟩
      rw [leaving, if_neg positive, mem_intersection, members id, Leaves, if_neg positive]
      exact and_congr_right fun known => and_iff_left known

theorem matches_of_collected {table : Table} (postings : filter.ReadsPostings table)
    (sound : filter.Sound) {id : UInt64} (found : id ∈ search.collected window table filter) :
    search.Matches window table filter id :=
  (mem_idsOf postings sound).mp (mem_of_mem_gather found)

/-- What is collected for a filter that is not negative it leaves in. -/
theorem leaves_of_collected {table : Table} (postings : filter.ReadsPostings table)
    (sound : filter.Sound) (positive : filter.negative = false) {id : UInt64}
    (found : id ∈ search.collected window table filter) : search.Leaves window table filter id := by
  rw [Leaves, if_neg (by simp [positive])]
  exact matches_of_collected search window postings sound found

/-- What a search for a set of filters finds, if it starts with the given one. -/
def Found (search : Search) (window : Window) (table : Table) (filters : List Filter)
    (seed : Filter) (found : IdentifierSet) : Prop :=
  ∀ id, id ∈ found ↔ id ∈ search.collected window table seed ∧
    ∀ filter ∈ filters, search.Leaves window table filter id

variable {search window}

/-- Each filter of a course narrows what was found to what it leaves in, and a search that stops
because nothing is left misses nothing. -/
theorem Course.narrows {found : Option IdentifierSet} {filters : List Filter}
    {scans after : ScanState} {steps : List Step} {result : Except SearchError IdentifierSet}
    (course : Course search window found filters scans steps result after)
    (postings : ∀ filter ∈ filters, filter.ReadsPostings scans.store.table)
    (sound : ∀ filter ∈ filters, filter.Sound) :
    ∀ known ∈ found, known.size ≤ window.limit →
      Settles (Calm search.deadline scans.store) result fun left =>
        ∀ id, id ∈ left ↔ id ∈ known ∧
          ∀ filter ∈ filters, search.Leaves window scans.store.table filter id := by
  induction course with
  | @finished found filters scans done =>
      rintro _ ⟨⟩ -
      refine .inl ⟨found, rfl, fun id => ?_⟩
      rcases done with rfl | nothing
      · simp
      · exact ⟨fun known => absurd known (isEmpty_iff.mp nothing id), And.left⟩
  | failed _ _ evaluated =>
      -- what fails has been disturbed
      rintro known ⟨⟩ small
      obtain ⟨-, settles⟩ := evaluate_leaves search window (postings _ List.mem_cons_self)
        (sound _ List.mem_cons_self) small
      rw [evaluated] at settles
      refine settles.imp_left ?_
      rintro ⟨_, ⟨⟩, _⟩
  | @went _ filter rest scans between _ matched _ _ _ evaluated _ ih =>
      rintro known ⟨⟩ small
      obtain ⟨here, later⟩ := List.forall_mem_cons.mp postings
      obtain ⟨hereSound, laterSound⟩ := List.forall_mem_cons.mp sound
      obtain ⟨same, settles⟩ := evaluate_leaves search window here hereSound small
      rw [evaluated] at same settles
      obtain ⟨_, ⟨⟩, members⟩ | ⟨⟨_, impossible⟩, -⟩ := settles
      · have inside : (leaving filter matched (some known)).size ≤ window.limit :=
          Nat.le_trans (size_le_of_subset fun id left => ((members id).mp left).1) small
        refine (ih (same.table ▸ later) laterSound _ rfl inside).imp ?_ ?_
        · rintro ⟨last, given, lastMembers⟩
          refine ⟨last, given, fun id => ?_⟩
          rw [lastMembers id, members id, same.table, and_assoc, List.forall_mem_cons]
        · exact And.imp_right fun disturbed calm => disturbed (calm.of_rereads same)
      · cases impossible

/-- A course that starts with nothing finds what was collected for its first filter and every filter
leaves in. -/
theorem Course.finds {seed : Filter} {others : List Filter} {scans after : ScanState}
    {steps : List Step} {result : Except SearchError IdentifierSet}
    (course : Course search window none (seed :: others) scans steps result after)
    (positive : seed.negative = false)
    (postings : ∀ filter ∈ seed :: others, filter.ReadsPostings scans.store.table)
    (sound : ∀ filter ∈ seed :: others, filter.Sound) :
    Settles (Calm search.deadline scans.store) result
      (search.Found window scans.store.table (seed :: others) seed) := by
  obtain ⟨seedPostings, laterPostings⟩ := List.forall_mem_cons.mp postings
  obtain ⟨seedSound, laterSound⟩ := List.forall_mem_cons.mp sound
  obtain ⟨same, settles⟩ := evaluate_collects search window seedPostings seedSound
  have full : within seed none = none := by simp [within]
  cases course with
  | failed _ _ evaluated =>
      rw [full] at evaluated
      rw [evaluated] at settles
      refine settles.imp_left ?_
      rintro ⟨_, ⟨⟩, _⟩
  | went _ evaluated more =>
      rw [full] at evaluated
      rw [evaluated] at same settles
      obtain ⟨_, ⟨⟩, rfl⟩ | ⟨⟨_, impossible⟩, -⟩ := settles
      · refine (more.narrows (same.table ▸ laterPostings) laterSound _ rfl
          (size_gather_le window.limit _)).imp ?_ ?_
        · rintro ⟨left, given, members⟩
          refine ⟨left, given, fun id => ?_⟩
          rw [members id, same.table, List.forall_mem_cons, leaving]
          exact and_congr_right fun found => (and_iff_right
            (leaves_of_collected search window seedPostings seedSound positive found)).symm
        · exact And.imp_right fun disturbed calm => disturbed (calm.of_rereads same)
      · cases impossible

/-- A search finds what was collected for its first filter and every filter leaves in. -/
theorem query_gives {σ : Type} [CostStore σ] (search : Search) (window : Window) (state : State σ)
    {set : FilterSet} (valid : set.validate = .ok ())
    (own : ∀ filter ∈ set.filters, filter.tenant = set.tenant)
    (postings : ∀ filter ∈ set.filters, filter.ReadsPostings state.scans.store.table)
    (sound : ∀ filter ∈ set.filters, filter.Sound) (ordered : window.first ≤ window.last) :
    ∃ seed, search.seed? set window state.costs = some seed ∧
      Settles (Calm search.deadline state.scans.store) (search.query set window state).1
        (search.Found window state.scans.store.table set.filters seed) := by
  obtain ⟨_, makes, -⟩ := query_makes search set window state
  obtain ⟨seed, others, taken, course⟩ := makes.course valid (stray?_eq_none own) ordered
  obtain ⟨split, positive⟩ := takeSeed?_some taken
  have members : ∀ {filter}, filter ∈ seed :: others ↔ filter ∈ set.filters :=
    (split.symm.trans (plan_perm _ set state.costs)).mem_iff
  refine ⟨seed, ?_, ?_⟩
  · rw [seed?, taken]
    rfl
  · refine (course.finds positive (fun filter inside => postings filter (members.mp inside))
      fun filter inside => sound filter (members.mp inside)).imp_left ?_
    rintro ⟨found, given, foundMembers⟩
    refine ⟨found, given, fun id => ?_⟩
    rw [foundMembers id]
    simp only [members]

end Narrowing

end SeriesIndex.Search
