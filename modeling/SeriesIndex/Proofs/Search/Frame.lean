import SeriesIndex.Proofs.Search.Course
import SeriesIndex.Writer

/-!
# Searching leaves the table as it is

A search reads the store and writes nothing, whatever the table holds and whichever reads fail. So
does a look at the labels of a series.
-/

namespace SeriesIndex

namespace Search

section Frame

variable (search : Search) (window : Window) {filter : Filter} {among : Option IdentifierSet}

theorem scanValues_rereads (suffixes : List Bytes) (found : IdentifierSet) (state : ScanState) :
    state.store.Rereads
      (search.scanValues filter window among suffixes found state).2.store := by
  induction suffixes generalizing found state with
  | nil => exact .refl _
  | cons suffix rest ih =>
      have here : state.store.Rereads
          (search.scanValue filter window among suffix found state).2.store :=
        (scan_eq_pass _ _ _ _ _).1
      rw [scanValues]
      split
      · next scanned =>
          rw [scanned] at here
          exact here
      · next next scanned =>
          rw [scanned] at here
          split
          · exact here
          · exact here.trans (ih _ next)

theorem evaluate_rereads (filter : Filter) (among : Option IdentifierSet) (state : ScanState) :
    state.store.Rereads (search.evaluate filter window among state).2.store := by
  rw [evaluate]
  split
  · exact .refl _
  · exact scanValues_rereads search window _ _ _
  · exact (scan_eq_pass _ _ _ _ _).1

variable {σ : Type} [CostStore σ]

variable {search window} in
/-- The evaluations of a search read one after another. -/
theorem Course.rereads {found : Option IdentifierSet} {filters : List Filter}
    {scans after : ScanState} {steps : List Step} {result : Except SearchError IdentifierSet}
    (course : Course search window found filters scans steps result after) :
    scans.store.Rereads after.store := by
  induction course with
  | finished => exact .refl _
  | @failed found filter _ scans _ _ _ evaluated =>
      have here := evaluate_rereads search window filter (within filter found) scans
      rwa [evaluated] at here
  | @went found filter _ scans _ _ _ _ _ _ evaluated _ ih =>
      have here := evaluate_rereads search window filter (within filter found) scans
      rw [evaluated] at here
      exact here.trans ih

variable {search window} in
theorem Makes.rereads {set : FilterSet} {state : State σ} {steps : List Step}
    {result : Except SearchError IdentifierSet} {after : ScanState}
    (makes : Makes search set window state steps result after) :
    state.scans.store.Rereads after.store := by
  cases makes with
  | refused => exact .refl _
  | stray => exact .refl _
  | inverted => exact .refl _
  | evaluates _ _ _ _ course => exact course.rereads

/-- A search only reads. -/
theorem query_rereads (set : FilterSet) (state : State σ) :
    state.scans.store.Rereads (search.query set window state).2.scans.store := by
  obtain ⟨_, makes, -⟩ := query_makes search set window state
  exact makes.rereads

end Frame

end Search

namespace Store

theorem firstWithPrefix_rereads (store : Store) (start : Bytes) :
    store.Rereads (store.firstWithPrefix start).2 := by
  cases read : store.medium.read store.reads with
  | none =>
      rw [firstWithPrefix_of_read read]
      exact ⟨rfl, rfl, rfl⟩
  | some error =>
      rw [firstWithPrefix_of_fault read]
      exact ⟨rfl, rfl, rfl⟩

theorem seriesLabels_rereads (store : Store) (tenant : Tenant) (id : UInt64) :
    store.Rereads (store.seriesLabels tenant id).2 := by
  have here := store.firstWithPrefix_rereads (Key.labels tenant id)
  rw [seriesLabels]
  split
  all_goals
    next looked =>
      rw [looked] at here
      exact here

end Store

end SeriesIndex
