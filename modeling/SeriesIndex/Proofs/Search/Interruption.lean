import SeriesIndex.Proofs.Search.Course

/-!
# What keeps a search from an answer

A search of a set that filters were added to either is refused because the set allows no search, or
it has an answer, or it is interrupted: a scan cannot go on because of an item or because its store
fails, or the deadline has passed. Nothing else happens to it, whatever the store holds.
-/

namespace SeriesIndex.Search

/-- What may end a search before it has an answer. -/
inductive Interruption (deadline : Deadline) : SearchError → Prop where
  | scan (activity : ScanActivity) (filter : String) (cause : StoreError) :
      Interruption deadline (.scan activity filter cause)
  | late {look : Nat} (passed : deadline.passedAt look = true) :
      Interruption deadline (.deadline deadline.timeout)

/-- Nothing but an interruption has kept the result from being an answer. -/
def Concludes {α : Type} (deadline : Deadline) (result : Except SearchError α) : Prop :=
  ∀ error, result = .error error → Interruption deadline error

section Results

variable {α : Type} {deadline : Deadline}

theorem concludes_ok (answer : α) : Concludes deadline (.ok answer) := nofun

theorem concludes_error {error : SearchError} (interruption : Interruption deadline error) :
    Concludes deadline (.error error : Except SearchError α) := by
  rintro _ ⟨⟩
  exact interruption

end Results

/-! ## Scans -/

section Scans

variable (search : Search) (window : Window) (among : Option IdentifierSet)

theorem walk_concludes {rules : ScanRules}
    {visit : Bytes → IdentifierSet → Except SearchError Progress}
    (failed : ∀ cause, Interruption rules.deadline (rules.failed cause))
    (visits : ∀ item found, Concludes rules.deadline (visit item found)) (cursor : Cursor)
    (pace : Pace) (found : IdentifierSet) (state : ScanState) :
    Concludes rules.deadline (walk rules visit cursor pace found state).1 := by
  fun_induction walk with
  | case1 => exact concludes_ok _
  | case2 cursor pace found state room stopped store _ after error failure =>
      exact concludes_error (failed error)
  | case3 => exact concludes_ok _
  | case4 cursor pace found state room ahead store _ looked passed =>
      exact concludes_error (.late (lookAtClock_passed passed))
  | case5 cursor pace found state room ahead store _ looked early error refused =>
      exact concludes_error (visits _ _ error refused)
  | case6 => exact concludes_ok _
  | case7 cursor pace found state room ahead store _ looked early found more ih => exact ih

theorem scanValue_concludes (filter : Filter) (suffix : Bytes) (found : IdentifierSet)
    (state : ScanState) :
    Concludes search.deadline (search.scanValue filter window among suffix found state).1 := by
  apply walk_concludes
  · exact fun cause => .scan _ _ cause
  · intro item found
    dsimp only
    split
    · exact concludes_ok _
    · split
      · exact concludes_error (.scan _ _ _)
      · exact concludes_ok _

theorem scanValues_concludes (filter : Filter) (suffixes : List Bytes) (found : IdentifierSet)
    (state : ScanState) :
    Concludes search.deadline (search.scanValues filter window among suffixes found state).1 := by
  induction suffixes generalizing found state with
  | nil => exact concludes_ok _
  | cons suffix rest ih =>
      have here := scanValue_concludes search window among filter suffix found state
      rw [scanValues]
      split
      · next scanned =>
          rw [scanned] at here
          exact here
      · split
        · exact concludes_ok _
        · exact ih _ _

theorem scanAll_concludes (filter : Filter) (pattern : Pattern) (state : ScanState) :
    Concludes search.deadline (search.scanAll filter window among pattern state).1 := by
  apply walk_concludes
  · exact fun cause => .scan _ _ cause
  · intro item found
    dsimp only
    split
    · exact concludes_ok _
    · split
      · exact concludes_error (.scan _ _ _)
      · split
        · exact concludes_error (.scan _ _ _)
        · split
          · exact concludes_ok _
          · exact concludes_ok _

/-- A filter that can be evaluated has a value to look for. -/
theorem evaluate_concludes {filter : Filter} (sound : filter.Sound) (state : ScanState) :
    Concludes search.deadline (search.evaluate filter window among state).1 := by
  unfold Filter.Sound at sound
  rw [evaluate]
  split
  · next nothing =>
      rw [nothing] at sound
      exact absurd rfl sound
  · exact scanValues_concludes search window among filter _ _ _
  · exact scanAll_concludes search window among filter _ _

end Scans

/-! ## Whole searches -/

section Searches

variable {σ : Type} [CostStore σ] (search : Search) (window : Window)

variable {search window} in
/-- Nothing but an interruption ends a course of filters that can be evaluated. -/
theorem Course.concludes {found : Option IdentifierSet} {filters : List Filter}
    {scans after : ScanState} {steps : List Step} {result : Except SearchError IdentifierSet}
    (course : Course search window found filters scans steps result after)
    (sound : ∀ filter ∈ filters, filter.Sound) : Concludes search.deadline result := by
  induction course with
  | finished => exact concludes_ok _
  | @failed found filter rest scans _ _ _ evaluated =>
      have here := evaluate_concludes search window (within filter found)
        (sound filter List.mem_cons_self) scans
      rwa [evaluated] at here
  | went _ _ _ ih => exact ih (List.forall_mem_cons.mp sound).2

/-- A search that the set of filters allows has an answer, unless it is interrupted. -/
theorem query_concludes {set : FilterSet} (built : set.Built) (valid : set.validate = .ok ())
    (state : State σ) : Concludes search.deadline (search.query set window state).1 := by
  obtain ⟨steps, makes, -⟩ := query_makes search set window state
  generalize (search.query set window state).2.scans = after at makes
  generalize (search.query set window state).1 = result at makes ⊢
  have own := stray?_of_built built
  cases makes with
  | refused invalid => cases valid.symm.trans invalid
  | stray _ outside => cases own.symm.trans outside
  | inverted => exact concludes_ok _
  | evaluates _ _ _ taken course =>
      have members := (takeSeed?_some taken).1.symm.trans
        (plan_perm (search.date window) set state.costs)
      exact course.concludes fun filter inside =>
        (built.made filter (members.mem_iff.mp inside)).sound

end Searches

end SeriesIndex.Search
