import SeriesIndex.Proofs.Search.Exact
import SeriesIndex.Proofs.Search.Interruption
import SeriesIndex.Proofs.Writer.Faults

/-!
# Searches whose reads fail

A scan whose cursor is stopped by a failed read ends with an error and never with what it has found
so far. So a search whose reads fail gives the error of a scan, or the answer that it would give if
every read had succeeded, and has come to it in the same way.
-/

namespace SeriesIndex

/-- The state with its store on a medium on which no read fails. -/
def ScanState.mended (state : ScanState) : ScanState := { state with store := state.store.mended }

/-- The error is that of a scan. -/
def SearchError.IsScan (error : SearchError) : Prop :=
  ∃ activity filter cause, error = .scan activity filter cause

/-- A step that leads onto an item or ends without an error is the same on a medium on which no
read fails. -/
theorem Store.next_mended {store left : Store} {cursor after : Cursor} {more : Bool}
    (stepped : store.next cursor = (more, after, left))
    (sound : more = true ∨ after.failure = none) :
    store.mended.next cursor = (more, after, left.mended) := by
  cases read : store.medium.read store.reads with
  | some error =>
      rw [next_of_fault read] at stepped
      cases stepped
      rcases sound with moved | working
      · cases moved
      · cases working
  | none =>
      have mended : store.mended.medium.read store.mended.reads = none := rfl
      rw [next_of_read read] at stepped
      rw [next_of_read mended]
      cases stepped
      rfl

namespace Search

/-! ## Scans -/

section Scans

/-- The medium has no part in looking at the clock. -/
theorem lookAtClock_mended (deadline : Deadline) (pace : Pace) (state : ScanState) :
    lookAtClock deadline pace state.mended =
      ((lookAtClock deadline pace state).1, (lookAtClock deadline pace state).2.mended) := by
  unfold lookAtClock
  split
  · rfl
  · rfl

/-- A walk that is not ended by a failed read steps onto the same items, sees the same of the clock
and ends in the same way as on a sound medium. -/
theorem walk_exposes {rules : ScanRules} (failed : ∀ cause, (rules.failed cause).IsScan)
    (visit : Bytes → IdentifierSet → Except SearchError Progress) (cursor : Cursor) (pace : Pace)
    (found : IdentifierSet) (state : ScanState) :
    Exposes SearchError.IsScan ScanState.mended (walk rules visit cursor pace found state)
      (walk rules visit cursor pace found state.mended) := by
  have clock : ∀ (pace : Pace) (state : ScanState) (store : Store) (looked : Bool × ScanState),
      looked = lookAtClock rules.deadline pace { state with store := store } →
      lookAtClock rules.deadline pace { state.mended with store := store.mended } =
        (looked.1, looked.2.mended) := by
    rintro pace state store _ rfl
    exact lookAtClock_mended rules.deadline pace { state with store := store }
  -- only in the second case has a read failed; in all others the sound medium steps alike
  fun_induction walk rules visit cursor pace found state with
  | case1 cursor pace found state full =>
      rw [walk_of_full full]
      exact .same
  | case2 => exact .fault (failed _)
  | case3 cursor pace found state room after store stopped next working =>
      rw [walk_of_stop room (Store.next_mended stopped (.inr working)), working]
      exact .same
  | case4 cursor pace found state room ahead store moved looked passed =>
      rw [walk_of_item room (Store.next_mended moved (.inl rfl)), clock pace state store looked rfl,
        if_pos passed]
      exact .same
  | case5 cursor pace found state room ahead store moved looked early error refused =>
      rw [walk_of_item room (Store.next_mended moved (.inl rfl)), clock pace state store looked rfl,
        if_neg early, refused]
      exact .same
  | case6 cursor pace found state room ahead store moved looked early enough visited =>
      rw [walk_of_item room (Store.next_mended moved (.inl rfl)), clock pace state store looked rfl,
        if_neg early, visited]
      exact .same
  | case7 cursor pace found state room ahead store moved looked early more visited ih =>
      rw [walk_of_item room (Store.next_mended moved (.inl rfl)), clock pace state store looked rfl,
        if_neg early, visited]
      exact ih

variable (search : Search) (window : Window) (among : Option IdentifierSet)

theorem scanValues_exposes (filter : Filter) (suffixes : List Bytes) (found : IdentifierSet)
    (state : ScanState) :
    Exposes SearchError.IsScan ScanState.mended
      (search.scanValues filter window among suffixes found state)
      (search.scanValues filter window among suffixes found state.mended) := by
  induction suffixes generalizing found state with
  | nil => exact .same
  | cons suffix rest ih =>
      have here : Exposes SearchError.IsScan ScanState.mended
          (search.scanValue filter window among suffix found state)
          (search.scanValue filter window among suffix found state.mended) :=
        walk_exposes (fun cause => ⟨_, _, cause, rfl⟩) _ _ _ _ _
      rw [scanValues, scanValues]
      generalize search.scanValue filter window among suffix found state = failing at here ⊢
      generalize search.scanValue filter window among suffix found state.mended = sound at here ⊢
      cases here with
      | fault cause => exact .fault cause
      | @same result next =>
          cases result with
          | error error => exact .same
          | ok between =>
              dsimp only
              split
              · exact .same
              · exact ih between next

theorem evaluate_exposes (filter : Filter) (state : ScanState) :
    Exposes SearchError.IsScan ScanState.mended (search.evaluate filter window among state)
      (search.evaluate filter window among state.mended) := by
  rw [evaluate, evaluate]
  split
  · exact .same
  · exact scanValues_exposes search window among filter _ _ state
  · exact walk_exposes (fun cause => ⟨_, _, cause, rfl⟩) _ _ _ _ _

end Scans

/-! ## Whole searches -/

section Searches

variable {σ : Type}

/-- The state with its store on a medium on which no read fails. -/
def State.mended (state : State σ) : State σ := { state with scans := state.scans.mended }

variable [CostStore σ] (search : Search) (window : Window) (tenant : Tenant)

theorem proceed_exposes (found : Option IdentifierSet) (filter : Filter) {rest : List Filter}
    (later : ∀ (left : IdentifierSet) (state : State σ),
      Exposes SearchError.IsScan State.mended (search.narrow window tenant rest left state)
        (search.narrow window tenant rest left state.mended))
    (state : State σ) :
    Exposes SearchError.IsScan State.mended (proceed search window tenant found filter rest state)
      (proceed search window tenant found filter rest state.mended) := by
  have evaluated := evaluate_exposes search window (within filter found) filter state.scans
  have scans : state.mended.scans = state.scans.mended := rfl
  rw [proceed, proceed, scans]
  generalize search.evaluate filter window (within filter found) state.scans = failing
    at evaluated ⊢
  generalize search.evaluate filter window (within filter found) state.scans.mended = sound
    at evaluated ⊢
  cases evaluated with
  | fault cause => exact .fault cause
  | @same result next =>
      cases result with
      | error error => exact .same
      | ok matched =>
          dsimp only
          split
          · exact .same
          · exact later _ (state.after search window tenant ⟨filter, found, .ok matched⟩ next)

theorem narrow_exposes (filters : List Filter) (found : IdentifierSet) (state : State σ) :
    Exposes SearchError.IsScan State.mended (search.narrow window tenant filters found state)
      (search.narrow window tenant filters found state.mended) := by
  induction filters generalizing found state with
  | nil => exact .same
  | cons filter rest ih =>
      rw [narrow_cons, narrow_cons]
      exact proceed_exposes search window tenant (some found) filter ih state

theorem run_exposes (set : FilterSet) (filters : List Filter) (state : State σ) :
    Exposes SearchError.IsScan State.mended (search.run window set filters state)
      (search.run window set filters state.mended) := by
  cases taken : takeSeed? filters with
  | none =>
      rw [run, run, taken]
      exact .same
  | some chosen =>
      rw [run_of_taken search window set taken, run_of_taken search window set taken]
      exact proceed_exposes search window set.tenant none chosen.1
        (narrow_exposes search window set.tenant chosen.2) state

/-- A search gives the error of a scan or what it gives if no read fails. -/
theorem query_exposes (set : FilterSet) (state : State σ) :
    Exposes SearchError.IsScan State.mended (search.query set window state)
      (search.query set window state.mended) := by
  rw [query, query]
  dsimp only
  split
  · exact .same
  · exact .same
  · split
    · exact .same
    · exact run_exposes search window set _ { state with evaluations := [], costs := _ }

/-- Without a deadline a search that is allowed gives the error of a scan, or the answer that it
gives if no read fails. -/
theorem query_fails_or_answers {set : FilterSet} (built : set.Built) (valid : set.validate = .ok ())
    (timely : ∀ look, search.deadline.passedAt look = false) (state : State σ) :
    (∃ error, (search.query set window state).1 = .error error ∧ error.IsScan) ∨
      ∃ found, (search.query set window state).1 = .ok found ∧
        (search.query set window state.mended).1 = .ok found ∧
        (search.query set window state.mended).2.evaluations =
          (search.query set window state).2.evaluations := by
  have exposes := query_exposes search window set state
  have concludes := query_concludes search window built valid state
  generalize search.query set window state = failing at exposes concludes ⊢
  generalize search.query set window state.mended = sound at exposes ⊢
  cases exposes with
  | fault cause => exact .inl ⟨_, rfl, cause⟩
  | @same result next =>
      cases result with
      | ok found => exact .inr ⟨found, rfl, rfl, rfl⟩
      | error error =>
          cases concludes error rfl with
          | scan activity filter cause => exact .inl ⟨_, rfl, _, _, _, rfl⟩
          | late passed => cases (timely _).symm.trans passed

end Searches

end Search

/-- The first outcome is an error, or its result is that of the second. -/
def FailsOrAgrees {α ε σ : Type} (failing sound : Except ε α × σ) : Prop :=
  (∃ error, failing.1 = .error error) ∨ failing.1 = sound.1

theorem Exposes.failsOrAgrees {α ε σ : Type} {faulty : ε → Prop} {mend : σ → σ}
    {failing sound : Except ε α × σ} (exposes : Exposes faulty mend failing sound) :
    FailsOrAgrees failing sound := by
  cases exposes with
  | fault cause => exact .inl ⟨_, rfl⟩
  | same => exact .inr rfl

/-- A failed read is never taken for the end of the items: a search that has no deadline, a look at
the labels of a series or at its identifier and the indexing of a row fail, or do as if every read
had succeeded. No series that is in the table is registered again. -/
theorem fails_or_answers {σ : Type} [CostStore σ] :
    (∀ (search : Search) (set : FilterSet) (window : Search.Window) (state : Search.State σ),
      set.Built → set.validate = .ok () → (∀ look, search.deadline.passedAt look = false) →
        (∃ error, (search.query set window state).1 = .error error ∧ error.IsScan) ∨
          ∃ found, (search.query set window state).1 = .ok found ∧
            (search.query set window state.mended).1 = .ok found ∧
            (search.query set window state.mended).2.evaluations =
              (search.query set window state).2.evaluations) ∧
      (∀ (store : Store) (tenant : Tenant) (id : UInt64),
        FailsOrAgrees (store.seriesLabels tenant id) (store.mended.seriesLabels tenant id)) ∧
      (∀ (state : Writer.State) (tenant : Tenant) (labels : List Label),
        FailsOrAgrees (Writer.seriesId tenant labels state)
          (Writer.seriesId tenant labels state.mended)) ∧
      ∀ (state : Writer.State) (tenant : Tenant) (row : Row),
        FailsOrAgrees (Writer.indexRow tenant row state) (Writer.indexRow tenant row state.mended) ∧
          (Writer.Holds state.2.table tenant row.canonicalLabels →
            (Writer.indexRow tenant row state).2.1.nextId = state.1.nextId ∧
              ∀ owner others id,
                (Writer.indexRow tenant row state).2.2.table.Registers owner others id →
                  state.2.table.Registers owner others id) := by
  refine ⟨?_, ?_, ?_, ?_⟩
  · intro search set window state built valid timely
    exact Search.query_fails_or_answers search window built valid timely state
  · exact fun store tenant id => (store.seriesLabels_exposes tenant id).failsOrAgrees
  · exact fun state tenant labels => (Writer.seriesId_exposes tenant labels state).failsOrAgrees
  · intro state tenant row
    refine ⟨(Writer.indexRow_exposes tenant row state).failsOrAgrees, fun holds => ?_⟩
    obtain ⟨counter, registered⟩ := Writer.indexRow_of_holds holds
    exact ⟨counter, fun _ _ _ => registered⟩

/-! ## A sample -/

/-- All reads from one on fail. -/
def Medium.failingFrom (first : Nat) : Medium :=
  ⟨fun index => if index < first then none else some (.io "gone"), fun _ => none⟩

/-- A row without labels, and a table that has its series under the identifier 1. -/
def knownRow : Row := ⟨"m", [], 5, "1"⟩

def knownTable : Table :=
  Table.empty.insert (Writer.seriesKey ⟨0, 0⟩ knownRow.canonicalLabels ++ Bytes.ofWord64 1)

/-- A search loses its store after the first step, and a writer that remembers nothing meets a
series that is known to a store it cannot read. -/
theorem fails_or_answers_sample :
    ((∃ error, (Search.sampleSearch.query (Search.sampleSet false false) ⟨0, 86400000, 2⟩
          ⟨⟨⟨.memory, Search.sampleTable, .failingFrom 1, 0, 0⟩, 0⟩, RecentCosts.empty 16, []⟩).1 =
            .error error ∧ error.IsScan) ∨
        ∃ found, (Search.sampleSearch.query (Search.sampleSet false false) ⟨0, 86400000, 2⟩
          ⟨⟨⟨.memory, Search.sampleTable, .failingFrom 1, 0, 0⟩, 0⟩, RecentCosts.empty 16, []⟩).1 =
            .ok found) ∧
      (Writer.indexRow ⟨0, 0⟩ knownRow
        (.starting 2 1 4, ⟨.sqlite, knownTable, .failingFrom 0, 0, 0⟩)).2.1.nextId = 2 := by
  obtain ⟨searches, -, -, writes⟩ := @fails_or_answers RecentCosts _
  refine ⟨?_, ?_⟩
  · have outcome := searches Search.sampleSearch (Search.sampleSet false false) ⟨0, 86400000, 2⟩
      ⟨⟨⟨.memory, Search.sampleTable, .failingFrom 1, 0, 0⟩, 0⟩, RecentCosts.empty 16, []⟩
      (Search.sampleSet_built false false) rfl fun _ => rfl
    exact outcome.imp_right fun ⟨found, answered, _⟩ => ⟨found, answered⟩
  · have holds : Writer.Holds knownTable ⟨0, 0⟩ knownRow.canonicalLabels :=
      ⟨_, Table.mem_insert.mpr (.inl rfl), List.prefix_append _ _⟩
    exact ((writes _ ⟨0, 0⟩ knownRow).2 holds).1

end SeriesIndex
