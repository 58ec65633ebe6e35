import SeriesIndex.Proofs.Search.Seed

/-!
# Courses of searches

A search evaluates its filters one after another. The first filter and the negative ones are
evaluated in full, any other within what has been found so far. The search ends when nothing is
left, when all filters have been evaluated, or when an evaluation fails. What it notes and which
costs it remembers follow from the evaluations that it has made.
-/

namespace SeriesIndex.Search

/-! ## Evaluations -/

/-- The set within which a filter is evaluated: what has been found so far, if anything has been
looked for, unless the filter is negative. -/
def within (filter : Filter) (found : Option IdentifierSet) : Option IdentifierSet :=
  if filter.negative then none else found

/-- What a filter that matches these identifiers leaves of what has been found so far. -/
def leaving (filter : Filter) (matched : IdentifierSet) : Option IdentifierSet → IdentifierSet
  | none => matched
  | some found =>
      if filter.negative then found.difference matched else found.intersection matched

/-- An evaluation of a filter that a search makes, what it had found so far, and what came of it. -/
structure Step where
  filter : Filter
  found : Option IdentifierSet
  result : Except SearchError IdentifierSet

namespace Step

/-- The evaluation collects all that the filter matches, and not only what has been found already.
-/
def isFull (step : Step) : Bool := (within step.filter step.found).isNone

theorem isFull_eq (step : Step) : step.isFull = (step.found.isNone || step.filter.negative) := by
  rw [isFull, within]
  split
  · next negative => simp [negative]
  · next positive => simp [positive]

/-- What the search notes of the evaluation, if it did not fail. -/
def note? (step : Step) : Option Evaluation :=
  match step.result with
  | .error _ => none
  | .ok matched => some
      ⟨step.filter.render, step.filter.negative, !step.isFull, matched.size,
        (leaving step.filter matched step.found).size⟩

/-- How many identifiers the evaluation gave; one that failed counts as if it had given as many as
the limit allows. -/
def count (limit : Nat) (step : Step) : Nat :=
  match step.result with
  | .error _ => limit
  | .ok matched => matched.size

variable {σ : Type} [CostStore σ]

/-- The costs that are remembered after the evaluation: only a full one is told to the store. -/
def remember (date : UInt64) (tenant : Tenant) (limit : Nat) (costs : σ) (step : Step) : σ :=
  if step.isFull then
    CostCache.record costs date tenant step.filter (UInt64.ofNat (step.count limit))
  else costs

end Step

/-! ## Courses -/

/-- Evaluations that a search makes of these filters, after what it has found, from one state of its
store to another, and the result that it comes to. -/
inductive Course (search : Search) (window : Window) :
    Option IdentifierSet → List Filter → ScanState → List Step →
      Except SearchError IdentifierSet → ScanState → Prop where
  | finished {found : IdentifierSet} {filters : List Filter} (scans : ScanState)
      (done : filters = [] ∨ found.isEmpty = true) :
      Course search window (some found) filters scans [] (.ok found) scans
  | failed {found : Option IdentifierSet} {filter : Filter} (rest : List Filter)
      {scans after : ScanState} {error : SearchError}
      (goesOn : ∀ set ∈ found, set.isEmpty = false)
      (evaluated : search.evaluate filter window (within filter found) scans =
        (.error error, after)) :
      Course search window found (filter :: rest) scans [⟨filter, found, .error error⟩]
        (.error error) after
  | went {found : Option IdentifierSet} {filter : Filter} {rest : List Filter}
      {scans between after : ScanState} {matched : IdentifierSet} {steps : List Step}
      {result : Except SearchError IdentifierSet} (goesOn : ∀ set ∈ found, set.isEmpty = false)
      (evaluated : search.evaluate filter window (within filter found) scans =
        (.ok matched, between))
      (more : Course search window (some (leaving filter matched found)) rest between steps result
        after) :
      Course search window found (filter :: rest) scans (⟨filter, found, .ok matched⟩ :: steps)
        result after

section Courses

variable {σ : Type} [CostStore σ] (search : Search) (window : Window) (tenant : Tenant)

/-- The state after an evaluation. -/
def State.after (search : Search) (window : Window) (tenant : Tenant) (state : State σ)
    (step : Step) (scans : ScanState) : State σ :=
  ⟨scans, step.remember (search.date window) tenant window.limit state.costs,
    state.evaluations ++ step.note?.toList⟩

/-- Evaluates a filter and goes on with what it leaves. -/
def proceed (found : Option IdentifierSet) (filter : Filter) (rest : List Filter)
    (state : State σ) : Except SearchError IdentifierSet × State σ :=
  match search.evaluate filter window (within filter found) state.scans with
  | (.error error, scans) =>
      (.error error, state.after search window tenant ⟨filter, found, .error error⟩ scans)
  | (.ok matched, scans) =>
      let left := leaving filter matched found
      let state := state.after search window tenant ⟨filter, found, .ok matched⟩ scans
      if left.isEmpty then (.ok left, state) else search.narrow window tenant rest left state

theorem narrow_cons (filter : Filter) (rest : List Filter) (found : IdentifierSet)
    (state : State σ) :
    search.narrow window tenant (filter :: rest) found state =
      proceed search window tenant (some found) filter rest state := by
  rw [narrow, proceed]
  by_cases negative : filter.negative = true
  · have full : within filter (some found) = none := if_pos negative
    rw [if_pos negative, full, measure]
    generalize search.evaluate filter window none state.scans = outcome
    obtain ⟨result, scans⟩ := outcome
    cases result with
    | error error =>
        simp [State.after, Step.remember, Step.isFull, Step.count, Step.note?, full]
    | ok matched =>
        simp [State.after, State.note, Step.remember, Step.isFull, Step.count, Step.note?, full,
          leaving, negative]
  · have restricted : within filter (some found) = some found := if_neg negative
    rw [if_neg negative, restricted]
    generalize search.evaluate filter window (some found) state.scans = outcome
    obtain ⟨result, scans⟩ := outcome
    cases result with
    | error error =>
        simp [State.after, Step.remember, Step.isFull, Step.note?, restricted]
    | ok matched =>
        simp [State.after, State.note, Step.remember, Step.isFull, Step.note?, restricted,
          leaving, negative]

theorem run_of_taken (set : FilterSet) {filters others : List Filter} {seed : Filter}
    (taken : takeSeed? filters = some (seed, others)) (state : State σ) :
    search.run window set filters state =
      proceed search window set.tenant none seed others state := by
  have positive : seed.negative = false := (takeSeed?_some taken).2
  have full : within seed none = none := by simp [within]
  rw [run, taken, proceed]
  dsimp only
  rw [full, measure]
  generalize search.evaluate seed window none state.scans = outcome
  obtain ⟨result, scans⟩ := outcome
  cases result with
  | error error =>
      simp [State.after, Step.remember, Step.isFull, Step.count, Step.note?, full]
  | ok matched =>
      simp [State.after, State.note, Step.remember, Step.isFull, Step.count, Step.note?, full,
        leaving, positive]

/-- A search has made these evaluations on its way from a state to an outcome. -/
structure Came (found : Option IdentifierSet) (filters : List Filter) (before : State σ)
    (steps : List Step) (outcome : Except SearchError IdentifierSet × State σ) : Prop where
  course : Course search window found filters before.scans steps outcome.1 outcome.2.scans
  notes : outcome.2.evaluations = before.evaluations ++ steps.filterMap Step.note?
  costs : outcome.2.costs =
    steps.foldl (Step.remember (search.date window) tenant window.limit) before.costs

variable {search window tenant}

/-- One evaluation is followed by those of what it leaves. -/
theorem came_of_proceed {found : Option IdentifierSet} {filter : Filter} {rest : List Filter}
    (state : State σ) (goesOn : ∀ set ∈ found, set.isEmpty = false)
    (later : ∀ (left : IdentifierSet) (next : State σ), ∃ steps,
      Came search window tenant (some left) rest next steps
        (if left.isEmpty then (.ok left, next) else search.narrow window tenant rest left next)) :
    ∃ steps, Came search window tenant found (filter :: rest) state steps
      (proceed search window tenant found filter rest state) := by
  rw [proceed]
  cases evaluated : search.evaluate filter window (within filter found) state.scans with
  | mk result scans =>
      cases result with
      | error error =>
          exact ⟨_, .failed rest goesOn evaluated, by simp [State.after, Step.note?], rfl⟩
      | ok matched =>
          obtain ⟨steps, came⟩ := later (leaving filter matched found)
            (state.after search window tenant ⟨filter, found, .ok matched⟩ scans)
          refine ⟨_, .went goesOn evaluated came.course, ?_, came.costs⟩
          rw [came.notes, State.after, List.append_assoc]
          rfl

/-- Narrowing makes the evaluations of a course. -/
theorem narrow_came (filters : List Filter) (found : IdentifierSet) (state : State σ) :
    ∃ steps, Came search window tenant (some found) filters state steps
      (if found.isEmpty then (.ok found, state)
        else search.narrow window tenant filters found state) := by
  induction filters generalizing found state with
  | nil =>
      refine ⟨[], ?_⟩
      split
      · exact ⟨.finished _ (.inl rfl), (List.append_nil _).symm, rfl⟩
      · exact ⟨.finished _ (.inl rfl), (List.append_nil _).symm, rfl⟩
  | cons filter rest ih =>
      split
      · next nothing => exact ⟨[], .finished _ (.inr nothing), (List.append_nil _).symm, rfl⟩
      · next some_ =>
          rw [narrow_cons]
          refine came_of_proceed state ?_ ih
          rintro _ ⟨⟩
          simpa using some_

/-- So does a run. -/
theorem run_came (set : FilterSet) {filters others : List Filter} {seed : Filter}
    (taken : takeSeed? filters = some (seed, others)) (state : State σ) :
    ∃ steps, Came search window set.tenant none (seed :: others) state steps
      (search.run window set filters state) := by
  rw [run_of_taken search window set taken]
  exact came_of_proceed state nofun (narrow_came others)

end Courses

/-! ## Costs of another kind -/

section Translations

variable {σ τ : Type} [CostStore σ] [CostStore τ] {translate : σ → τ}

/-- The state with its costs in another store. -/
def State.onCosts (translate : σ → τ) (state : State σ) : State τ :=
  ⟨state.scans, translate state.costs, state.evaluations⟩

omit [CostStore σ] [CostStore τ] in
theorem State.onCosts_scans (state : State σ) : (state.onCosts translate).scans = state.scans :=
  rfl

/-- Whatever is written to one store changes the other as if it had been written there too. -/
def Follows (translate : σ → τ) : Prop :=
  ∀ (costs : σ) (key value : Bytes),
    (CostStore.set (translate costs) key value).2 = translate (CostStore.set costs key value).2

theorem State.after_onCosts (follows : Follows translate) (search : Search) (window : Window)
    (tenant : Tenant) (state : State σ) (step : Step) (scans : ScanState) :
    (state.onCosts translate).after search window tenant step scans =
      (state.after search window tenant step scans).onCosts translate := by
  unfold State.after Step.remember
  split
  · exact congrArg (State.mk scans · _) (follows _ _ _)
  · rfl

variable (search : Search) (window : Window) (tenant : Tenant)

theorem proceed_onCosts (follows : Follows translate) (found : Option IdentifierSet)
    (filter : Filter) {rest : List Filter}
    (later : ∀ (left : IdentifierSet) (state : State σ),
      search.narrow window tenant rest left (state.onCosts translate) =
        (search.narrow window tenant rest left state).map id (State.onCosts translate))
    (state : State σ) :
    proceed search window tenant found filter rest (state.onCosts translate) =
      (proceed search window tenant found filter rest state).map id
        (State.onCosts translate) := by
  rw [proceed, proceed, State.onCosts_scans]
  cases search.evaluate filter window (within filter found) state.scans with
  | mk result scans =>
      cases result with
      | error error => exact congrArg (Except.error error, ·) (State.after_onCosts follows ..)
      | ok matched =>
          dsimp only
          rw [State.after_onCosts follows]
          split
          · rfl
          · exact later _ _

/-- Narrowing does not depend on the costs that are remembered. -/
theorem narrow_onCosts (follows : Follows translate) (filters : List Filter)
    (found : IdentifierSet) (state : State σ) :
    search.narrow window tenant filters found (state.onCosts translate) =
      (search.narrow window tenant filters found state).map id (State.onCosts translate) := by
  induction filters generalizing found state with
  | nil => rfl
  | cons filter rest ih =>
      rw [narrow_cons, narrow_cons]
      exact proceed_onCosts search window tenant follows (some found) filter ih state

/-- Neither does a whole run. -/
theorem run_onCosts (follows : Follows translate) (set : FilterSet) (filters : List Filter)
    (state : State σ) :
    search.run window set filters (state.onCosts translate) =
      (search.run window set filters state).map id (State.onCosts translate) := by
  cases taken : takeSeed? filters with
  | none => simp [run, taken, Prod.map]
  | some chosen =>
      rw [run_of_taken search window set taken, run_of_taken search window set taken]
      exact proceed_onCosts search window set.tenant follows none chosen.1
        (narrow_onCosts search window set.tenant follows chosen.2) state

end Translations

/-! ## Whole searches -/

section Searches

variable {σ : Type} [CostStore σ] (search : Search) (set : FilterSet) (window : Window)

/-- The evaluations that a search for a set of filters makes and what it comes to. It makes none if
the set is refused or the window ends before it begins. Otherwise it evaluates the seed of its plan
and then the other filters. -/
inductive Makes (state : State σ) : List Step → Except SearchError IdentifierSet → ScanState → Prop
    where
  | refused {error : SearchError} (invalid : set.validate = .error error) :
      Makes state [] (.error error) state.scans
  | stray {filter : Filter} (valid : set.validate = .ok ()) (outside : stray? set = some filter) :
      Makes state [] (.error (.otherTenant filter.render)) state.scans
  | inverted (valid : set.validate = .ok ()) (own : stray? set = none)
      (inverted : window.last < window.first) : Makes state [] (.ok .empty) state.scans
  | evaluates {seed : Filter} {others : List Filter} {steps : List Step}
      {result : Except SearchError IdentifierSet} {after : ScanState}
      (valid : set.validate = .ok ()) (own : stray? set = none)
      (ordered : window.first ≤ window.last)
      (taken : takeSeed? (plan (search.date window) set state.costs).1 = some (seed, others))
      (course : Course search window none (seed :: others) state.scans steps result after) :
      Makes state steps result after

variable {search set window} in
/-- A search that nothing keeps from its evaluations makes those of a course. -/
theorem Makes.course {state : State σ} {steps : List Step}
    {result : Except SearchError IdentifierSet} {after : ScanState}
    (makes : Makes search set window state steps result after) (valid : set.validate = .ok ())
    (own : stray? set = none) (ordered : window.first ≤ window.last) :
    ∃ seed others, takeSeed? (plan (search.date window) set state.costs).1 = some (seed, others) ∧
      Course search window none (seed :: others) state.scans steps result after := by
  cases makes with
  | refused invalid => cases valid.symm.trans invalid
  | stray _ outside => cases own.symm.trans outside
  | inverted _ _ inverted => exact absurd ordered (UInt64.not_le.mpr inverted)
  | evaluates _ _ _ taken course => exact ⟨_, _, taken, course⟩

/-- What a search notes and which costs it remembers are those of its evaluations. The costs that it
starts from are the given ones, or what looking them up for a plan has made of them. -/
theorem query_makes (state : State σ) :
    ∃ steps, Makes search set window state steps (search.query set window state).1
        (search.query set window state).2.scans ∧
      (search.query set window state).2.evaluations = steps.filterMap Step.note? ∧
      ∃ costs, (costs = state.costs ∨ costs = (plan (search.date window) set state.costs).2) ∧
        (search.query set window state).2.costs =
          steps.foldl (Step.remember (search.date window) set.tenant window.limit) costs := by
  rw [query]
  cases allowed : set.validate with
  | error error => exact ⟨[], .refused allowed, rfl, _, .inl rfl, rfl⟩
  | ok =>
      cases own : stray? set with
      | some filter => exact ⟨[], .stray allowed own, rfl, _, .inl rfl, rfl⟩
      | none =>
          dsimp only
          split
          · next inverted => exact ⟨[], .inverted allowed own inverted, rfl, _, .inl rfl, rfl⟩
          · next ordered =>
              obtain ⟨seed, others, taken⟩ :=
                exists_seed allowed (search.date window) state.costs
              obtain ⟨steps, came⟩ := run_came set taken
                { state with
                  evaluations := []
                  costs := (plan (search.date window) set state.costs).2 }
              exact ⟨steps, .evaluates allowed own (UInt64.not_lt.mp ordered) taken came.course,
                came.notes, _, .inr rfl, came.costs⟩

end Searches

end SeriesIndex.Search
