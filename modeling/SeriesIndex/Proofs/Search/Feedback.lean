import SeriesIndex.Proofs.Search.Plan

/-!
# What a search tells its cost store

A search reads costs before its first evaluation and writes some after it. It writes the count of
each evaluation that it makes in full, in their order, and nothing else. What the store does with a
write makes no difference to the search.
-/

namespace SeriesIndex

/-! ## Stores made of other stores -/

/-- A store with the writes that have been made to it, accepted or not. -/
structure Logged (σ : Type) where
  store : σ
  writes : List (Bytes × Bytes)

/-- A store that answers as before, and to which writes do something else. -/
structure Rewired (σ : Type) (write : σ → Bytes → Bytes → Bool × σ) where
  store : σ

section Stores

variable {σ : Type} [CostStore σ]

instance : CostStore (Logged σ) where
  get costs key := (CostStore.get costs.store key).map id (⟨·, costs.writes⟩)
  set costs key value :=
    (CostStore.set costs.store key value).map id (⟨·, costs.writes ++ [(key, value)]⟩)

instance {write : σ → Bytes → Bytes → Bool × σ} : CostStore (Rewired σ write) where
  get costs key := (CostStore.get costs.store key).map id (⟨·⟩)
  set costs key value := (write costs.store key value).map id (⟨·⟩)

end Stores

namespace Search

/-! ## Writes -/

namespace Step

/-- The write that tells a store of a full evaluation. -/
def write (date : UInt64) (tenant : Tenant) (limit : Nat) (step : Step) : Bytes × Bytes :=
  (CostCache.key date tenant step.filter, Bytes.ofWord64 (UInt64.ofNat (step.count limit)))

end Step

section Writes

variable {σ : Type} [CostStore σ] (date : UInt64) (tenant : Tenant) (limit : Nat)

theorem remember_writes (costs : Logged σ) (step : Step) :
    (step.remember date tenant limit costs).writes =
      costs.writes ++ ([step].filter Step.isFull).map (Step.write date tenant limit) := by
  rw [Step.remember, List.filter_singleton]
  cases step.isFull with
  | true => rfl
  | false => exact (List.append_nil _).symm

/-- The evaluations of a search are written in their order. -/
theorem foldl_remember_writes (steps : List Step) (costs : Logged σ) :
    (steps.foldl (Step.remember date tenant limit) costs).writes =
      costs.writes ++ (steps.filter Step.isFull).map (Step.write date tenant limit) := by
  induction steps generalizing costs with
  | nil => exact (List.append_nil _).symm
  | cons step rest ih =>
      rw [List.foldl_cons, ih, remember_writes, List.append_assoc, ← List.map_append,
        ← List.filter_append, List.singleton_append]

/-- A plan writes nothing. -/
theorem plan_writes (set : FilterSet) (costs : Logged σ) :
    (plan date set costs).2.writes = costs.writes := by
  change (withCosts date set.tenant set.filters costs).2.writes = costs.writes
  induction set.filters generalizing costs with
  | nil => rfl
  | cons filter rest ih =>
      rw [withCosts, CostCache.estimatedCost_eq]
      exact ih _

end Writes

/-- In full are evaluated the first filter of a course and the negative ones. -/
theorem Course.isFull_iff {search : Search} {window : Window} {found : Option IdentifierSet}
    {filters : List Filter} {scans after : ScanState} {steps : List Step}
    {result : Except SearchError IdentifierSet}
    (course : Course search window found filters scans steps result after) :
    ∀ i step, steps[i]? = some step →
      (step.isFull = true ↔ (found = none ∧ i = 0) ∨ step.filter.negative = true) := by
  induction course with
  | finished => rintro i step ⟨⟩
  | failed =>
      intro i step made
      cases i with
      | zero =>
          cases made
          simp [Step.isFull_eq]
      | succ i => cases made
  | went _ _ _ ih =>
      intro i step made
      cases i with
      | zero =>
          cases made
          simp [Step.isFull_eq]
      | succ i =>
          refine (ih i step made).trans ?_
          simp

section Evaluations

variable {σ : Type} [CostStore σ] {search : Search} {set : FilterSet} {window : Window}
  {state : State σ} {steps : List Step} {result : Except SearchError IdentifierSet}
  {after : ScanState}

theorem Makes.isFull_iff (makes : Makes search set window state steps result after) :
    ∀ i step, steps[i]? = some step →
      (step.isFull = true ↔ i = 0 ∨ step.filter.negative = true) := by
  cases makes with
  | refused => rintro i step ⟨⟩
  | stray => rintro i step ⟨⟩
  | inverted => rintro i step ⟨⟩
  | evaluates _ _ _ _ course => simpa using course.isFull_iff

/-- A search that is refused, or whose window ends before it begins, evaluates nothing. -/
theorem Makes.eq_nil (makes : Makes search set window state steps result after)
    (idle : set.validate ≠ .ok () ∨ stray? set ≠ none ∨ window.last < window.first) :
    steps = [] := by
  cases makes with
  | refused => rfl
  | stray => rfl
  | inverted => rfl
  | evaluates valid own ordered =>
      rcases idle with invalid | outside | inverted
      · exact absurd valid invalid
      · exact absurd own outside
      · exact absurd inverted (UInt64.not_lt.mpr ordered)

end Evaluations

/-! ## Searches with other stores -/

section Stores

variable {σ τ ρ : Type} [CostStore σ] [CostStore τ] [CostStore ρ]

/-- Two stores answer alike, now and after the question. -/
def AnswersAlike (translate : σ → τ) : Prop :=
  ∀ (costs : σ) (key : Bytes),
    CostStore.get (translate costs) key = (CostStore.get costs key).map id translate

theorem withCosts_of_alike {translate : σ → τ} (alike : AnswersAlike translate) (date : UInt64)
    (tenant : Tenant) (filters : List Filter) (costs : σ) :
    withCosts date tenant filters (translate costs) =
      (withCosts date tenant filters costs).map id translate := by
  induction filters generalizing costs with
  | nil => rfl
  | cons filter rest ih =>
      rw [withCosts, withCosts, CostCache.estimatedCost_eq, CostCache.estimatedCost_eq, alike]
      dsimp only [Prod.map, id]
      rw [ih]
      rfl

theorem plan_of_alike {translate : σ → τ} (alike : AnswersAlike translate) (date : UInt64)
    (set : FilterSet) (costs : σ) :
    plan date set (translate costs) = (plan date set costs).map id translate := by
  rw [plan, plan, withCosts_of_alike alike]
  rfl

/-- Searches with stores that answer alike come to the same, and to the same costs as far as the two
stores follow the same writes. -/
theorem query_of_alike {translate : σ → τ} {left : τ → ρ} {right : σ → ρ}
    (alike : AnswersAlike translate) (leftFollows : Follows left) (rightFollows : Follows right)
    (same : ∀ costs, left (translate costs) = right costs) (search : Search) (set : FilterSet)
    (window : Window) (state : State σ) :
    (search.query set window (state.onCosts translate)).map id (State.onCosts left) =
      (search.query set window state).map id (State.onCosts right) := by
  have alikeFrom : ∀ costs, (State.mk state.scans (translate costs) []).onCosts left =
      (State.mk state.scans costs []).onCosts right := fun costs =>
    congrArg (State.mk state.scans · []) (same costs)
  -- a search that is refused asks nothing; a plan only asks, and what follows it only writes
  rw [query, query]
  cases set.validate with
  | error error => exact Prod.ext rfl (alikeFrom state.costs)
  | ok =>
      cases stray? set with
      | some filter => exact Prod.ext rfl (alikeFrom state.costs)
      | none =>
          dsimp only
          split
          · exact Prod.ext rfl (alikeFrom state.costs)
          · rw [State.onCosts, plan_of_alike alike]
            dsimp only [Prod.map, id]
            exact (run_onCosts search window leftFollows set _ _).symm.trans
              ((congrArg _ (alikeFrom _)).trans (run_onCosts search window rightFollows set _ _))

/-- A search makes full evaluations of the first filter that it evaluates and of negative ones. For
each of them it writes the number of identifiers that it gave, or the limit if it failed, and it
writes nothing else, in particular nothing if it makes no evaluations. It would come to the same,
and leave the same costs, without a log of its writes. Whatever became of the writes, it would have
the same result, make the same evaluations and read the same items. -/
theorem query_records (search : Search) (set : FilterSet) (window : Window)
    (state : State (Logged σ)) :
    (∃ steps, Makes search set window state steps (search.query set window state).1
        (search.query set window state).2.scans ∧
      (search.query set window state).2.evaluations = steps.filterMap Step.note? ∧
      (∀ i step, steps[i]? = some step →
        (step.isFull = true ↔ i = 0 ∨ step.filter.negative = true)) ∧
      (search.query set window state).2.costs.writes = state.costs.writes ++
        (steps.filter Step.isFull).map fun step =>
          (CostCache.key (window.first / search.bucketWidth) set.tenant step.filter,
            Bytes.ofWord64 (UInt64.ofNat (step.count window.limit)))) ∧
    (set.validate ≠ .ok () ∨ stray? set ≠ none ∨ window.last < window.first →
      (search.query set window state).2.costs.writes = state.costs.writes) ∧
    search.query set window (state.onCosts Logged.store) =
      (search.query set window state).map id (State.onCosts Logged.store) ∧
    ∀ write : σ → Bytes → Bytes → Bool × σ,
      let rewired := search.query set window
        (state.onCosts fun costs => (⟨costs.store⟩ : Rewired σ write))
      rewired.1 = (search.query set window state).1 ∧
        rewired.2.evaluations = (search.query set window state).2.evaluations ∧
        rewired.2.scans = (search.query set window state).2.scans := by
  obtain ⟨steps, makes, notes, costs, start, costsAfter⟩ := query_makes search set window state
  have before : costs.writes = state.costs.writes := by
    rcases start with rfl | rfl
    · rfl
    · exact plan_writes _ set state.costs
  have writes := congrArg Logged.writes costsAfter
  rw [foldl_remember_writes, before] at writes
  refine ⟨⟨steps, makes, notes, makes.isFull_iff, writes⟩, ?_, ?_, ?_⟩
  · intro idle
    rw [writes, makes.eq_nil idle]
    exact List.append_nil _
  · have alike : AnswersAlike (Logged.store : Logged σ → σ) := fun _ _ => rfl
    have kept : Follows (id : σ → σ) := fun _ _ _ => rfl
    have logged : Follows (Logged.store : Logged σ → σ) := fun _ _ _ => rfl
    exact query_of_alike alike kept logged (fun _ => rfl) search set window state
  · intro write
    have alike : AnswersAlike fun costs : Logged σ => (⟨costs.store⟩ : Rewired σ write) :=
      fun _ _ => rfl
    have same := query_of_alike alike (follows_forget _) (follows_forget _) (fun _ => rfl)
      search set window state
    have states := (Prod.ext_iff.mp same).2
    exact ⟨(Prod.ext_iff.mp same).1, congrArg State.evaluations states,
      congrArg State.scans states⟩

end Stores

end Search

end SeriesIndex
