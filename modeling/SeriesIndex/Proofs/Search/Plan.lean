import SeriesIndex.Proofs.CostCache
import SeriesIndex.Proofs.Search.Course
import SeriesIndex.Proofs.Search.Exact

/-!
# Plans and the order of matchers

A plan depends on the filters of a set and not on the order in which they were added. No two of them
have the same signature, so the order of a plan has no ties, and steady costs are the same in
whatever order they are looked up. What a search does after its plan is made has nothing to do with
the costs. So two lists with the same matchers, in any order and any number of times, lead to the
same evaluations and the same result.
-/

namespace SeriesIndex

namespace Search

/-! ## The order of a plan -/

namespace Planned

variable {first second third : Planned}

theorem notAfter_iff :
    first.notAfter second = true ↔ first.1 < second.1 ∨
      first.1 = second.1 ∧ first.2.signature ≤ second.2.signature := by
  simp [notAfter]

theorem notAfter_trans (left : first.notAfter second = true)
    (right : second.notAfter third = true) :
    first.notAfter third = true := by
  rw [notAfter_iff] at left right ⊢
  rcases left with cheaper | ⟨cost, signature⟩
  · rcases right with cheaperAgain | ⟨costAgain, -⟩
    · exact .inl (UInt64.lt_trans cheaper cheaperAgain)
    · exact .inl (costAgain ▸ cheaper)
  · rcases right with cheaper | ⟨costAgain, signatureAgain⟩
    · exact .inl (cost ▸ cheaper)
    · exact .inr ⟨cost.trans costAgain, List.le_trans signature signatureAgain⟩

theorem notAfter_total (first second : Planned) :
    (first.notAfter second || second.notAfter first) = true := by
  rw [Bool.or_eq_true, notAfter_iff, notAfter_iff]
  by_cases cheaper : first.1 < second.1
  · exact .inl (.inl cheaper)
  · by_cases dearer : second.1 < first.1
    · exact .inr (.inl dearer)
    · have cost : first.1 = second.1 :=
        UInt64.le_antisymm (UInt64.not_lt.mp dearer) (UInt64.not_lt.mp cheaper)
      rcases List.le_total first.2.signature second.2.signature with before | after
      · exact .inl (.inr ⟨cost, before⟩)
      · exact .inr (.inr ⟨cost.symm, after⟩)

theorem sorted : ∀ planned : List Planned,
    (planned.mergeSort notAfter).Pairwise (notAfter · · = true) :=
  List.pairwise_mergeSort (fun _ _ _ => notAfter_trans) notAfter_total

/-- Of two different filters of a tenant only one may stand before the other. -/
theorem notAfter_antisymm {tenant : Tenant} (made : first.2.Made tenant)
    (otherMade : second.2.Made tenant) (left : first.notAfter second = true)
    (right : second.notAfter first = true) : first = second := by
  rw [notAfter_iff] at left right
  have cost : first.1 = second.1 := by
    rcases left with cheaper | ⟨same, -⟩
    · rcases right with dearer | ⟨same, -⟩
      · exact absurd dearer (UInt64.lt_asymm cheaper)
      · exact same.symm
    · exact same
  rw [cost] at left right
  have before := left.resolve_left (UInt64.lt_irrefl _)
  have after := right.resolve_left (UInt64.lt_irrefl _)
  exact Prod.ext cost (made.eq_of_signature otherMade (List.le_antisymm before.2 after.2))

end Planned

/-! ## Plans -/

section Plans

variable {σ : Type} [CostStore σ] [CostStore.Steady σ]

/-- The filter with the cost that is expected of it. -/
def priced (date : UInt64) (tenant : Tenant) (costs : σ) (filter : Filter) : Planned :=
  ((CostCache.estimatedCost costs date tenant filter).1, filter)

/-- Each filter has the cost that it would have if it were looked up first. -/
theorem withCosts_eq (date : UInt64) (tenant : Tenant) (filters : List Filter) (costs : σ) :
    (withCosts date tenant filters costs).1 = filters.map (priced date tenant costs) := by
  induction filters generalizing costs with
  | nil => rfl
  | cons filter rest ih =>
      have later : rest.map (priced date tenant
            (CostCache.estimatedCost costs date tenant filter).2) =
          rest.map (priced date tenant costs) :=
        List.map_congr_left fun other _ =>
          congrArg (·, other) (CostCache.estimatedCost_after costs date tenant filter other)
      exact congrArg (priced date tenant costs filter :: ·) ((ih _).trans later)

/-- Sets of the same filters have the same plan. -/
theorem plan_eq_of_perm {left right : FilterSet} (tenants : left.tenant = right.tenant)
    (perm : left.filters.Perm right.filters)
    (made : ∀ filter ∈ left.filters, filter.Made left.tenant) (date : UInt64) (costs : σ) :
    (plan date left costs).1 = (plan date right costs).1 := by
  have leftPerm := List.mergeSort_perm (left.filters.map (priced date left.tenant costs))
    Planned.notAfter
  have rightPerm := List.mergeSort_perm (right.filters.map (priced date left.tenant costs))
    Planned.notAfter
  have both := perm.map (priced date left.tenant costs)
  have same : (left.filters.map (priced date left.tenant costs)).mergeSort Planned.notAfter =
      (right.filters.map (priced date left.tenant costs)).mergeSort Planned.notAfter := by
    refine List.Perm.eq_of_pairwise ?_ (Planned.sorted _) (Planned.sorted _)
      (leftPerm.trans (both.trans rightPerm.symm))
    intro first second inLeft inRight before after
    obtain ⟨filter, inside, rfl⟩ := List.mem_map.mp (leftPerm.mem_iff.mp inLeft)
    obtain ⟨other, otherInside, rfl⟩ :=
      List.mem_map.mp (both.mem_iff.mpr (rightPerm.mem_iff.mp inRight))
    exact Planned.notAfter_antisymm (made filter inside) (made other otherInside) before after
  rw [plan, plan]
  dsimp only
  rw [withCosts_eq, withCosts_eq, ← tenants, same]

end Plans

/-! ## Searches without costs -/

section Costless

variable {σ : Type} [CostStore σ] (search : Search) (window : Window)

/-- The state without the costs that it remembers. -/
def State.forget (state : State σ) : State NoCosts :=
  ⟨state.scans, .unavailable, state.evaluations⟩

theorem follows_forget (σ : Type) [CostStore σ] : Follows fun _ : σ => NoCosts.unavailable :=
  fun _ _ _ => rfl

/-- What is remembered is no concern of a run. -/
theorem run_forget (set : FilterSet) (filters : List Filter) (state : State σ) :
    search.run window set filters state.forget =
      (search.run window set filters state).map id State.forget :=
  run_onCosts search window (follows_forget σ) set filters state

/-- Of a set a run needs no more than its tenant, if it has a filter to start with. -/
theorem run_of_seed {left right : FilterSet} (tenants : left.tenant = right.tenant)
    {filters others : List Filter} {seed : Filter}
    (taken : takeSeed? filters = some (seed, others)) (state : State σ) :
    search.run window left filters state = search.run window right filters state := by
  rw [run, run, taken, tenants]

end Costless

/-! ## Searches for the same filters -/

section Reordered

variable {σ : Type} [CostStore σ] {left right : FilterSet}

/-- A set is refused if another one of the same filters is, for the same reason. -/
theorem validate_of_perm (perm : left.filters.Perm right.filters) :
    (left.validate = .ok () ∧ right.validate = .ok ()) ∨
      (left.validate = .error .noFilters ∧ right.validate = .error .noFilters) ∨
      left.validate = .error (.noPositive left.render) ∧
        right.validate = .error (.noPositive right.render) := by
  unfold FilterSet.validate
  rw [perm.isEmpty_eq, perm.all_eq]
  split
  · exact .inr (.inl ⟨rfl, rfl⟩)
  · split
    · exact .inr (.inr ⟨rfl, rfl⟩)
    · exact .inl ⟨rfl, rfl⟩

/-- Searches for the same filters come to the same, apart from the costs and from how a set without
a filter to start with is shown. -/
theorem query_of_perm [CostStore.Steady σ] (leftBuilt : left.Built) (rightBuilt : right.Built)
    (tenants : left.tenant = right.tenant) (perm : left.filters.Perm right.filters)
    (search : Search) (window : Window) (state : State σ) :
    (search.query left window state).map id State.forget =
        (search.query right window state).map id State.forget ∨
      (search.query left window state).map id State.forget =
          (.error (.noPositive left.render), ⟨state.scans, .unavailable, []⟩) ∧
        (search.query right window state).map id State.forget =
          (.error (.noPositive right.render), ⟨state.scans, .unavailable, []⟩) := by
  rw [query, query, stray?_of_built leftBuilt, stray?_of_built rightBuilt]
  rcases validate_of_perm perm with ⟨leftValid, rightValid⟩ | ⟨leftEmpty, rightEmpty⟩ |
    ⟨leftNegative, rightNegative⟩
  · rw [leftValid, rightValid]
    dsimp only
    refine .inl ?_
    split
    · rfl
    · obtain ⟨seed, others, taken⟩ := exists_seed leftValid (search.date window) state.costs
      rw [← run_forget, ← run_forget, ← plan_eq_of_perm tenants perm leftBuilt.made,
        run_of_seed search window tenants taken]
      rfl
  · rw [leftEmpty, rightEmpty]
    exact .inl rfl
  · rw [leftNegative, rightNegative]
    exact .inr ⟨rfl, rfl⟩

end Reordered

end Search

/-! ## Lists of matchers -/

/-- The matcher with a name: without one it is about the metric. -/
def Matcher.named (matcher : Matcher) : Matcher :=
  if matcher.name.isEmpty then { matcher with name := Key.metricName } else matcher

theorem Filter.ofMatcher_named (tenant : Tenant) (matcher : Matcher) :
    ofMatcher tenant matcher.named = ofMatcher tenant matcher := by
  unfold Matcher.named
  split
  · next nameless => simp [ofMatcher, nameless, Key.metricName]
  · rfl

/-- The filters that a list of matchers is turned into are those of its matchers with their names.
-/
theorem Filter.exists_named_iff {tenant : Tenant} {matchers : List Matcher} {filter : Filter} :
    (∃ matcher ∈ matchers.map Matcher.named, ofMatcher tenant matcher = .ok filter) ↔
      ∃ matcher ∈ matchers, ofMatcher tenant matcher = .ok filter := by
  constructor
  · rintro ⟨_, inside, made⟩
    obtain ⟨matcher, listed, rfl⟩ := List.mem_map.mp inside
    exact ⟨matcher, listed, (ofMatcher_named tenant matcher).symm.trans made⟩
  · rintro ⟨matcher, listed, made⟩
    exact ⟨matcher.named, List.mem_map_of_mem listed, (ofMatcher_named tenant matcher).trans made⟩

namespace Search

variable {σ : Type} [CostStore σ]

/-- Two lists with the same matchers, in any order and any number of times, make sets of the same
filters, each of them once. Whatever the table, the window, the deadline and the costs, searches for
the two sets make the same evaluations and the same steps and have the same result, or the sets are
refused because no filter of theirs is one to start with. -/
theorem query_reordered [CostStore.Steady σ] {tenant : Tenant} {first second : List Matcher}
    {left right : FilterSet}
    (same : ∀ matcher, matcher ∈ first.map Matcher.named ↔ matcher ∈ second.map Matcher.named)
    (leftAdded : (FilterSet.empty tenant).addAll first = .ok left)
    (rightAdded : (FilterSet.empty tenant).addAll second = .ok right) :
    left.filters.Nodup ∧ left.filters.Perm right.filters ∧
      (∀ filter, filter ∈ left.filters ↔
        ∃ matcher ∈ first, Filter.ofMatcher tenant matcher = .ok filter) ∧
      ∀ (search : Search) (window : Window) (state : State σ),
        (search.query left window state).2.evaluations =
            (search.query right window state).2.evaluations ∧
          (search.query left window state).2.scans = (search.query right window state).2.scans ∧
          ((search.query left window state).1 = (search.query right window state).1 ∨
            (search.query left window state).1 = .error (.noPositive left.render) ∧
            (search.query right window state).1 = .error (.noPositive right.render)) := by
  obtain ⟨leftBuilt, leftTenant, leftMembers⟩ := FilterSet.addAll_ok (.empty tenant) leftAdded
  obtain ⟨rightBuilt, rightTenant, rightMembers⟩ := FilterSet.addAll_ok (.empty tenant) rightAdded
  have tenants : left.tenant = right.tenant := leftTenant.trans rightTenant.symm
  have leftFilters : ∀ filter, filter ∈ left.filters ↔
      ∃ matcher ∈ first, Filter.ofMatcher tenant matcher = .ok filter := fun filter =>
    (leftMembers filter).trans (or_iff_right List.not_mem_nil)
  have rightFilters : ∀ filter, filter ∈ right.filters ↔
      ∃ matcher ∈ second, Filter.ofMatcher tenant matcher = .ok filter := fun filter =>
    (rightMembers filter).trans (or_iff_right List.not_mem_nil)
  have perm : left.filters.Perm right.filters := by
    refine (List.perm_ext_iff_of_nodup leftBuilt.nodup rightBuilt.nodup).mpr fun filter => ?_
    have named := exists_congr fun matcher =>
      and_congr_left fun _ : Filter.ofMatcher tenant matcher = .ok filter => same matcher
    rw [leftFilters, rightFilters]
    exact Filter.exists_named_iff.symm.trans (named.trans Filter.exists_named_iff)
  refine ⟨leftBuilt.nodup, perm, leftFilters, ?_⟩
  intro search window state
  rcases query_of_perm leftBuilt rightBuilt tenants perm search window state with
    alike | ⟨leftRefused, rightRefused⟩
  · have results : (search.query left window state).1 = (search.query right window state).1 :=
      (Prod.ext_iff.mp alike).1
    have states : (search.query left window state).2.forget =
        (search.query right window state).2.forget := (Prod.ext_iff.mp alike).2
    have evaluations := congrArg State.evaluations states
    have scans := congrArg State.scans states
    exact ⟨evaluations, scans, .inl results⟩
  · have leftResult : (search.query left window state).1 = .error (.noPositive left.render) :=
      (Prod.ext_iff.mp leftRefused).1
    have rightResult : (search.query right window state).1 = .error (.noPositive right.render) :=
      (Prod.ext_iff.mp rightRefused).1
    have leftState : (search.query left window state).2.forget =
        ⟨state.scans, .unavailable, []⟩ := (Prod.ext_iff.mp leftRefused).2
    have rightState : (search.query right window state).2.forget =
        ⟨state.scans, .unavailable, []⟩ := (Prod.ext_iff.mp rightRefused).2
    have states := leftState.trans rightState.symm
    have evaluations := congrArg State.evaluations states
    have scans := congrArg State.scans states
    exact ⟨evaluations, scans, .inr ⟨leftResult, rightResult⟩⟩

/-- A matcher that is given twice and one without a name, in any order. -/
theorem query_reordered_sample :
    ∃ left right : FilterSet,
      (FilterSet.empty ⟨0, 0⟩).addAll
          [⟨"b", .notEqual, "y"⟩, ⟨"a", .equal, "x"⟩, ⟨"b", .notEqual, "y"⟩, ⟨"", .equal, "m"⟩] =
        .ok left ∧
      (FilterSet.empty ⟨0, 0⟩).addAll
          [⟨"__name__", .equal, "m"⟩, ⟨"a", .equal, "x"⟩, ⟨"b", .notEqual, "y"⟩] = .ok right ∧
      left.filters.Perm right.filters ∧
      (sampleSearch.query left ⟨0, 86400000, 2⟩
          (sampleState (RecentCosts.empty 16))).2.evaluations =
        (sampleSearch.query right ⟨0, 86400000, 2⟩
          (sampleState (RecentCosts.empty 16))).2.evaluations := by
  have same : ∀ matcher,
      matcher ∈ [⟨"b", .notEqual, "y"⟩, ⟨"a", .equal, "x"⟩, ⟨"b", .notEqual, "y"⟩,
          ⟨"", .equal, "m"⟩].map Matcher.named ↔
        matcher ∈ [⟨"__name__", .equal, "m"⟩, ⟨"a", .equal, "x"⟩,
          ⟨"b", .notEqual, "y"⟩].map Matcher.named := by
    intro matcher
    simp only [Matcher.named, Key.metricName, List.map_cons, List.map_nil, List.mem_cons,
      List.not_mem_nil]
    tauto
  refine ⟨_, _, rfl, rfl, ?_⟩
  obtain ⟨-, perm, -, runs⟩ := query_reordered (σ := RecentCosts) same rfl rfl
  exact ⟨perm, (runs _ _ _).1⟩

end Search

end SeriesIndex
