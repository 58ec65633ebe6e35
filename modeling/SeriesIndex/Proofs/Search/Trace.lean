import SeriesIndex.Proofs.Search.Plan

/-!
# Traces of searches

The evaluations that a search notes tell how far it has come and what each filter has left. The
first is that of the seed, the others follow in the order of the plan. What is left never grows, and
the search stops as soon as nothing is left.
-/

namespace SeriesIndex.Search

open IdentifierSet

/-- A trace is about these filters: only filters after the first are evaluated within what was
found, those that are not negative, and what they leave never grows. -/
structure Traces (filters : List Filter) (notes : List Evaluation) : Prop where
  named : notes.map (fun entry => (entry.filter, entry.negative)) =
    filters.map fun filter => (filter.render, filter.negative)
  restricted_iff : ∀ i entry, notes[i]? = some entry →
    (entry.restricted = true ↔ 0 < i ∧ entry.negative = false)
  shrinks : notes.Pairwise fun entry later => later.left ≤ entry.left

/-- A trace ends with what the search has found. It goes on while something is left, and it is
shorter than the number of filters only if nothing is. -/
structure Answered (filters : Nat) (notes : List Evaluation) (found : IdentifierSet) :
    Prop where
  goesOn : ∀ entry ∈ notes.dropLast, entry.left ≠ 0
  ends : notes.getLast?.map (·.left) = some found.size
  early : notes.length < filters → found.isEmpty = true

/-! ## Courses -/

theorem size_leaving_le (filter : Filter) (matched found : IdentifierSet) :
    (leaving filter matched (some found)).size ≤ found.size := by
  rw [leaving]
  split
  · exact size_le_of_subset fun _ left => (mem_difference.mp left).1
  · exact size_le_of_subset fun _ left => (mem_intersection.mp left).1

theorem size_ne_zero {found : IdentifierSet} (some_ : found.isEmpty = false) : found.size ≠ 0 := by
  intro nothing
  rw [isEmpty, List.length_eq_zero_iff.mp nothing] at some_
  cases some_

theorem mem_dropLast_cons {α : Type} {first member : α} {rest : List α}
    (inside : member ∈ (first :: rest).dropLast) :
    rest ≠ [] ∧ (member = first ∨ member ∈ rest.dropLast) := by
  cases rest with
  | nil => cases inside
  | cons second rest => exact ⟨List.cons_ne_nil _ _, List.mem_cons.mp inside⟩

namespace Course

variable {search : Search} {window : Window} {found : Option IdentifierSet}
  {filters : List Filter} {scans after : ScanState} {steps : List Step}
  {result : Except SearchError IdentifierSet}

/-- The filters evaluated are the first ones, each noted once. -/
theorem named (course : Course search window found filters scans steps result after) :
    ∃ reached, reached <+: filters ∧
      (steps.filterMap Step.note?).map (fun entry => (entry.filter, entry.negative)) =
        reached.map fun filter => (filter.render, filter.negative) := by
  induction course with
  | finished => exact ⟨[], List.nil_prefix, rfl⟩
  | failed => exact ⟨[], List.nil_prefix, rfl⟩
  | went _ _ _ ih =>
      obtain ⟨reached, starts, same⟩ := ih
      exact ⟨_, List.prefix_cons_inj _ |>.mpr starts, congrArg (_ :: ·) same⟩

/-- A filter is evaluated within what was found if something has been looked for before. -/
theorem restricted_iff (course : Course search window found filters scans steps result after) :
    ∀ i entry, (steps.filterMap Step.note?)[i]? = some entry →
      (entry.restricted = true ↔ (found.isSome = true ∨ 0 < i) ∧ entry.negative = false) := by
  induction course with
  | finished => exact nofun
  | failed => exact nofun
  | went _ _ _ ih =>
      intro i entry noted
      cases i with
      | zero =>
          cases noted
          simp [Step.isFull_eq, Option.isSome_iff_ne_none]
      | succ i =>
          refine (ih i entry noted).trans ?_
          simp

/-- Nothing is left that had not been found before. -/
theorem left_le (course : Course search window found filters scans steps result after) :
    ∀ set ∈ found, ∀ entry ∈ steps.filterMap Step.note?, entry.left ≤ set.size := by
  induction course with
  | finished => exact nofun
  | failed => exact nofun
  | @went _ filter _ _ _ _ matched _ _ _ _ _ ih =>
      rintro set ⟨⟩ entry inside
      rcases List.mem_cons.mp inside with rfl | later
      · exact size_leaving_le filter matched set
      · exact Nat.le_trans (ih _ rfl entry later) (size_leaving_le filter matched set)

theorem shrinks (course : Course search window found filters scans steps result after) :
    (steps.filterMap Step.note?).Pairwise fun entry later => later.left ≤ entry.left := by
  induction course with
  | finished => exact .nil
  | failed => exact .nil
  | went _ _ more ih => exact .cons (more.left_le _ rfl) ih

/-- Something is left as long as there are evaluations to make. -/
theorem size_ne_zero_of_steps {found : IdentifierSet}
    (course : Course search window (some found) filters scans steps result after)
    (further : steps ≠ []) : found.size ≠ 0 := by
  cases course with
  | finished => exact absurd rfl further
  | failed _ goesOn => exact size_ne_zero (goesOn _ rfl)
  | went goesOn => exact size_ne_zero (goesOn _ rfl)

theorem goesOn (course : Course search window found filters scans steps result after) :
    ∀ entry ∈ (steps.filterMap Step.note?).dropLast, entry.left ≠ 0 := by
  induction course with
  | finished => exact nofun
  | failed => exact nofun
  | went _ _ more ih =>
      intro entry inside
      obtain ⟨further, rfl | later⟩ := mem_dropLast_cons inside
      · exact more.size_ne_zero_of_steps fun none => further (none ▸ rfl)
      · exact ih entry later

/-- A search that fails had something left after each of its filters. -/
theorem left_ne_zero_of_error {error : SearchError}
    (course : Course search window found filters scans steps (.error error) after) :
    ∀ entry ∈ steps.filterMap Step.note?, entry.left ≠ 0 := by
  generalize failed : Except.error error = result at course
  induction course with
  | finished => cases failed
  | failed => exact nofun
  | went _ _ more ih =>
      intro entry inside
      rcases List.mem_cons.mp inside with rfl | later
      -- the failure came later, so the search went on after this entry
      · refine more.size_ne_zero_of_steps ?_
        rintro rfl
        cases more
        cases failed
      · exact ih failed entry later

/-- What is left last is what is found, or what had been found before the first evaluation. -/
theorem ends {answer : IdentifierSet}
    (course : Course search window found filters scans steps (.ok answer) after) :
    ((found.map size).toList ++ (steps.filterMap Step.note?).map (·.left)).getLast? =
      some answer.size := by
  generalize answered : Except.ok answer = result at course
  induction course with
  | finished =>
      cases answered
      rfl
  | failed => cases answered
  | went _ _ _ ih =>
      rw [List.getLast?_append]
      exact congrArg (Option.or · _) (ih answered)

theorem early {answer : IdentifierSet}
    (course : Course search window found filters scans steps (.ok answer) after)
    (short : (steps.filterMap Step.note?).length < filters.length) : answer.isEmpty = true := by
  generalize answered : Except.ok answer = result at course
  induction course with
  | finished _ done =>
      cases answered
      refine done.resolve_left ?_
      rintro rfl
      exact absurd short (Nat.lt_irrefl 0)
  | failed => cases answered
  | went _ _ _ ih => exact ih (Nat.lt_of_succ_lt_succ short) answered

/-- What is noted of a whole course. -/
theorem traces (course : Course search window none filters scans steps result after) :
    ∃ reached, reached <+: filters ∧ Traces reached (steps.filterMap Step.note?) := by
  obtain ⟨reached, starts, named⟩ := course.named
  refine ⟨reached, starts, named, ?_, course.shrinks⟩
  simpa using course.restricted_iff

theorem answered {answer : IdentifierSet}
    (course : Course search window none filters scans steps (.ok answer) after) :
    Answered filters.length (steps.filterMap Step.note?) answer :=
  ⟨course.goesOn, List.getLast?_map.symm.trans course.ends, course.early⟩

end Course

/-! ## Whole searches -/

variable {σ : Type} [CostStore σ] (search : Search) {set : FilterSet} {window : Window}
  (state : State σ)

/-- A search evaluates the first filter of its plan that is not negative, then others in the order
of the plan, by cost and then by signature. If it has an answer its notes account for it. If it
fails, every filter that it has noted had left something. -/
theorem query_trace (built : set.Built) (valid : set.validate = .ok ())
    (ordered : window.first ≤ window.last) :
    ∃ (order : List Planned) (early late reached : List Filter) (seed : Filter),
      order.Perm (withCosts (search.date window) set.tenant set.filters state.costs).1 ∧
      (order.Pairwise fun first second => first.1 < second.1 ∨
        first.1 = second.1 ∧ first.2.signature ≤ second.2.signature) ∧
      order.map (·.2) = early ++ seed :: late ∧
      (∀ filter ∈ early, filter.negative = true) ∧ seed.negative = false ∧
      reached <+: seed :: (early ++ late) ∧ reached.Nodup ∧
      Traces reached (search.query set window state).2.evaluations ∧
      match (search.query set window state).1 with
      | .ok found => Answered set.filters.length (search.query set window state).2.evaluations found
      | .error _ => ∀ entry ∈ (search.query set window state).2.evaluations, entry.left ≠ 0 := by
  obtain ⟨steps, makes, notes, -⟩ := query_makes search set window state
  rw [notes]
  obtain ⟨seed, others, taken, course⟩ := makes.course valid (stray?_of_built built) ordered
  obtain ⟨early, late, split, rfl, passed, positive⟩ := takeSeed?_split taken
  obtain ⟨reached, starts, traces⟩ := course.traces
  have perm : (seed :: (early ++ late)).Perm set.filters :=
    List.perm_middle.symm.trans (split ▸ plan_perm (search.date window) set state.costs)
  refine ⟨_, early, late, reached, seed,
    List.mergeSort_perm _ Planned.notAfter, ?_, split, passed, positive, starts,
    starts.sublist.nodup (perm.nodup_iff.mpr built.nodup), traces, ?_⟩
  · exact (Planned.sorted _).imp Planned.notAfter_iff.mp
  · split
    · next answer =>
        rw [answer] at course
        exact perm.length_eq ▸ course.answered
    · next failure =>
        rw [failure] at course
        exact course.left_ne_zero_of_error

/-- The label that series 1 lacks is asked about first, but the search starts with the other one. -/
theorem query_trace_sample :
    (sampleSet true false).Built ∧ (sampleSet true false).validate = .ok () ∧
      (0 : UInt64) ≤ 86400000 ∧
      ∃ (order : List Planned) (early late reached : List Filter) (seed : Filter),
        order.Perm (withCosts 0 ⟨0, 0⟩ (sampleSet true false).filters (RecentCosts.empty 16)).1 ∧
        (order.Pairwise fun first second => first.1 < second.1 ∨
          first.1 = second.1 ∧ first.2.signature ≤ second.2.signature) ∧
        order.map (·.2) = early ++ seed :: late ∧
        (∀ filter ∈ early, filter.negative = true) ∧ seed.negative = false ∧
        reached <+: seed :: (early ++ late) ∧ reached.Nodup ∧
        Traces reached (sampleSearch.query (sampleSet true false) ⟨0, 86400000, 2⟩
          (sampleState (RecentCosts.empty 16))).2.evaluations ∧
        match (sampleSearch.query (sampleSet true false) ⟨0, 86400000, 2⟩
            (sampleState (RecentCosts.empty 16))).1 with
        | .ok found => Answered 2 (sampleSearch.query (sampleSet true false) ⟨0, 86400000, 2⟩
            (sampleState (RecentCosts.empty 16))).2.evaluations found
        | .error _ => ∀ entry ∈ (sampleSearch.query (sampleSet true false) ⟨0, 86400000, 2⟩
            (sampleState (RecentCosts.empty 16))).2.evaluations, entry.left ≠ 0 :=
  ⟨sampleSet_built true false, rfl, by decide,
    query_trace sampleSearch (sampleState (RecentCosts.empty 16)) (sampleSet_built true false) rfl
      (by decide)⟩

end SeriesIndex.Search
