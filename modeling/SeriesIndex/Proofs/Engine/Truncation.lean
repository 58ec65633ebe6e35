import SeriesIndex.Proofs.Engine.Reached
import SeriesIndex.Proofs.Search.Limit

/-!
# Searches that are cut off

An engine reports that there are more identifiers than its settings allow if that many are left when
all filters have been evaluated. Each filter however collects no more than the scan limit, so the
report is only as good as what has been collected. It can be trusted if no filter matches more
identifiers than the scan limit, and for a single filter whenever the scan limit lies above the
number allowed; if it does not lie above that number, nothing is ever reported.
-/

namespace SeriesIndex

/-- The report of an outcome is true: without it the identifiers are in ascending order just those
that answer the search, and it is made if more answer the search than are allowed. -/
structure Found.Truthful (outcome : Found) (most : Nat) (answers : UInt64 → Prop) : Prop where
  complete : outcome.truncated = false →
    outcome.ids.Pairwise (· < ·) ∧ ∀ id, id ∈ outcome.ids ↔ answers id
  reported : most < {id | answers id}.ncard → outcome.truncated = true

/-- The outcome has the smallest of the identifiers left, as many as are allowed, and reports
whether there were more. -/
structure Found.CutFrom (outcome : Found) (most : Nat) (left : IdentifierSet) : Prop where
  ids : outcome.ids = (left.truncate most).ids
  truncated : outcome.truncated = decide (most < left.size)

section Cut

variable {outcome : Found} {most : Nat} {left : IdentifierSet} {answers : UInt64 → Prop}

theorem Found.CutFrom.size_le (cut : outcome.CutFrom most left)
    (whole : outcome.truncated = false) : left.size ≤ most := by
  rw [cut.truncated] at whole
  exact Nat.not_lt.mp (of_decide_eq_false whole)

theorem Found.CutFrom.ids_eq (cut : outcome.CutFrom most left)
    (whole : outcome.truncated = false) : outcome.ids = left.ids := by
  rw [cut.ids]
  exact List.take_of_length_le (cut.size_le whole)

theorem Found.CutFrom.truncated_iff (cut : outcome.CutFrom most left) :
    outcome.truncated = true ↔ most < left.size := by
  rw [cut.truncated, decide_eq_true_iff]

/-- A report that there are more is true anyway, and one that there are not is true exactly if those
left are those that answer the search. -/
theorem Found.CutFrom.truthful_iff (cut : outcome.CutFrom most left) :
    outcome.Truthful most answers ↔
      outcome.truncated = true ∨ ∀ id, id ∈ left ↔ answers id := by
  constructor
  · intro truthful
    cases flag : outcome.truncated with
    | true => exact .inl rfl
    | false =>
        have members := (truthful.complete flag).2
        rw [cut.ids_eq flag] at members
        exact .inr members
  · rintro (flag | members)
    · refine ⟨?_, fun _ => flag⟩
      intro whole
      rw [flag] at whole
      cases whole
    · constructor
      · intro whole
        rw [cut.ids_eq whole]
        exact ⟨left.ascending, members⟩
      · intro more
        rw [IdentifierSet.ncard_eq_size members] at more
        exact cut.truncated_iff.mpr more

end Cut

namespace Engine

/-- The window of the searches that an engine makes for a range. -/
def window (engine : Engine) (range : TimeRange) : Search.Window :=
  ⟨range.start, range.stop, engine.config.search.scanLimit⟩

/-- The state that an engine makes its searches in. -/
def asking (engine : Engine) : Search.State RecentCosts := ⟨⟨engine.store, 0⟩, engine.costs, []⟩

/-- How many identifiers the settings allow. -/
def most (engine : Engine) : Nat := engine.config.search.maxSeries.toNat

section Asked

variable (engine : Engine) (range : TimeRange) (deadline : Deadline)

/-- The identifier matches a filter of a search that the engine makes. -/
def Matches (filter : Filter) (id : UInt64) : Prop :=
  (engine.searchUnder deadline).Matches (engine.window range) engine.store.table filter id

/-- The identifier answers a search that the engine makes. -/
def Answers (set : FilterSet) (id : UInt64) : Prop :=
  (engine.searchUnder deadline).Answers (engine.window range) engine.store.table set id

/-- What a search that the engine makes collects for a filter in full. -/
def collected (filter : Filter) : IdentifierSet :=
  (engine.searchUnder deadline).collected (engine.window range) engine.store.table filter

/-- The filter that a search which the engine makes starts with. -/
def seed? (set : FilterSet) : Option Filter :=
  (engine.searchUnder deadline).seed? set (engine.window range) engine.costs

end Asked

section Outcomes

variable {engine : Engine} {tenant : Tenant} {matchers : List Matcher} {set : FilterSet}
  {range : TimeRange} {withLabels : Bool} {deadline : Deadline} {outcome : Found}

/-- What a search that succeeds tells is cut from what its filters have left. -/
theorem search_ok (made : FilterSet.ofMatchers tenant matchers = .ok set)
    (answered : (engine.search tenant matchers range withLabels deadline).1 = .ok outcome) :
    ∃ left, ((engine.searchUnder deadline).query set (engine.window range) engine.asking).1 =
      .ok left ∧ outcome.CutFrom engine.most left := by
  rw [search, made] at answered
  dsimp only at answered
  split at answered
  · cases answered
  · next left given =>
      refine ⟨left, given, ?_⟩
      split at answered
      · split at answered
        · cases answered
        · cases answered
          exact ⟨rfl, rfl⟩
      · cases answered
        exact ⟨rfl, rfl⟩

/-- What the filters of a search have left is told. -/
theorem search_of_query {left : IdentifierSet}
    (made : FilterSet.ofMatchers tenant matchers = .ok set)
    (given : ((engine.searchUnder deadline).query set (engine.window range) engine.asking).1 =
      .ok left) :
    ∃ outcome, (engine.search tenant matchers range false deadline).1 = .ok outcome := by
  rw [search, made]
  dsimp only
  split
  · next failed => cases given.symm.trans failed
  · exact ⟨_, rfl⟩

/-- The filters of a search read postings of writers, so what they leave is told by what has been
collected for the first of them and for the negative ones. -/
theorem Reached.search_found (reached : Reached engine)
    (made : FilterSet.ofMatchers tenant matchers = .ok set)
    (answered : (engine.search tenant matchers range withLabels deadline).1 = .ok outcome) :
    ∃ seed ∈ set.filters, seed.negative = false ∧
      engine.seed? range deadline set = some seed ∧
      ∃ left, (engine.searchUnder deadline).Found (engine.window range) engine.store.table
        set.filters seed left ∧ outcome.CutFrom engine.most left := by
  obtain ⟨left, given, cut⟩ := search_ok made answered
  obtain ⟨built, -, valid, -⟩ := FilterSet.ofMatchers_ok made
  obtain ⟨seed, inside, positive, first, settles⟩ :=
    Search.query_built (engine.searchUnder deadline) (engine.window range) engine.asking built valid
      (fun filter _ => reached.sound.registry.readsPostings filter) range.ordered
  rw [given] at settles
  obtain ⟨_, ⟨⟩, members⟩ | ⟨⟨_, ⟨⟩⟩, _⟩ := settles
  exact ⟨seed, inside, positive, first, left, members, cut⟩

end Outcomes

/-! ## Reports that are true -/

section Limits

variable {search : Search} {window : Search.Window} {table : Table} {set : FilterSet}
  {filters : List Filter} {seed : Filter} {left : IdentifierSet}

/-- Whatever the limit, the same identifiers answer a search. -/
theorem answers_of_limit {first last : UInt64} {limit other : Nat} {id : UInt64}
    (answers : search.Answers ⟨first, last, limit⟩ table set id) :
    search.Answers ⟨first, last, other⟩ table set id := ⟨answers.included, answers.spared⟩

/-- No more is left than a filter collects. -/
theorem size_left_le (members : search.Found window table filters seed left) :
    left.size ≤ window.limit := by
  have inside : ∀ id ∈ left, id ∈ search.collected window table seed :=
    fun id found => ((members id).mp found).1
  exact Nat.le_trans (IdentifierSet.size_le_of_subset inside)
    (IdentifierSet.size_gather_le window.limit _)

/-- A single filter leaves as many as it matches, or as the limit allows. -/
theorem size_left_of_single (members : search.Found window table [seed] seed left)
    (postings : seed.ReadsPostings table) (sound : seed.Sound)
    (positive : seed.negative = false) :
    left.size = min window.limit {id | search.Matches window table seed id}.ncard := by
  have all : left = search.collected window table seed := by
    ext id
    rw [members id]
    refine and_iff_left_of_imp ?_
    intro collected filter only
    rw [List.mem_singleton.mp only]
    exact Search.leaves_of_collected search window postings sound positive collected
  rw [all]
  exact IdentifierSet.size_gather fun id => Search.mem_idsOf postings sound

end Limits

section Reports

variable {engine : Engine} {tenant : Tenant} {matchers : List Matcher} {set : FilterSet}
  {range : TimeRange} {withLabels : Bool} {deadline : Deadline} {outcome : Found}
  {seed : Filter} {left : IdentifierSet}

/-- A search with a limit that the identifiers of the tenant do not exceed finds what answers it. -/
theorem Reached.query_unlimited (reached : Reached engine) (built : set.Built)
    (valid : set.validate = .ok ()) {limit : Nat} {unlimited : IdentifierSet}
    (room : (engine.store.table.posted set.tenant).ncard ≤ limit)
    (given : ((engine.searchUnder deadline).query set ⟨range.start, range.stop, limit⟩
      engine.asking).1 = .ok unlimited) (id : UInt64) :
    id ∈ unlimited ↔ engine.Answers range deadline set id := by
  have postings : ∀ filter ∈ set.filters, filter.ReadsPostings engine.store.table :=
    fun filter _ => reached.sound.registry.readsPostings filter
  obtain ⟨seed, inside, positive, -, settles⟩ :=
    Search.query_built (engine.searchUnder deadline) ⟨range.start, range.stop, limit⟩
      engine.asking built valid postings range.ordered
  rw [given] at settles
  obtain ⟨_, ⟨⟩, found⟩ | ⟨⟨_, ⟨⟩⟩, _⟩ := settles
  rw [found.iff_answers inside positive built postings room]
  exact ⟨answers_of_limit, answers_of_limit⟩

/-- If no filter matches more identifiers than the scan limit nothing is cut off. -/
theorem Reached.truthful_of_room (reached : Reached engine) (built : set.Built)
    (inside : seed ∈ set.filters) (positive : seed.negative = false)
    (members : (engine.searchUnder deadline).Found (engine.window range) engine.store.table
      set.filters seed left) (cut : outcome.CutFrom engine.most left)
    (room : ∀ filter ∈ set.filters,
      {id | engine.Matches range deadline filter id}.ncard ≤ engine.config.search.scanLimit) :
    outcome.Truthful engine.most (engine.Answers range deadline set) := by
  refine cut.truthful_iff.mpr (.inr ?_)
  exact members.iff_answers_of_room inside positive built
    (fun filter _ => reached.sound.registry.readsPostings filter) room

/-- If a single filter leaves no more than are allowed, and more could have been collected, it
matches no more. -/
theorem Reached.truthful_of_single (reached : Reached engine) (built : set.Built)
    (only : set.filters = [seed]) (positive : seed.negative = false)
    (members : (engine.searchUnder deadline).Found (engine.window range) engine.store.table
      set.filters seed left) (cut : outcome.CutFrom engine.most left)
    (above : engine.most < engine.config.search.scanLimit) :
    outcome.Truthful engine.most (engine.Answers range deadline set) := by
  have inside : seed ∈ set.filters := only ▸ List.mem_singleton_self seed
  have size : left.size = min engine.config.search.scanLimit
      {id | engine.Matches range deadline seed id}.ncard := by
    refine size_left_of_single (only ▸ members) ?_ (built.made seed inside).sound positive
    exact reached.sound.registry.readsPostings seed
  cases flag : outcome.truncated with
  | true => exact cut.truthful_iff.mpr (.inl flag)
  | false =>
      have few := cut.size_le flag
      apply reached.truthful_of_room built inside positive members cut
      intro filter listed
      rw [only] at listed
      rw [List.mem_singleton.mp listed]
      omega

/-- The identifiers that answer a search are those that it finds with a limit which is large enough.
An outcome tells truly of them exactly if it reports that there are more, or all of them were
collected for the first filter and all that was collected there and should be taken away was
collected for some negative filter. So it does if no filter matches more identifiers than the scan
limit, and for a single filter if the scan limit lies above the number allowed. If it does not lie
above that number no search reports that there are more. -/
theorem search_truthful_iff (reached : Reached engine)
    (made : FilterSet.ofMatchers tenant matchers = .ok set)
    (answered : (engine.search tenant matchers range withLabels deadline).1 = .ok outcome) :
    (∀ limit, (engine.store.table.posted tenant).ncard ≤ limit → ∀ unlimited,
      ((engine.searchUnder deadline).query set ⟨range.start, range.stop, limit⟩
        engine.asking).1 = .ok unlimited →
      ∀ id, id ∈ unlimited ↔ engine.Answers range deadline set id) ∧
    (∃ seed, engine.seed? range deadline set = some seed ∧
      (outcome.Truthful engine.most (engine.Answers range deadline set) ↔
        outcome.truncated = true ∨
          (∀ id, engine.Answers range deadline set id → id ∈ engine.collected range deadline seed) ∧
          ∀ id ∈ engine.collected range deadline seed,
            (∀ filter ∈ set.filters, filter.negative = false →
              engine.Matches range deadline filter id) →
            (∃ filter ∈ set.filters, filter.negative = true ∧
              engine.Matches range deadline filter id) →
            ∃ filter ∈ set.filters, filter.negative = true ∧
              id ∈ engine.collected range deadline filter)) ∧
    ((∀ filter ∈ set.filters,
        {id | engine.Matches range deadline filter id}.ncard ≤ engine.config.search.scanLimit) →
      outcome.Truthful engine.most (engine.Answers range deadline set)) ∧
    (set.filters.length = 1 → engine.most < engine.config.search.scanLimit →
      outcome.Truthful engine.most (engine.Answers range deadline set)) ∧
    (engine.config.search.scanLimit ≤ engine.most → outcome.truncated = false) := by
  obtain ⟨built, rfl, valid, -⟩ := FilterSet.ofMatchers_ok made
  obtain ⟨seed, inside, positive, first, left, members, cut⟩ := reached.search_found made answered
  refine ⟨?_, ⟨seed, first, ?_⟩, ?_, ?_, ?_⟩
  · intro limit room unlimited given id
    exact reached.query_unlimited built valid room given id
  · refine cut.truthful_iff.trans (or_congr_right (members.answers_iff built ?_))
    exact fun filter _ => reached.sound.registry.readsPostings filter
  · exact reached.truthful_of_room built inside positive members cut
  · intro single above
    obtain ⟨filter, only⟩ := List.length_eq_one_iff.mp single
    have same : seed = filter := List.mem_singleton.mp (only ▸ inside)
    exact reached.truthful_of_single built (same ▸ only) positive members cut above
  · intro low
    have few : left.size ≤ engine.config.search.scanLimit := size_left_le members
    rw [cut.truncated]
    exact decide_eq_false (Nat.not_lt.mpr (Nat.le_trans few low))

end Reports

/-! ## A sample -/

/-- One series is allowed. -/
def sampleConfig (multiplier : UInt64) : Config :=
  { Config.default "" with search := ⟨30000, 1, multiplier, 1024⟩ }

/-- An engine that has taken in two series of a metric. -/
def sampleEngine (multiplier : UInt64) : Engine :=
  ((onStore (sampleConfig multiplier) (.ofTable .memory .empty) 1).ingest ⟨0, 0⟩
    Writer.sampleRows).2

def sampleRange : TimeRange := ⟨0, 86400000, by decide⟩

def metricMatchers : List Matcher := [⟨"__name__", .equal, "m"⟩]

def metricFilter : Filter := .ofValue ⟨0, 0⟩ "__name__" "m" false

def metricSet : FilterSet := (FilterSet.empty ⟨0, 0⟩).insert metricFilter

theorem metricSet_made : FilterSet.ofMatchers ⟨0, 0⟩ metricMatchers = .ok metricSet := rfl

theorem sampleEngine_reached (multiplier : UInt64) : Reached (sampleEngine multiplier) := by
  have start : Reached (onStore (sampleConfig multiplier) (.ofTable .memory .empty) 1) :=
    .start (sampleConfig multiplier) 1 rfl
  refine start.ingest ⟨0, 0⟩ Writer.sampleRows .asSeen ?_
  have unwrapped : Writer.Unwrapped ⟨0, 0⟩ Writer.sampleRows ⟨0, [], []⟩
      (.starting 1 86400000 65536, .ofTable .memory .empty) := by
    decide +kernel
  exact unwrapped

/-- A posting of the metric in the first bucket. -/
def metricPosting (id : UInt64) : Bytes :=
  Key.posting ⟨0, 0⟩ (Bytes.ofText "__name__") (Bytes.ofText "m") 0 [id]

theorem sampleEngine_postings (multiplier : UInt64) :
    metricPosting 1 ∈ (sampleEngine multiplier).store.table.items ∧
      metricPosting 2 ∈ (sampleEngine multiplier).store.table.items := by
  have posted : metricPosting 1 ∈ (Writer.indexRows ⟨0, 0⟩ Writer.sampleRows
        (.starting 1 86400000 65536, .ofTable .memory .empty)).2.2.table.items ∧
      metricPosting 2 ∈ (Writer.indexRows ⟨0, 0⟩ Writer.sampleRows
        (.starting 1 86400000 65536, .ofTable .memory .empty)).2.2.table.items := by
    decide +kernel
  exact posted

theorem sampleEngine_answers (multiplier : UInt64) : 1 <
    {id | (sampleEngine multiplier).Answers sampleRange (.ahead 0) metricSet id}.ncard := by
  have finite := finite_word64
  obtain ⟨one, two⟩ := sampleEngine_postings multiplier
  have first : ((sampleEngine multiplier).searchUnder (.ahead 0)).firstBucket
      ((sampleEngine multiplier).window sampleRange) ≤ 0 := by
    simp [Search.firstBucket, Key.bucketStart, window, sampleRange]
  have last : (0 : UInt64) < ((sampleEngine multiplier).window sampleRange).last :=
    (by decide : (0 : UInt64) < 86400000)
  have answers : ∀ id, metricPosting id ∈ (sampleEngine multiplier).store.table.items →
      (sampleEngine multiplier).Answers sampleRange (.ahead 0) metricSet id := by
    intro id held
    constructor
    · intro filter only _
      rw [List.mem_singleton.mp only]
      exact ⟨_, 0, [id], held, .head _, first, last, .head _⟩
    · intro filter only negative
      rw [List.mem_singleton.mp only] at negative
      cases negative
  have both : ({1, 2} : Set UInt64) ⊆
      {id | (sampleEngine multiplier).Answers sampleRange (.ahead 0) metricSet id} := by
    rintro id (rfl | rfl)
    · exact answers 1 one
    · exact answers 2 two
  have pair : ({1, 2} : Set UInt64).ncard = 2 := Set.ncard_pair (by decide)
  have atLeast := Set.ncard_le_ncard both (Set.toFinite _)
  omega

/-- Nothing disturbs the search for the metric. -/
theorem sampleEngine_search (multiplier : UInt64) : ∃ outcome,
    ((sampleEngine multiplier).search ⟨0, 0⟩ metricMatchers sampleRange false (.ahead 0)).1 =
      .ok outcome := by
  have readable : (Writer.indexRows ⟨0, 0⟩ Writer.sampleRows
      (.starting 1 86400000 65536, .ofTable .memory .empty)).2.2.Readable := by
    intro index
    with_unfolding_all rfl
  have calm : Search.Calm (.ahead 0) (sampleEngine multiplier).store :=
    ⟨readable, fun _ => rfl⟩
  obtain ⟨built, -, valid, -⟩ := FilterSet.ofMatchers_ok metricSet_made
  obtain ⟨seed, -, -, -, settles⟩ :=
    Search.query_built ((sampleEngine multiplier).searchUnder (.ahead 0))
      ((sampleEngine multiplier).window sampleRange) (sampleEngine multiplier).asking built valid
      (fun filter _ => (sampleEngine_reached multiplier).sound.registry.readsPostings filter)
      sampleRange.ordered
  obtain ⟨left, given, -⟩ := settles.resolve_right fun disturbed => disturbed.2 calm
  exact search_of_query metricSet_made given

/-- With a multiplier of one only one of the two series is collected, and the outcome does not
report that there is another. -/
theorem search_untruthful_sample :
    (sampleConfig 1).validate = .ok () ∧ Reached (sampleEngine 1) ∧
      FilterSet.ofMatchers ⟨0, 0⟩ metricMatchers = .ok metricSet ∧
      ∃ outcome, ((sampleEngine 1).search ⟨0, 0⟩ metricMatchers sampleRange false (.ahead 0)).1 =
          .ok outcome ∧
        outcome.truncated = false ∧ ¬ outcome.Truthful (sampleEngine 1).most
          ((sampleEngine 1).Answers sampleRange (.ahead 0) metricSet) := by
  obtain ⟨outcome, answered⟩ := sampleEngine_search 1
  obtain ⟨seed, -, -, -, left, members, cut⟩ :=
    (sampleEngine_reached 1).search_found metricSet_made answered
  have few : left.size ≤ (sampleEngine 1).most := size_left_le members
  have whole : outcome.truncated = false := by
    rw [cut.truncated]
    exact decide_eq_false (Nat.not_lt.mpr few)
  refine ⟨rfl, sampleEngine_reached 1, metricSet_made, outcome, answered, whole, ?_⟩
  intro truthful
  rw [truthful.reported (sampleEngine_answers 1)] at whole
  cases whole

/-- With a multiplier of two the outcome reports that there is another series. -/
theorem search_truthful_sample :
    Reached (sampleEngine 2) ∧ FilterSet.ofMatchers ⟨0, 0⟩ metricMatchers = .ok metricSet ∧
      ∃ outcome, ((sampleEngine 2).search ⟨0, 0⟩ metricMatchers sampleRange false (.ahead 0)).1 =
          .ok outcome ∧
        outcome.truncated = true := by
  obtain ⟨outcome, answered⟩ := sampleEngine_search 2
  obtain ⟨-, -, -, single, -⟩ :=
    search_truthful_iff (sampleEngine_reached 2) metricSet_made answered
  have truthful := single rfl (by decide)
  exact ⟨sampleEngine_reached 2, metricSet_made, outcome, answered,
    truthful.reported (sampleEngine_answers 2)⟩

end Engine

end SeriesIndex
