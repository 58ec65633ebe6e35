import SeriesIndex.Proofs.Pattern.Lines
import SeriesIndex.Proofs.Search.Indexed

/-!
# Searching for labels that are there or missing

A matcher with the empty value asks whether a label is missing. It becomes a filter with the pattern
`.+`, which a value with a line feed does not match; such a value is taken for none. Otherwise a
search that asks for the label finds the series that have it, and one that asks for its absence the
others.
-/

namespace SeriesIndex

namespace Label

/-- There is a label with the name. -/
def Has (labels : List Label) (name : String) : Prop := ∃ label ∈ labels, label.name = name

/-- There is a value for the name, and no line ends in it. -/
def OnOneLine (labels : List Label) (name : String) : Prop :=
  valueOf labels name ≠ "" ∧ '\n' ∉ (valueOf labels name).toList

variable {labels : List Label} {name : String}

theorem Canonical.has_iff (canonical : Canonical labels) :
    Has labels name ↔ valueOf labels name ≠ "" := by
  constructor
  · rintro ⟨label, inside, rfl⟩
    rw [canonical.valueOf_mem inside]
    exact canonical.filled label inside
  · exact fun filled => ⟨_, (canonical.valueOf_eq_iff filled).mp rfl, rfl⟩

/-- What is on one line is there, and what is there is on one line unless it has a line feed. -/
theorem Canonical.onOneLine_iff (canonical : Canonical labels) :
    (OnOneLine labels name ↔ Has labels name) ↔ '\n' ∉ (valueOf labels name).toList := by
  rw [canonical.has_iff, OnOneLine, and_iff_left_iff_imp]
  constructor
  · intro whole feed
    refine whole ?_ feed
    intro empty
    rw [empty] at feed
    exact List.not_mem_nil feed
  · exact fun plain _ => plain

end Label

/-! ## The filter of an empty value -/

namespace Filter

variable {tenant : Tenant} {name : String} {op : MatchOp}

/-- The filter of a matcher with the empty value wants the values on one line, and is negative if
the label is to be missing. -/
theorem ofMatcher_empty (tenant : Tenant) (named : name ≠ "") (op : MatchOp) :
    ∃ filter, ofMatcher tenant ⟨name, op, ""⟩ = .ok filter ∧ filter.tenant = tenant ∧
      filter.name = name ∧ filter.negative = !op.isNegative ∧ ¬ filter.Wants [] ∧
      ∀ value, filter.Wants (Bytes.ofText value) ↔ value ≠ "" ∧ '\n' ∉ value.toList := by
  have label : Matcher.label ⟨name, op, ""⟩ = name := if_neg (by simpa using named)
  have asked : ofMatcher tenant ⟨name, op, ""⟩ = ofPattern tenant name ".+" (!op.isNegative) := by
    rw [ofMatcher_of_empty rfl, label]
  obtain ⟨pattern, compiled⟩ : ∃ pattern, Pattern.compile false ".+" = .ok pattern := ⟨_, rfl⟩
  have rejects := Pattern.anyLine_rejects_empty compiled
  obtain ⟨filter, made⟩ := ofPattern_of_compiled tenant name (!op.isNegative) compiled
  obtain ⟨own, same, tenants, names, -, -, -, negative, -, wants⟩ := ofPattern_ok made
  obtain rfl := Except.ok.inj (compiled.symm.trans same)
  rw [rejects] at negative wants
  refine ⟨filter, asked.trans made, tenants, names, by simpa using negative, ?_, ?_⟩
  · rw [wants [], rejects]
    decide
  · intro value
    rw [wants, Bool.not_false, Pattern.accepts_anyLine compiled]

end Filter

namespace FilterSet

theorem addAll_append (set : FilterSet) (matchers : List Matcher) (last : Matcher) :
    set.addAll (matchers ++ [last]) = (set.addAll matchers).bind fun set => set.add last := by
  induction matchers generalizing set with
  | nil =>
      cases added : set.add last with
      | error error => simp [addAll, added, bind, Except.bind]
      | ok next => simp [addAll, added, bind, Except.bind]
  | cons matcher rest ih =>
      rw [List.cons_append, addAll, addAll]
      cases set.add matcher with
      | error error => rfl
      | ok next => exact ih next

theorem validate_of_positive {set : FilterSet} {filter : Filter} (inside : filter ∈ set.filters)
    (positive : filter.negative = false) : set.validate = .ok () := by
  have filled : set.filters.isEmpty = false :=
    List.isEmpty_eq_false_iff.mpr (List.ne_nil_of_mem inside)
  have mixed : set.filters.all (·.negative) = false :=
    List.all_eq_false.mpr ⟨filter, inside, by simp [positive]⟩
  rw [validate, filled, mixed]
  rfl

/-- Another matcher adds its filter to a set that allows a search. -/
theorem ofMatchers_append {tenant : Tenant} {matchers : List Matcher} {set : FilterSet}
    (made : ofMatchers tenant matchers = .ok set) {last : Matcher} {filter : Filter}
    (given : Filter.ofMatcher tenant last = .ok filter) :
    ∃ whole, ofMatchers tenant (matchers ++ [last]) = .ok whole ∧
      ∀ other, other ∈ whole.filters ↔ other = filter ∨ other ∈ set.filters := by
  obtain ⟨before, added, checked⟩ := bind_ok.mp made
  obtain ⟨⟨⟩, valid, same⟩ := bind_ok.mp checked
  obtain rfl : before = set := Except.ok.inj same
  obtain ⟨built, tenants, -⟩ := addAll_ok (.empty tenant) added
  have tenants : before.tenant = tenant := tenants
  have members : ∀ other, other ∈ (before.insert filter).filters ↔
      other = filter ∨ other ∈ before.filters := fun other =>
    mem_insert built.made (tenants ▸ Filter.made_of_matcher given)
  have addedLast : before.add last = .ok (before.insert filter) := by
    rw [add, tenants, given]
    rfl
  obtain ⟨positive, inside, sign⟩ := Search.validate_ok valid
  have still := validate_of_positive ((members positive).mpr (.inr inside)) sign
  refine ⟨before.insert filter, ?_, members⟩
  refine bind_ok.mpr ⟨before.insert filter, ?_, bind_ok.mpr ⟨(), still, rfl⟩⟩
  rw [addAll_append, added]
  exact addedLast

end FilterSet

namespace Search

open Writer (Call Answer Run Indexed seriesId)

variable {history : List (Call × Answer)} {writer : Writer} {search : Search} {window : Window}
  {tenant : Tenant} {name : String} {op : MatchOp} {matchers : List Matcher} {id : UInt64}

/-- The identifier is that of a series whose labels are as asked. -/
def IsSeriesWith (tenant : Tenant) (state : Writer.State) (asked : List Label → Prop)
    (id : UInt64) : Prop :=
  ∃ labels, (seriesId tenant labels state).1 = .ok (some id) ∧ asked labels

/-- With one more filter, what answers has to match it, or not to if it is negative. -/
theorem answers_cons {table : Table} {set whole : FilterSet} {filter : Filter}
    (members : ∀ other, other ∈ whole.filters ↔ other = filter ∨ other ∈ set.filters) :
    search.Answers window table whole id ↔ search.Answers window table set id ∧
      (search.Matches window table filter id ↔ filter.negative = false) := by
  have first : filter ∈ whole.filters := (members filter).mpr (.inl rfl)
  constructor
  · rintro ⟨included, spared⟩
    refine ⟨⟨fun other inside => included other ((members other).mpr (.inr inside)),
      fun other inside => spared other ((members other).mpr (.inr inside))⟩, ?_, ?_⟩
    · exact fun matched => by simpa using fun negative => spared filter first negative matched
    · exact included filter first
  · rintro ⟨⟨included, spared⟩, asked⟩
    constructor
    · intro other inside positive
      rcases (members other).mp inside with rfl | old
      · exact asked.mpr positive
      · exact included other old positive
    · intro other inside negative matched
      rcases (members other).mp inside with rfl | old
      · exact Bool.false_ne_true ((asked.mp matched).symm.trans negative)
      · exact spared other old negative matched

section Runs

variable {σ : Type} [CostStore σ] {state : State σ} {set : FilterSet}

/-- After any run, a search finds what answers it, whatever its matchers are. -/
theorem found_answers (run : Run history (writer, state.scans.store))
    (made : FilterSet.ofMatchers tenant matchers = .ok set) (ordered : window.first ≤ window.last)
    (calm : Calm search.deadline state.scans.store)
    (room : (state.scans.store.table.registered tenant).ncard ≤ window.limit) :
    ∃ found, (search.query set window state).1 = .ok found ∧
      ∀ id, id ∈ found ↔ search.Answers window state.scans.store.table set id := by
  have kept := run.kept
  obtain ⟨built, rfl, valid, -⟩ := FilterSet.ofMatchers_ok made
  have finite := finite_word64
  have small : (state.scans.store.table.posted set.tenant).ncard ≤ window.limit :=
    (Set.ncard_le_ncard (kept.posted_subset set.tenant) (Set.toFinite _)).trans room
  have postings : ∀ filter ∈ set.filters, filter.ReadsPostings state.scans.store.table :=
    fun filter _ => kept.readsPostings filter
  obtain ⟨seed, inside, positive, -, settles⟩ :=
    query_built search window state built valid postings ordered
  obtain ⟨found, given, members⟩ := settles.resolve_right fun disturbed => disturbed.2 calm
  exact ⟨found, given, members.iff_answers inside positive built postings small⟩

omit [CostStore σ] in
/-- What a search finds are series with a row in its window, each known by its labels. -/
theorem labels_of_selected (run : Run history (writer, state.scans.store))
    (widths : search.bucketWidth = writer.bucketWidth)
    (made : FilterSet.ofMatchers tenant matchers = .ok set)
    (calm : Calm search.deadline state.scans.store)
    (answers : search.Answers window state.scans.store.table set id) :
    ∃ row, Indexed history tenant row ∧ search.Covers window row ∧
      state.scans.store.table.Registers tenant row.canonicalLabels id ∧
      ∀ labels, (seriesId tenant labels (writer, state.scans.store)).1 = .ok (some id) ↔
        labels = row.canonicalLabels := by
  have kept := run.kept
  obtain ⟨built, rfl, valid, -⟩ := FilterSet.ofMatchers_ok made
  obtain ⟨row, indexed, covers, registered⟩ := row_of_answers kept widths built valid answers
  refine ⟨row, indexed, covers, registered, fun labels => ?_⟩
  rw [Writer.seriesId_eq_iff kept.sound calm.readable]
  constructor
  · exact fun other => (kept.sound.registry.apart other registered).2
  · rintro rfl
    exact registered

/-- A matcher with the empty value leaves of what a search finds the series whose value for the
label is on one line, or those for which it is not, as the operator asks. -/
theorem found_presence (run : Run history (writer, state.scans.store))
    (widths : search.bucketWidth = writer.bucketWidth)
    (made : FilterSet.ofMatchers tenant matchers = .ok set) (named : name ≠ "")
    (ordered : window.first ≤ window.last) (calm : Calm search.deadline state.scans.store)
    (room : (state.scans.store.table.registered tenant).ncard ≤ window.limit) (op : MatchOp) :
    ∃ whole found, FilterSet.ofMatchers tenant (matchers ++ [⟨name, op, ""⟩]) = .ok whole ∧
      (search.query whole window state).1 = .ok found ∧
      ∀ id, id ∈ found ↔ search.Answers window state.scans.store.table set id ∧
        IsSeriesWith tenant (writer, state.scans.store)
          (fun labels => Label.OnOneLine labels name ↔ op.isNegative = true) id := by
  obtain ⟨filter, filterGiven, tenants, names, negative, nonempty, wants⟩ :=
    Filter.ofMatcher_empty tenant named op
  obtain ⟨whole, wholeMade, members⟩ := FilterSet.ofMatchers_append made filterGiven
  obtain ⟨found, given, answers⟩ := found_answers run wholeMade ordered calm room
  refine ⟨whole, found, wholeMade, given, fun id => ?_⟩
  rw [answers, answers_cons members]
  refine and_congr_right fun before => ?_
  obtain ⟨row, indexed, covers, registered, known⟩ :=
    labels_of_selected run widths made calm before
  have matched := matches_iff_wants run.kept widths nonempty (tenants ▸ indexed) covers
    (tenants ▸ registered)
  rw [matched, wants, names, negative, Bool.not_eq_false']
  simp only [IsSeriesWith, known, exists_eq_left]
  exact Iff.rfl

/-- After any run, asking for the empty value of a label finds of the series selected otherwise
those that have no value for it on one line, and asking for another value finds those that have one.
So the answers tell which of the series have the label exactly if none of these has a value for it
with a line feed. -/
theorem query_presence_iff (run : Run history (writer, state.scans.store))
    (widths : search.bucketWidth = writer.bucketWidth)
    (made : FilterSet.ofMatchers tenant matchers = .ok set) (named : name ≠ "")
    (ordered : window.first ≤ window.last) (calm : Calm search.deadline state.scans.store)
    (room : (state.scans.store.table.registered tenant).ncard ≤ window.limit) :
    let IsWith := IsSeriesWith tenant (writer, state.scans.store)
    ∃ lackingSet havingSet selected lacking having,
      FilterSet.ofMatchers tenant (matchers ++ [⟨name, .equal, ""⟩]) = .ok lackingSet ∧
      FilterSet.ofMatchers tenant (matchers ++ [⟨name, .notEqual, ""⟩]) = .ok havingSet ∧
      (search.query set window state).1 = .ok selected ∧
      (search.query lackingSet window state).1 = .ok lacking ∧
      (search.query havingSet window state).1 = .ok having ∧
      (∀ id, (id ∈ lacking ↔ id ∈ selected ∧ IsWith (¬ Label.OnOneLine · name) id) ∧
        (id ∈ having ↔ id ∈ selected ∧ IsWith (Label.OnOneLine · name) id)) ∧
      ((∀ id, (id ∈ lacking ↔ id ∈ selected ∧ IsWith (¬ Label.Has · name) id) ∧
          (id ∈ having ↔ id ∈ selected ∧ IsWith (Label.Has · name) id)) ↔
        ∀ id ∈ selected, IsWith (fun labels => '\n' ∉ (Label.valueOf labels name).toList) id) := by
  intro IsWith
  obtain ⟨selected, given, answers⟩ := found_answers run made ordered calm room
  obtain ⟨lackingSet, lacking, lackingMade, lackingGiven, lacks⟩ :=
    found_presence run widths made named ordered calm room .equal
  obtain ⟨havingSet, having, havingMade, havingGiven, has⟩ :=
    found_presence run widths made named ordered calm room .notEqual
  simp only [← answers, MatchOp.isNegative, Bool.false_eq_true, iff_false] at lacks
  simp only [← answers, MatchOp.isNegative, iff_true] at has
  change ∀ id, id ∈ lacking ↔ id ∈ selected ∧ IsWith (¬ Label.OnOneLine · name) id at lacks
  change ∀ id, id ∈ having ↔ id ∈ selected ∧ IsWith (Label.OnOneLine · name) id at has
  refine ⟨lackingSet, havingSet, selected, lacking, having, lackingMade, havingMade, given,
    lackingGiven, havingGiven, fun id => ⟨lacks id, has id⟩, ?_⟩
  -- a series that is selected has one list of labels, which is canonical
  have known : ∀ id ∈ selected, ∃ own, Label.Canonical own ∧
      ∀ asked, IsWith asked id ↔ asked own := by
    intro id inside
    obtain ⟨row, indexed, -, -, same⟩ :=
      labels_of_selected run widths made calm ((answers id).mp inside)
    refine ⟨_, Row.canonicalLabels_canonical indexed.1, fun asked => ?_⟩
    simp only [IsWith, IsSeriesWith, same, exists_eq_left]
  refine forall_congr' fun id => ?_
  rw [lacks id, has id, and_congr_right_iff, and_congr_right_iff, ← imp_and]
  refine forall_congr' fun inside => ?_
  obtain ⟨own, canonical, asks⟩ := known id inside
  rw [asks, asks, asks, asks, asks, ← canonical.onOneLine_iff, not_iff_not, and_self]

end Runs

/-! ## Samples -/

/-- A tenant has no more series than identifiers have been given. -/
theorem registered_ncard_le {store : Store} (run : Run history (writer, store)) (tenant : Tenant) :
    (store.table.registered tenant).ncard ≤ writer.nextId.toNat := by
  have below : UInt64.toNat '' store.table.registered tenant ⊆
      ↑(Finset.range writer.nextId.toNat) := by
    rintro _ ⟨id, ⟨labels, registered⟩, rfl⟩
    exact Finset.mem_coe.mpr (Finset.mem_range.mpr (run.kept.sound.ahead registered))
  have few := Set.ncard_le_ncard below (Finset.finite_toSet _)
  rwa [Set.ncard_image_of_injective _ fun _ _ => UInt64.toNat_inj.mp, Set.ncard_coe_finset,
    Finset.card_range] at few

/-- A search for `a="x"` that asks for `b` too finds the series that have a value for it. -/
theorem query_presence_sample :
    ∃ havingSet selected having,
      FilterSet.ofMatchers ⟨0, 0⟩ [⟨"a", .equal, "x"⟩, ⟨"b", .notEqual, ""⟩] = .ok havingSet ∧
      (sampleSearch.query ((FilterSet.empty ⟨0, 0⟩).insert (.ofValue ⟨0, 0⟩ "a" "x" false))
        ⟨0, 86400000, 2⟩ ⟨⟨sampleIndexed.2, 0⟩, RecentCosts.empty 16, []⟩).1 = .ok selected ∧
      (sampleSearch.query havingSet ⟨0, 86400000, 2⟩
        ⟨⟨sampleIndexed.2, 0⟩, RecentCosts.empty 16, []⟩).1 = .ok having ∧
      ∀ id, id ∈ having ↔ id ∈ selected ∧
        IsSeriesWith ⟨0, 0⟩ sampleIndexed (Label.OnOneLine · "b") id := by
  have calm : Calm sampleSearch.deadline sampleIndexed.2 :=
    ⟨sampleIndexed_readable, fun _ => rfl⟩
  have made : FilterSet.ofMatchers ⟨0, 0⟩ [⟨"a", .equal, "x"⟩] =
      .ok ((FilterSet.empty ⟨0, 0⟩).insert (.ofValue ⟨0, 0⟩ "a" "x" false)) := rfl
  obtain ⟨_, havingSet, selected, _, having, _, havingMade, given, _, havingGiven, answers, _⟩ :=
    @query_presence_iff _ sampleIndexed.1 sampleSearch ⟨0, 86400000, 2⟩ ⟨0, 0⟩ "b" _ RecentCosts _
      ⟨⟨sampleIndexed.2, 0⟩, RecentCosts.empty 16, []⟩ _ sampleIndexed_run
      sampleIndexed_width made (by decide) (by decide) calm sampleIndexed_registered
  exact ⟨havingSet, selected, having, havingMade, given, havingGiven, fun id => (answers id).2⟩

/-- A row whose label has a value of two lines. -/
def twoLineRow : Row := ⟨"m", [⟨"a", "x\ny"⟩], 0, "1"⟩

/-- The state after a first writer has indexed the row. -/
def twoLineIndexed : Writer.State :=
  ((Call.indexRow ⟨0, 0⟩ twoLineRow).run (.starting 1 86400000 4, .ofTable .memory .empty)).2

theorem twoLineIndexed_nextId : twoLineIndexed.1.nextId = 2 := by decide +kernel

theorem twoLineIndexed_width : sampleSearch.bucketWidth = twoLineIndexed.1.bucketWidth := by
  decide +kernel

theorem twoLineIndexed_readable : twoLineIndexed.2.Readable := by
  intro index
  with_unfolding_all rfl

theorem twoLineIndexed_run :
    Run [(.indexRow ⟨0, 0⟩ twoLineRow, .indexRow (.ok 1))] twoLineIndexed :=
  run_indexRow (by decide +kernel) twoLineIndexed_nextId

theorem twoLineRow_value : Label.valueOf twoLineRow.canonicalLabels "a" = "x\ny" := by
  have canonical : Label.Canonical twoLineRow.canonicalLabels :=
    Row.canonicalLabels_canonical (by decide)
  have label : ⟨"a", "x\ny"⟩ ∈ twoLineRow.canonicalLabels := by
    simp [Row.canonicalLabels, twoLineRow, Row.lastOfEach, Row.names, Key.metricName]
  exact canonical.valueOf_mem label

/-- A series that has the label is selected by its metric, but not found by a search that asks for
the label too; it is found by one that asks for the absence of the label. -/
theorem query_presence_twoLine :
    ∃ set lackingSet havingSet selected lacking having id,
      FilterSet.ofMatchers ⟨0, 0⟩ [.metric "m"] = .ok set ∧
      FilterSet.ofMatchers ⟨0, 0⟩ [.metric "m", ⟨"a", .equal, ""⟩] = .ok lackingSet ∧
      FilterSet.ofMatchers ⟨0, 0⟩ [.metric "m", ⟨"a", .notEqual, ""⟩] = .ok havingSet ∧
      (sampleSearch.query set ⟨0, 86400000, 2⟩
        ⟨⟨twoLineIndexed.2, 0⟩, RecentCosts.empty 16, []⟩).1 = .ok selected ∧
      (sampleSearch.query lackingSet ⟨0, 86400000, 2⟩
        ⟨⟨twoLineIndexed.2, 0⟩, RecentCosts.empty 16, []⟩).1 = .ok lacking ∧
      (sampleSearch.query havingSet ⟨0, 86400000, 2⟩
        ⟨⟨twoLineIndexed.2, 0⟩, RecentCosts.empty 16, []⟩).1 = .ok having ∧
      id ∈ selected ∧ IsSeriesWith ⟨0, 0⟩ twoLineIndexed (Label.Has · "a") id ∧
      id ∈ lacking ∧ id ∉ having := by
  have calm : Calm sampleSearch.deadline twoLineIndexed.2 :=
    ⟨twoLineIndexed_readable, fun _ => rfl⟩
  have room : (twoLineIndexed.2.table.registered ⟨0, 0⟩).ncard ≤ 2 := by
    have few : (twoLineIndexed.2.table.registered ⟨0, 0⟩).ncard ≤ twoLineIndexed.1.nextId.toNat :=
      registered_ncard_le twoLineIndexed_run ⟨0, 0⟩
    rwa [twoLineIndexed_nextId] at few
  have made : FilterSet.ofMatchers ⟨0, 0⟩ [.metric "m"] =
      .ok ((FilterSet.empty ⟨0, 0⟩).insert (.ofValue ⟨0, 0⟩ "__name__" "m" false)) := rfl
  have indexed : Indexed [(.indexRow ⟨0, 0⟩ twoLineRow, .indexRow (.ok 1))] ⟨0, 0⟩ twoLineRow :=
    ⟨by decide, _, .head _, .head _⟩
  have canonical : Label.Canonical twoLineRow.canonicalLabels :=
    Row.canonicalLabels_canonical (by decide)
  have has : Label.Has twoLineRow.canonicalLabels "a" := by
    rw [canonical.has_iff, twoLineRow_value]
    decide
  have broken : ¬ Label.OnOneLine twoLineRow.canonicalLabels "a" := by
    rw [Label.OnOneLine, twoLineRow_value]
    decide
  have present := fun op => @found_presence _ twoLineIndexed.1 sampleSearch ⟨0, 86400000, 2⟩ ⟨0, 0⟩
    "a" _ RecentCosts _ ⟨⟨twoLineIndexed.2, 0⟩, RecentCosts.empty 16, []⟩ _ twoLineIndexed_run
    twoLineIndexed_width made (by decide) (by decide) calm room op
  have answered := @found_answers _ twoLineIndexed.1 sampleSearch ⟨0, 86400000, 2⟩ ⟨0, 0⟩ _
    RecentCosts _ ⟨⟨twoLineIndexed.2, 0⟩, RecentCosts.empty 16, []⟩ _ twoLineIndexed_run made
    (by decide) calm room
  obtain ⟨id, registered, -⟩ := twoLineIndexed_run.kept.indexed indexed
  have looked : (seriesId ⟨0, 0⟩ twoLineRow.canonicalLabels twoLineIndexed).1 = .ok (some id) :=
    (Writer.seriesId_eq_iff twoLineIndexed_run.kept.sound calm.readable).mpr registered
  obtain ⟨lackingSet, lacking, lackingMade, lackingGiven, lacks⟩ := present .equal
  obtain ⟨havingSet, having, havingMade, havingGiven, has'⟩ := present .notEqual
  obtain ⟨selected, given, answers⟩ := answered
  have metric : Matcher.Admits (.metric "m") twoLineRow.canonicalLabels :=
    congrArg Bytes.ofText (canonical.valueOf_mem (.head _))
  have answer := (answers_iff_admits twoLineIndexed_run.kept twoLineIndexed_width made
    (by decide) indexed (by decide : sampleSearch.Covers ⟨0, 86400000, 2⟩ twoLineRow)
    registered).mpr (List.forall_mem_singleton.mpr metric)
  refine ⟨_, lackingSet, havingSet, selected, lacking, having, id, made, lackingMade, havingMade,
    given, lackingGiven, havingGiven, (answers id).mpr answer, ⟨_, looked, has⟩, ?_, ?_⟩
  · exact (lacks id).mpr ⟨answer, _, looked, by simpa [MatchOp.isNegative] using broken⟩
  · intro inside
    obtain ⟨-, labels, other, oneLine⟩ := (has' id).mp inside
    have same := (Writer.seriesId_eq_iff twoLineIndexed_run.kept.sound calm.readable).mp other
    obtain ⟨-, rfl⟩ := twoLineIndexed_run.kept.sound.registry.apart registered same
    exact broken (oneLine.mpr rfl)

end Search

end SeriesIndex
