import SeriesIndex.Proofs.Matcher
import SeriesIndex.Proofs.Search.Exact
import SeriesIndex.Proofs.Writer.Run

/-!
# Searching what was indexed

In a table that writers have filled, the postings in a window tell of each series that has a row
there all its labels, and nothing else. So a search finds the series that have a row in its window
and labels that all matchers admit.
-/

namespace SeriesIndex

/-- The identifiers of the series of a tenant. -/
def Table.registered (table : Table) (tenant : Tenant) : Set UInt64 :=
  {id | ∃ labels, table.Registers tenant labels id}

/-- What looks like a posting in a table of writers is one. -/
theorem Table.Registry.readsPostings {table : Table} (registry : table.Registry)
    (filter : Filter) : filter.ReadsPostings table := by
  rintro item held ⟨more, rfl⟩
  generalize whole : filter.labelKey ++ more = item at held
  cases registry.written item held with
  | series registered => cases congrArg List.head? whole
  | record registered encoded => cases congrArg List.head? whole
  | posting registered inside =>
      obtain ⟨label, -, rfl⟩ := Writer.mem_postings.mp inside
      exact ⟨_, _, _, _, _, List.cons_ne_nil _ _, rfl⟩

namespace Writer

variable {history : List (Call × Answer)} {state : State} {tenant : Tenant} {label content : Bytes}
  {bucket id : UInt64} {ids : List UInt64}

/-- Every posting is of a row that was indexed, for the identifier of its series. -/
theorem Kept.row_of_posting (kept : Kept history state)
    (held : Key.posting tenant label content bucket ids ∈ state.2.table.items)
    (inside : id ∈ ids) :
    ∃ row, Indexed history tenant row ∧
      state.2.table.Registers tenant row.canonicalLabels id ∧
      bucket = Key.bucketStart row.time state.1.bucketWidth ∧
      ∃ own ∈ row.canonicalLabels, label = Bytes.ofText own.name ∧
        content = Bytes.ofText own.value := by
  obtain ⟨row, indexed, -, other, registered, posted⟩ := kept.postings held
  obtain ⟨own, listed, same⟩ := mem_postings.mp posted
  obtain ⟨-, rfl, rfl, rfl, rfl⟩ := Key.posting_inj same
  rw [List.mem_singleton.mp inside]
  exact ⟨row, indexed, registered, rfl, own, listed, rfl, rfl⟩

theorem Kept.readsPostings (kept : Kept history state) (filter : Filter) :
    filter.ReadsPostings state.2.table := kept.sound.registry.readsPostings filter

theorem Kept.posted_subset (kept : Kept history state) (tenant : Tenant) :
    state.2.table.posted tenant ⊆ state.2.table.registered tenant := by
  rintro id ⟨label, content, bucket, ids, held, inside⟩
  obtain ⟨row, -, registered, -⟩ := kept.row_of_posting held inside
  exact ⟨_, registered⟩

end Writer

namespace Search

open Writer (Call Answer Kept Run Indexed seriesId)

variable {history : List (Call × Answer)} {writer : Writer} {store : Store} {search : Search}
  {window : Window} {filter : Filter} {tenant : Tenant} {row : Row} {id : UInt64}

/-- The row lies in a bucket of the window. -/
def Covers (search : Search) (window : Window) (row : Row) : Prop :=
  search.firstBucket window ≤ Key.bucketStart row.time search.bucketWidth ∧
    Key.bucketStart row.time search.bucketWidth < window.last

instance (search : Search) (window : Window) (row : Row) : Decidable (search.Covers window row) :=
  inferInstanceAs (Decidable (_ ∧ _))

/-- A filter that wants no empty value matches a series that has a row in the window if it wants
the value that the series has for its label. -/
theorem matches_iff_wants (kept : Kept history (writer, store))
    (widths : search.bucketWidth = writer.bucketWidth) (nonempty : ¬ filter.Wants [])
    (indexed : Indexed history filter.tenant row) (covers : search.Covers window row)
    (registered : store.table.Registers filter.tenant row.canonicalLabels id) :
    search.Matches window store.table filter id ↔
      filter.Wants (Bytes.ofText (Label.valueOf row.canonicalLabels filter.name)) := by
  have canonical := Row.canonicalLabels_canonical indexed.1
  constructor
  · rintro ⟨content, bucket, ids, held, inside, -, -, wants⟩
    obtain ⟨other, -, otherRegistered, -, own, listed, names, rfl⟩ :=
      kept.row_of_posting held inside
    obtain ⟨-, same⟩ := kept.sound.registry.apart registered otherRegistered
    rw [Bytes.ofText_injective names, canonical.valueOf_mem (same ▸ listed)]
    exact wants
  · intro wants
    have filled : Label.valueOf row.canonicalLabels filter.name ≠ "" := by
      intro empty
      rw [empty] at wants
      exact nonempty wants
    have listed := (canonical.valueOf_eq_iff filled).mp rfl
    obtain ⟨other, otherRegistered, posted⟩ := kept.indexed indexed
    obtain rfl := kept.sound.registry.once registered otherRegistered
    have held := posted _ (Writer.mem_postings.mpr ⟨_, listed, rfl⟩)
    refine ⟨_, _, [id], held, .head _, ?_, ?_, wants⟩
    · rw [← widths]
      exact covers.1
    · rw [← widths]
      exact covers.2

/-- A series that has a row in the window answers a search if its labels are admitted by every
matcher. -/
theorem answers_iff_admits {set : FilterSet} {matchers : List Matcher}
    (kept : Kept history (writer, store)) (widths : search.bucketWidth = writer.bucketWidth)
    (made : FilterSet.ofMatchers tenant matchers = .ok set)
    (filled : ∀ matcher ∈ matchers, matcher.value ≠ "")
    (indexed : Indexed history tenant row) (covers : search.Covers window row)
    (registered : store.table.Registers tenant row.canonicalLabels id) :
    search.Answers window store.table set id ↔
      ∀ matcher ∈ matchers, matcher.Admits row.canonicalLabels := by
  obtain ⟨-, -, -, compiled, members⟩ := FilterSet.ofMatchers_ok made
  have admits : ∀ matcher ∈ matchers, ∀ filter, Filter.ofMatcher tenant matcher = .ok filter →
      (matcher.Admits row.canonicalLabels ↔
        (search.Matches window store.table filter id ↔ filter.negative = false)) := by
    intro matcher listed filter given
    obtain ⟨rfl, names, nonempty, accepts⟩ := Filter.ofMatcher_ok (filled matcher listed) given
    rw [matches_iff_wants kept widths nonempty indexed covers registered, names]
    exact accepts _
  constructor
  · rintro ⟨included, spared⟩ matcher listed
    obtain ⟨filter, given⟩ := compiled matcher listed
    have inside := (members filter).mpr ⟨matcher, listed, given⟩
    rw [admits matcher listed filter given]
    exact ⟨fun matched => by simpa using fun negative => spared filter inside negative matched,
      included filter inside⟩
  · intro admitted
    constructor
    · intro filter inside positive
      obtain ⟨matcher, listed, given⟩ := (members filter).mp inside
      exact ((admits matcher listed filter given).mp (admitted matcher listed)).mpr positive
    · intro filter inside negative matched
      obtain ⟨matcher, listed, given⟩ := (members filter).mp inside
      have positive :=
        ((admits matcher listed filter given).mp (admitted matcher listed)).mp matched
      rw [negative] at positive
      cases positive

/-- Whatever answers a search has a row in its window. -/
theorem row_of_answers {set : FilterSet} (kept : Kept history (writer, store))
    (widths : search.bucketWidth = writer.bucketWidth) (built : set.Built)
    (valid : set.validate = .ok ()) (answers : search.Answers window store.table set id) :
    ∃ row, Indexed history set.tenant row ∧ search.Covers window row ∧
      store.table.Registers set.tenant row.canonicalLabels id := by
  obtain ⟨filter, inside, positive⟩ := validate_ok valid
  obtain ⟨content, bucket, ids, held, listed, above, below, -⟩ :=
    answers.included filter inside positive
  rw [(built.made filter inside).tenant_eq] at held
  obtain ⟨row, indexed, registered, rfl, -⟩ := kept.row_of_posting held listed
  rw [← widths] at above below
  exact ⟨row, indexed, ⟨above, below⟩, registered⟩

/-- After any run, a search that nothing disturbs, with a limit that the series of the tenant do not
exceed, finds exactly the series that have a row indexed in its window and whose labels all
matchers admit. -/
theorem query_indexed {σ : Type} [CostStore σ] {state : State σ} {set : FilterSet}
    {matchers : List Matcher} (run : Run history (writer, state.scans.store))
    (widths : search.bucketWidth = writer.bucketWidth)
    (made : FilterSet.ofMatchers tenant matchers = .ok set)
    (filled : ∀ matcher ∈ matchers, matcher.value ≠ "") (ordered : window.first ≤ window.last)
    (calm : Calm search.deadline state.scans.store)
    (room : (state.scans.store.table.registered tenant).ncard ≤ window.limit) :
    ∃ found, (search.query set window state).1 = .ok found ∧ ∀ id, id ∈ found ↔
      ∃ row, Indexed history tenant row ∧ search.Covers window row ∧
        (∀ matcher ∈ matchers, matcher.Admits row.canonicalLabels) ∧
        (seriesId tenant row.canonicalLabels (writer, state.scans.store)).1 = .ok (some id) := by
  have kept := run.kept
  obtain ⟨built, rfl, valid, -⟩ := FilterSet.ofMatchers_ok made
  have finite := finite_word64
  have small : (state.scans.store.table.posted set.tenant).ncard ≤ window.limit :=
    (Set.ncard_le_ncard (kept.posted_subset set.tenant) (Set.toFinite _)).trans room
  have postings : ∀ filter ∈ set.filters, filter.ReadsPostings state.scans.store.table :=
    fun filter _ => kept.readsPostings filter
  obtain ⟨seed, inside, positive, -, settles⟩ :=
    query_built search window state built valid postings ordered
  obtain ⟨found, given, members⟩ := settles.resolve_right fun disturbed => disturbed.2 calm
  refine ⟨found, given, fun id =>
    (members.iff_answers inside positive built postings small id).trans ?_⟩
  constructor
  · intro answers
    obtain ⟨row, indexed, covers, registered⟩ := row_of_answers kept widths built valid answers
    exact ⟨row, indexed, covers,
      (answers_iff_admits kept widths made filled indexed covers registered).mp answers,
      (Writer.seriesId_eq_iff kept.sound calm.readable).mpr registered⟩
  · rintro ⟨row, indexed, covers, admitted, looked⟩
    have registered := (Writer.seriesId_eq_iff kept.sound calm.readable).mp looked
    exact (answers_iff_admits kept widths made filled indexed covers registered).mpr admitted

/-! ## A sample -/

def sampleRow : Row := ⟨"m", [⟨"b", "y"⟩, ⟨"a", "x"⟩], 5, "1"⟩

/-- The state after a first writer has indexed the row. -/
def sampleIndexed : Writer.State :=
  ((Call.indexRow ⟨0, 0⟩ sampleRow).run
    (.starting 1 86400000 4, .ofTable .memory .empty)).2

/-- A first writer that gives a row the identifier 1 makes a run by itself. -/
theorem run_indexRow {tenant : Tenant} {row : Row}
    (given : (Writer.indexRow tenant row
      (.starting 1 86400000 4, .ofTable .memory .empty)).1 = .ok 1)
    (counter : ((Call.indexRow tenant row).run
      (.starting 1 86400000 4, .ofTable .memory .empty)).2.1.nextId = 2) :
    Run [(.indexRow tenant row, .indexRow (.ok 1))]
      ((Call.indexRow tenant row).run (.starting 1 86400000 4, .ofTable .memory .empty)).2 := by
  have start : Run [] (.starting 1 86400000 4, .ofTable .memory .empty) :=
    .start 1 86400000 4 rfl
  have steady : (Call.indexRow tenant row).Steady
      (.starting 1 86400000 4, .ofTable .memory .empty) := by
    change _ ≤ ((Call.indexRow tenant row).run
      (.starting 1 86400000 4, .ofTable .memory .empty)).2.1.nextId
    rw [counter]
    decide
  have run := start.call (.indexRow tenant row) steady
  rw [Call.run, given] at run
  exact run

theorem sampleRow_labels :
    sampleRow.canonicalLabels = [⟨Key.metricName, "m"⟩, ⟨"a", "x"⟩, ⟨"b", "y"⟩] := by
  have named : Row.lastOfEach (sampleRow.labels.filter Row.names) = [⟨"b", "y"⟩, ⟨"a", "x"⟩] := by
    decide
  rw [Row.canonicalLabels, named]
  simp [List.mergeSort, sampleRow, List.MergeSort.Internal.splitInTwo, Label.notAfter, List.merge]
  decide

theorem sampleIndexed_nextId : sampleIndexed.1.nextId = 2 := by
  rw [sampleIndexed, Call.run, Writer.indexRow, sampleRow_labels]
  decide +kernel

theorem sampleIndexed_width : sampleSearch.bucketWidth = sampleIndexed.1.bucketWidth := by
  rw [sampleIndexed, Call.run, Writer.indexRow, sampleRow_labels]
  rfl

theorem sampleIndexed_readable : sampleIndexed.2.Readable := by
  rw [sampleIndexed, Call.run, Writer.indexRow, sampleRow_labels]
  exact fun _ => rfl

theorem sampleIndexed_run :
    Run [(.indexRow ⟨0, 0⟩ sampleRow, .indexRow (.ok 1))] sampleIndexed := by
  refine run_indexRow ?_ sampleIndexed_nextId
  rw [Writer.indexRow, sampleRow_labels]
  decide +kernel

theorem sampleIndexed_registered :
    (sampleIndexed.2.table.registered ⟨0, 0⟩).ncard ≤ 2 := by
  have within : sampleIndexed.2.table.registered ⟨0, 0⟩ ⊆ {0, 1} := by
    rintro id ⟨labels, registered⟩
    have below : id < 2 := sampleIndexed_nextId ▸ sampleIndexed_run.kept.sound.ahead registered
    have few : id.toNat < 2 := UInt64.lt_iff_toNat_lt.mp below
    have either : id.toNat = 0 ∨ id.toNat = 1 := by omega
    exact either.imp (UInt64.toNat_inj.mp ·) (UInt64.toNat_inj.mp ·)
  have pair := Set.ncard_insert_le (0 : UInt64) {1}
  rw [Set.ncard_singleton] at pair
  exact (Set.ncard_le_ncard within (Set.toFinite _)).trans pair

def sampleMatchers : List Matcher := [⟨"a", .equal, "x"⟩, ⟨"b", .equal, "y"⟩]

theorem sampleMatchers_admit :
    ∀ matcher ∈ sampleMatchers, matcher.Admits sampleRow.canonicalLabels := by
  have canonical : Label.Canonical sampleRow.canonicalLabels :=
    Row.canonicalLabels_canonical (by decide)
  have first : ⟨"a", "x"⟩ ∈ sampleRow.canonicalLabels := by
    simp [Row.canonicalLabels, sampleRow, Row.lastOfEach, Row.names, Key.metricName]
  have second : ⟨"b", "y"⟩ ∈ sampleRow.canonicalLabels := by
    simp [Row.canonicalLabels, sampleRow, Row.lastOfEach, Row.names, Key.metricName]
  refine List.forall_mem_cons.mpr ⟨?_, List.forall_mem_singleton.mpr ?_⟩
  · exact congrArg Bytes.ofText (canonical.valueOf_mem first)
  · exact congrArg Bytes.ofText (canonical.valueOf_mem second)

/-- A search for `a="x"` and `b="y"` finds the series of the row. -/
theorem query_indexed_sample :
    ∃ found, (sampleSearch.query (sampleSet false false) ⟨0, 86400000, 2⟩
        ⟨⟨sampleIndexed.2, 0⟩, RecentCosts.empty 16, []⟩).1 = .ok found ∧
      ∃ id ∈ found, (seriesId ⟨0, 0⟩ sampleRow.canonicalLabels sampleIndexed).1 =
        .ok (some id) := by
  have calm : Calm sampleSearch.deadline sampleIndexed.2 :=
    ⟨sampleIndexed_readable, fun _ => rfl⟩
  have indexed : Indexed [(.indexRow ⟨0, 0⟩ sampleRow, .indexRow (.ok 1))] ⟨0, 0⟩ sampleRow :=
    ⟨by decide, _, .head _, .head _⟩
  obtain ⟨id, registered, -⟩ := sampleIndexed_run.kept.indexed indexed
  have looked := (Writer.seriesId_eq_iff sampleIndexed_run.kept.sound calm.readable).mpr registered
  have made : FilterSet.ofMatchers ⟨0, 0⟩ sampleMatchers = .ok (sampleSet false false) := rfl
  have answered : ∃ found, (sampleSearch.query (sampleSet false false) ⟨0, 86400000, 2⟩
        ⟨⟨sampleIndexed.2, 0⟩, RecentCosts.empty 16, []⟩).1 = .ok found ∧ _ :=
    query_indexed sampleIndexed_run sampleIndexed_width made (by decide) (by decide) calm
      sampleIndexed_registered
  obtain ⟨found, given, members⟩ := answered
  refine ⟨found, given, id, (members id).mpr ?_, looked⟩
  exact ⟨sampleRow, indexed, by decide, sampleMatchers_admit, looked⟩

end Search

end SeriesIndex
