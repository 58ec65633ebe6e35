import SeriesIndex.Proofs.Search.Exact
import SeriesIndex.Proofs.Search.Frame
import SeriesIndex.Proofs.Writer.Registry

/-!
# What a search depends on

A scan ends at the first item that lies outside of its window and makes nothing of that item. So two
tables that hold the same under the labels of a set of filters, whatever else they hold, give a
search the same answer or the same error. The same goes for the labels of a series and for its
identifier, and no two parts of the key space overlap.
-/

namespace SeriesIndex

/-! ## Tables that agree -/

/-- The tables hold the same items with the given start. -/
def Table.AgreesOn (left right : Table) (start : Bytes) : Prop :=
  ∀ item, start <+: item → (item ∈ left.items ↔ item ∈ right.items)

namespace Table

variable {left right : Table} {start key : Bytes} {inside : Bytes → Bool}

/-- Added items with other starts do not matter. -/
theorem agreesOn_insertAll {added : List Bytes} (outside : ∀ item ∈ added, ¬ start <+: item) :
    left.AgreesOn (left.insertAll added) start := by
  intro item under
  rw [mem_insertAll]
  exact ⟨.inr, fun held => held.resolve_left fun new => outside item new under⟩

/-- Two tables that hold the same items of a window show the same of it from its key on. -/
theorem filter_itemsFrom_eq
    (same : ∀ item, ¬ item < key → inside item = true → (item ∈ left.items ↔ item ∈ right.items)) :
    (left.itemsFrom key true).filter inside = (right.itemsFrom key true).filter inside := by
  have ascending : ∀ table : Table,
      ((table.itemsFrom key true).filter inside).Pairwise (· < ·) := fun table =>
    (table.itemsFrom_ascending key true).filter inside
  have members : ∀ item, item ∈ (left.itemsFrom key true).filter inside ↔
      item ∈ (right.itemsFrom key true).filter inside := by
    intro item
    simp only [List.mem_filter, mem_itemsFrom]
    constructor
    · rintro ⟨⟨held, above⟩, within⟩
      exact ⟨⟨(same item above within).mp held, above⟩, within⟩
    · rintro ⟨⟨held, above⟩, within⟩
      exact ⟨⟨(same item above within).mpr held, above⟩, within⟩
  exact ascending_ext (ascending left) (ascending right) members

/-- From a start on, the items with that start come first. -/
theorem startsWith_ordered (table : Table) (start : Bytes) :
    (table.itemsFrom start true).Pairwise fun before after =>
      Bytes.startsWith after start = true → Bytes.startsWith before start = true := by
  refine (table.itemsFrom_ascending start true).imp_of_mem ?_
  intro before after earlier _ less under
  obtain ⟨more, rfl⟩ := Bytes.startsWith_iff.mp under
  have above := (mem_itemsFrom.mp earlier).2
  rw [← List.append_nil start] at above
  exact Bytes.startsWith_iff.mpr (Bytes.prefix_of_between above (List.lt_asymm less))

theorem AgreesOn.first?_eq (agrees : left.AgreesOn right start) :
    left.first? start = right.first? start := by
  have filtered : ∀ table : Table, table.first? start =
      ((table.itemsFrom start true).filter (Bytes.startsWith · start)).head? := by
    intro table
    have ordered := table.startsWith_ordered start
    rw [first?]
    cases shape : table.itemsFrom start true with
    | nil => rfl
    | cons item rest =>
        rw [shape] at ordered
        by_cases under : Bytes.startsWith item start = true
        · simp [under, Option.filter]
        · have behind : ∀ other ∈ rest, ¬ Bytes.startsWith other start = true :=
            fun other later begins => under ((List.pairwise_cons.mp ordered).1 other later begins)
          simp [under, Option.filter, List.filter_eq_nil_iff.mpr behind]
  rw [filtered, filtered, filter_itemsFrom_eq fun item _ under =>
    agrees item (Bytes.startsWith_iff.mp under)]

end Table

/-! ## Scans -/

namespace Search

section Passes

variable {limit : Nat} {visit : Bytes → IdentifierSet → Except SearchError Progress}
  {inside : Bytes → Bool}

/-- A pass makes nothing of what lies behind its window. -/
theorem pass_filter {items : List Bytes}
    (ordered : items.Pairwise fun before after => inside after = true → inside before = true)
    (ends : ∀ item ∈ items, inside item = false → ∀ found,
      visit item found = .ok (.enough found)) (found : IdentifierSet) :
    pass limit visit items found = pass limit visit (items.filter inside) found := by
  induction items generalizing found with
  | nil => rfl
  | cons item rest ih =>
      obtain ⟨front, tail⟩ := List.pairwise_cons.mp ordered
      obtain ⟨here, later⟩ := List.forall_mem_cons.mp ends
      by_cases within : inside item = true
      · rw [List.filter_cons_of_pos within, pass, pass]
        split
        · rfl
        · split
          · rfl
          · rfl
          · exact ih tail later _
      · have behind : ∀ other ∈ rest, ¬ inside other = true := fun other inRest found =>
          within (front other inRest found)
        have stops := here (by simpa using within) found
        have alone : pass limit visit (item :: rest) found = .ok found := by
          rw [pass, stops]
          split <;> rfl
        rw [List.filter_cons_of_neg within, List.filter_eq_nil_iff.mpr behind, alone, pass]

/-- The items of a window that scans of two tables have in common are all that they look at. -/
theorem pass_eq {left right : Table} {key : Bytes} (inside : Bytes → Bool)
    (ordered : ∀ table : Table, (table.itemsFrom key true).Pairwise fun before after =>
      inside after = true → inside before = true)
    (ends : ∀ item found, inside item = false → visit item found = .ok (.enough found))
    (same : ∀ item, ¬ item < key → inside item = true → (item ∈ left.items ↔ item ∈ right.items))
    (found : IdentifierSet) :
    pass limit visit (left.itemsFrom key true) found =
      pass limit visit (right.itemsFrom key true) found := by
  rw [pass_filter (ordered left) (fun item _ out found => ends item found out),
    pass_filter (ordered right) (fun item _ out found => ends item found out),
    Table.filter_itemsFrom_eq same]

end Passes

/-- Nothing disturbs a search on either store, and their tables agree on the start. -/
structure Alike (deadline : Deadline) (start : Bytes) (left right : Store) : Prop where
  leftCalm : Calm deadline left
  rightCalm : Calm deadline right
  agrees : left.table.AgreesOn right.table start

theorem Alike.of_rereads {deadline : Deadline} {start : Bytes} {left right : Store}
    (alike : Alike deadline start left right) {leftAfter rightAfter : Store}
    (leftSame : left.Rereads leftAfter) (rightSame : right.Rereads rightAfter) :
    Alike deadline start leftAfter rightAfter := by
  refine ⟨alike.leftCalm.of_rereads leftSame, alike.rightCalm.of_rereads rightSame, ?_⟩
  rw [leftSame.table, rightSame.table]
  exact alike.agrees

section Scans

variable {search : Search} {filter : Filter} {window : Window} {among : Option IdentifierSet}
  {left right : ScanState}

/-- Scans of two tables give the same if the passes over them do. -/
theorem scan_alike {rules : ScanRules}
    {visit : Bytes → IdentifierSet → Except SearchError Progress} {key : Bytes}
    {found : IdentifierSet} (leftCalm : Calm rules.deadline left.store)
    (rightCalm : Calm rules.deadline right.store)
    (same : pass rules.limit visit (left.store.table.itemsFrom key true) found =
      pass rules.limit visit (right.store.table.itemsFrom key true) found) :
    (scan rules visit key found left).1 = (scan rules visit key found right).1 := by
  have passes : ∀ state : ScanState, Calm rules.deadline state.store →
      (scan rules visit key found state).1 =
        pass rules.limit visit (state.store.table.itemsFrom key true) found := fun state calm =>
    (scan_eq_pass rules visit key found state).2.resolve_right fun disturbed => disturbed.2 calm
  rw [passes left leftCalm, passes right rightCalm, same]

theorem scanValue_alike (window : Window) (among : Option IdentifierSet)
    (alike : Alike search.deadline filter.labelKey left.store right.store)
    (suffix : Bytes) (found : IdentifierSet) :
    (search.scanValue filter window among suffix found left).1 =
      (search.scanValue filter window among suffix found right).1 := by
  refine scan_alike alike.leftCalm alike.rightCalm ?_
  have begins : filter.labelKey <+: filter.key ++ suffix ++ [Key.valueEnd] := by
    rw [List.append_assoc]
    exact labelKey_prefix_key.trans (List.prefix_append _ _)
  refine pass_eq (fun item =>
    !decide (filter.key ++ suffix ++ [Key.valueEnd] ++ Bytes.ofWord64 window.last < item)) ?_ ?_ ?_
    found
  · refine fun table => (table.itemsFrom_ascending _ true).imp ?_
    intro before after less within
    simp only [Bool.not_eq_true', decide_eq_false_iff_not] at within ⊢
    exact fun above => within (List.lt_trans above less)
  · intro item found out
    exact if_pos (by simpa using out)
  · intro item above within
    have below : ¬ filter.key ++ suffix ++ [Key.valueEnd] ++ Bytes.ofWord64 window.last < item := by
      simpa using within
    exact alike.agrees item (begins.trans (Bytes.prefix_of_between above below))

theorem scanAll_alike (alike : Alike search.deadline filter.labelKey left.store right.store)
    (pattern : Pattern) :
    (search.scanAll filter window among pattern left).1 =
      (search.scanAll filter window among pattern right).1 := by
  refine scan_alike alike.leftCalm alike.rightCalm ?_
  refine pass_eq (Bytes.startsWith · filter.key)
    (fun table => table.startsWith_ordered filter.key) ?_ ?_ .empty
  · intro item found out
    exact if_pos (by simp [out])
  · intro item _ under
    exact alike.agrees item (labelKey_prefix_key.trans (Bytes.startsWith_iff.mp under))

theorem scanValues_alike (alike : Alike search.deadline filter.labelKey left.store right.store)
    (suffixes : List Bytes) (found : IdentifierSet) :
    (search.scanValues filter window among suffixes found left).1 =
      (search.scanValues filter window among suffixes found right).1 := by
  induction suffixes generalizing found left right with
  | nil => rfl
  | cons suffix rest ih =>
      have same := scanValue_alike window among alike suffix found
      have leftStore : left.store.Rereads
          (search.scanValue filter window among suffix found left).2.store :=
        (scan_eq_pass _ _ _ _ _).1
      have rightStore : right.store.Rereads
          (search.scanValue filter window among suffix found right).2.store :=
        (scan_eq_pass _ _ _ _ _).1
      rw [scanValues, scanValues]
      generalize search.scanValue filter window among suffix found left = leftOutcome at *
      generalize search.scanValue filter window among suffix found right = rightOutcome at *
      obtain ⟨result, leftNext⟩ := leftOutcome
      obtain ⟨_, rightNext⟩ := rightOutcome
      obtain rfl := same
      cases result with
      | error error => rfl
      | ok between =>
          dsimp only
          split
          · rfl
          · exact ih (alike.of_rereads leftStore rightStore) between

/-- Evaluating a filter depends on nothing but the items of its label. -/
theorem evaluate_alike (alike : Alike search.deadline filter.labelKey left.store right.store) :
    (search.evaluate filter window among left).1 =
      (search.evaluate filter window among right).1 := by
  rw [evaluate, evaluate]
  split
  · rfl
  · exact scanValues_alike alike _ _
  · exact scanAll_alike alike _

end Scans

/-! ## Whole searches -/

section Searches

variable {σ : Type} [CostStore σ]

/-- The states differ in nothing that a search with these filters looks at. -/
structure State.Alike (search : Search) (filters : List Filter) (left right : State σ) : Prop where
  evaluations : left.evaluations = right.evaluations
  costs : left.costs = right.costs
  stores : ∀ filter ∈ filters,
    Search.Alike search.deadline filter.labelKey left.scans.store right.scans.store

/-- The outcomes have the same result, and their states are alike. -/
def Same (search : Search) (filters : List Filter)
    (left right : Except SearchError IdentifierSet × State σ) : Prop :=
  left.1 = right.1 ∧ left.2.Alike search filters right.2

variable {search : Search} (window : Window) (tenant : Tenant) {filter : Filter}
  {filters rest : List Filter} {left right : State σ}

/-- They stay alike after an evaluation that gives the same on both. -/
theorem State.Alike.after (alike : left.Alike search filters right) (step : Step)
    {leftScans rightScans : ScanState} (leftSame : left.scans.store.Rereads leftScans.store)
    (rightSame : right.scans.store.Rereads rightScans.store) :
    (left.after search window tenant step leftScans).Alike search filters
      (right.after search window tenant step rightScans) :=
  ⟨congrArg (· ++ _) alike.evaluations, congrArg (step.remember _ _ _) alike.costs,
    fun filter inside => (alike.stores filter inside).of_rereads leftSame rightSame⟩

theorem proceed_alike (found : Option IdentifierSet) (inside : filter ∈ filters)
    (later : ∀ (set : IdentifierSet) {left right : State σ}, left.Alike search filters right →
      Same search filters (search.narrow window tenant rest set left)
        (search.narrow window tenant rest set right))
    (alike : left.Alike search filters right) :
    Same search filters (proceed search window tenant found filter rest left)
      (proceed search window tenant found filter rest right) := by
  have same : (search.evaluate filter window (within filter found) left.scans).1 =
      (search.evaluate filter window (within filter found) right.scans).1 :=
    evaluate_alike (alike.stores filter inside)
  have leftSame := evaluate_rereads search window filter (within filter found) left.scans
  have rightSame := evaluate_rereads search window filter (within filter found) right.scans
  rw [proceed, proceed]
  generalize search.evaluate filter window (within filter found) left.scans = leftOutcome at *
  generalize search.evaluate filter window (within filter found) right.scans = rightOutcome at *
  obtain ⟨result, leftScans⟩ := leftOutcome
  obtain ⟨_, rightScans⟩ := rightOutcome
  obtain rfl := same
  have next := fun step => alike.after window tenant step leftSame rightSame
  cases result with
  | error error => exact ⟨rfl, next _⟩
  | ok matched =>
      dsimp only
      split
      · exact ⟨rfl, next _⟩
      · exact later _ (next _)

theorem narrow_alike (found : IdentifierSet) (alike : left.Alike search filters right)
    (among : ∀ filter ∈ rest, filter ∈ filters) :
    Same search filters (search.narrow window tenant rest found left)
      (search.narrow window tenant rest found right) := by
  induction rest generalizing found left right with
  | nil => exact ⟨rfl, alike⟩
  | cons filter rest ih =>
      obtain ⟨inside, later⟩ := List.forall_mem_cons.mp among
      rw [narrow_cons, narrow_cons]
      exact proceed_alike window tenant _ inside (fun set _ _ next => ih set next later) alike

theorem run_alike {set : FilterSet} (alike : left.Alike search filters right)
    (among : ∀ filter ∈ rest, filter ∈ filters) :
    Same search filters (search.run window set rest left) (search.run window set rest right) := by
  cases taken : takeSeed? rest with
  | none =>
      rw [run, run, taken]
      exact ⟨rfl, alike⟩
  | some chosen =>
      have members := (takeSeed?_some taken).1
      obtain ⟨inside, later⟩ := List.forall_mem_cons.mp fun filter member =>
        among filter (members.mem_iff.mpr member)
      rw [run_of_taken search window set taken, run_of_taken search window set taken]
      exact proceed_alike window set.tenant none inside
        (fun found _ _ next => narrow_alike window set.tenant found next later) alike

/-- A filter of a search that is not turned down is about the tenant of its set. -/
theorem tenant_of_not_stray {set : FilterSet} (noStray : stray? set = none) {filter : Filter}
    (inside : filter ∈ set.filters) : filter.tenant = set.tenant := by
  have under := List.find?_eq_none.mp noStray filter inside
  simp only [Bool.not_eq_true', Bool.not_eq_false] at under
  obtain ⟨more, whole⟩ := Bytes.startsWith_iff.mp under
  have begins : filter.labelKey <+: filter.key := labelKey_prefix_key
  obtain ⟨rest, shape⟩ := begins
  rw [← shape, Filter.labelKey, Key.namePrefix, FilterSet.key, List.append_assoc] at whole
  exact (Key.scope_append_inj whole).2.1.symm

/-- Searches of the set come to the same on both stores whatever costs are remembered: to the same
result or the same error, with the same evaluations and the same costs after them. -/
def SameOn (search : Search) (set : FilterSet) (left right : Store) : Prop :=
  ∀ (σ : Type) [CostStore σ] (window : Window) (before after : State σ),
    before.scans.store = left → after.scans.store = right → before.costs = after.costs →
      (search.query set window before).1 = (search.query set window after).1 ∧
      (search.query set window before).2.evaluations =
        (search.query set window after).2.evaluations ∧
      (search.query set window before).2.costs = (search.query set window after).2.costs

/-- Searches come to the same if the tables agree on the labels of the filters. -/
theorem query_alike {search : Search} {set : FilterSet} {left right : Store}
    (leftCalm : Calm search.deadline left) (rightCalm : Calm search.deadline right)
    (agree : ∀ filter ∈ set.filters,
      left.table.AgreesOn right.table (Key.namePrefix set.tenant (Bytes.ofText filter.name))) :
    search.SameOn set left right := by
  rintro σ _ window before after rfl rfl costs
  rw [query, query]
  dsimp only
  split
  · exact ⟨rfl, rfl, costs⟩
  · exact ⟨rfl, rfl, costs⟩
  · next noStray =>
      split
      · exact ⟨rfl, rfl, costs⟩
      · have stores : ∀ filter ∈ set.filters,
            Alike search.deadline filter.labelKey before.scans.store after.scans.store := by
          intro filter inside
          refine ⟨leftCalm, rightCalm, ?_⟩
          rw [Filter.labelKey, tenant_of_not_stray noStray inside]
          exact agree filter inside
        have planned := plan_perm (search.date window) set after.costs
        rw [costs]
        have alike : State.Alike search set.filters
            { before with
              evaluations := [], costs := (plan (search.date window) set after.costs).2 }
            { after with
              evaluations := [], costs := (plan (search.date window) set after.costs).2 } :=
          ⟨rfl, rfl, stores⟩
        obtain ⟨same, next⟩ := run_alike window alike fun filter => planned.mem_iff.mp
        exact ⟨same, next.evaluations, next.costs⟩

end Searches

end Search

/-! ## Looking up series -/

section Series

variable {deadline : Deadline} {left right : Store} {tenant : Tenant} {id : UInt64}
  {labels : List Label}

theorem firstWithPrefix_alike {start : Bytes} (alike : Search.Alike deadline start left right) :
    (left.firstWithPrefix start).1 = (right.firstWithPrefix start).1 := by
  rw [Store.firstWithPrefix_of_read (alike.leftCalm.readable _),
    Store.firstWithPrefix_of_read (alike.rightCalm.readable _), alike.agrees.first?_eq]

theorem seriesLabels_alike (alike : Search.Alike deadline (Key.labels tenant id) left right) :
    (left.seriesLabels tenant id).1 = (right.seriesLabels tenant id).1 := by
  have same := firstWithPrefix_alike alike
  rw [Store.seriesLabels, Store.seriesLabels]
  generalize left.firstWithPrefix _ = leftOutcome at *
  generalize right.firstWithPrefix _ = rightOutcome at *
  obtain ⟨result, leftNext⟩ := leftOutcome
  obtain ⟨_, rightNext⟩ := rightOutcome
  obtain rfl := same
  rcases result with error | (_ | item) <;> rfl

/-- A writer that has seen nothing yet looks only at what starts with the key of the series. -/
theorem seriesId_alike (firstId width : UInt64) (capacity : Nat)
    (alike : Search.Alike deadline (Writer.seriesKey tenant labels) left right) :
    (Writer.seriesId tenant labels (.starting firstId width capacity, left)).1 =
      (Writer.seriesId tenant labels (.starting firstId width capacity, right)).1 := by
  have same := firstWithPrefix_alike alike
  have unknown : (RecentMap.empty capacity : RecentMap Bytes UInt64).use
      (Writer.seriesKey tenant labels) = (none, .empty capacity) := rfl
  rw [Writer.seriesId, Writer.seriesId, Writer.lookUp, Writer.lookUp, Writer.starting, unknown]
  dsimp only
  generalize left.firstWithPrefix _ = leftOutcome at *
  generalize right.firstWithPrefix _ = rightOutcome at *
  obtain ⟨result, leftNext⟩ := leftOutcome
  obtain ⟨_, rightNext⟩ := rightOutcome
  obtain rfl := same
  rcases result with error | (_ | item)
  · rfl
  · rfl
  · dsimp only
    cases Key.takeWord (item.drop (Writer.seriesKey tenant labels).length) <;> rfl

end Series

/-! ## Other parts of the key space -/

namespace Key

/-- The item lies in another space or belongs to another tenant. -/
inductive Elsewhere (space : Space) (tenant : Tenant) (item : Bytes) : Prop where
  | space (other : item.head? ≠ some space.code)
  | tenant {owner : Tenant} (other : owner ≠ tenant) (under : scope space owner <+: item)

/-- The item lies elsewhere than the tenant's postings, or is about none of the labels. -/
inductive Foreign (tenant : Tenant) (labels : List Bytes) (item : Bytes) : Prop where
  | elsewhere (apart : Elsewhere .posting tenant item)
  | label {label : Bytes} (other : label ∉ labels) (under : namePrefix tenant label <+: item)

variable {space : Space} {tenant : Tenant} {item start : Bytes}

theorem Elsewhere.not_under (elsewhere : Elsewhere space tenant item)
    (begins : scope space tenant <+: start) : ¬ start <+: item := by
  intro under
  obtain ⟨more, whole⟩ := begins.trans under
  cases elsewhere with
  | space other =>
      rw [← whole] at other
      exact other rfl
  | tenant other under =>
      obtain ⟨rest, shape⟩ := under
      exact other (scope_append_inj (shape.trans whole.symm)).2.1

theorem Foreign.not_under {labels : List Bytes} {label : Bytes}
    (foreign : Foreign tenant labels item) (inside : label ∈ labels) :
    ¬ namePrefix tenant label <+: item := by
  cases foreign with
  | elsewhere apart => exact apart.not_under (List.prefix_append _ _)
  | label other under =>
      rintro ⟨more, whole⟩
      obtain ⟨rest, shape⟩ := under
      obtain ⟨-, rfl, -⟩ := namePrefix_append_inj (shape.trans whole.symm)
      exact other inside

end Key

namespace Search

/-- Undisturbed, a search depends on nothing but the items of the labels of its filters, the labels
of a series on nothing but the items of its identifier, and the identifier of a series on nothing
but the items of its key. What other tenants, other labels and other spaces hold, well formed or
not, makes no difference and causes no error. -/
theorem answers_isolated {search : Search} {left right : Store}
    (leftCalm : Calm search.deadline left) (rightCalm : Calm search.deadline right) :
    (∀ set : FilterSet,
      (∀ filter ∈ set.filters, left.table.AgreesOn right.table
        (Key.namePrefix set.tenant (Bytes.ofText filter.name))) →
      search.SameOn set left right) ∧
    (∀ tenant id, left.table.AgreesOn right.table (Key.labels tenant id) →
      (left.seriesLabels tenant id).1 = (right.seriesLabels tenant id).1) ∧
    (∀ tenant labels firstId width capacity,
      left.table.AgreesOn right.table (Writer.seriesKey tenant labels) →
      (Writer.seriesId tenant labels (.starting firstId width capacity, left)).1 =
        (Writer.seriesId tenant labels (.starting firstId width capacity, right)).1) ∧
    ∀ foreign, right.table = left.table.insertAll foreign →
      (∀ set : FilterSet, (∀ item ∈ foreign, Key.Foreign set.tenant
          (set.filters.map fun filter => Bytes.ofText filter.name) item) →
        search.SameOn set left right) ∧
      (∀ tenant id, (∀ item ∈ foreign, Key.Elsewhere .labels tenant item) →
        (left.seriesLabels tenant id).1 = (right.seriesLabels tenant id).1) ∧
      ∀ tenant labels firstId width capacity,
        (∀ item ∈ foreign, Key.Elsewhere .series tenant item) →
        (Writer.seriesId tenant labels (.starting firstId width capacity, left)).1 =
          (Writer.seriesId tenant labels (.starting firstId width capacity, right)).1 := by
  have alike : ∀ {start}, left.table.AgreesOn right.table start →
      Alike search.deadline start left right := fun agrees => ⟨leftCalm, rightCalm, agrees⟩
  refine ⟨fun set => query_alike leftCalm rightCalm, fun tenant id agrees =>
    seriesLabels_alike (alike agrees), fun tenant labels firstId width capacity agrees =>
    seriesId_alike firstId width capacity (alike agrees), ?_⟩
  intro foreign added
  have agrees : ∀ {start}, (∀ item ∈ foreign, ¬ start <+: item) →
      left.table.AgreesOn right.table start := by
    intro start outside
    rw [added]
    exact Table.agreesOn_insertAll outside
  refine ⟨?_, ?_, ?_⟩
  · intro set apart
    refine query_alike leftCalm rightCalm fun filter inside => agrees fun item new => ?_
    exact (apart item new).not_under (List.mem_map_of_mem inside)
  · intro tenant id apart
    exact seriesLabels_alike (alike (agrees fun item new =>
      (apart item new).not_under (List.prefix_append _ _)))
  · intro tenant labels firstId width capacity apart
    refine seriesId_alike firstId width capacity (alike (agrees fun item new => ?_))
    refine (apart item new).not_under ?_
    rw [Writer.seriesKey, Key.series, List.append_assoc]
    exact List.prefix_append _ _

/-- Items that no reader could make sense of, of another tenant, of another label and in another
space. -/
def strangeItems : List Bytes :=
  [Key.scope .posting ⟨1, 0⟩ ++ [0, 1], Key.namePrefix ⟨0, 0⟩ (Bytes.ofText "c") ++ [255],
    Key.scope .labels ⟨0, 0⟩]

/-- A sample search does not come upon strange items. -/
theorem answers_isolated_sample :
    (sampleSearch.query (sampleSet true false) ⟨0, 86400000, 2⟩
        (sampleState (RecentCosts.empty 16))).1 =
      (sampleSearch.query (sampleSet true false) ⟨0, 86400000, 2⟩
        ⟨⟨.ofTable .memory (sampleTable.insertAll strangeItems), 0⟩,
          RecentCosts.empty 16, []⟩).1 := by
  have calm : ∀ table, Calm sampleSearch.deadline (.ofTable .memory table) := fun _ =>
    ⟨fun _ => rfl, fun _ => rfl⟩
  have isolated := (answers_isolated (calm sampleTable)
    (calm (sampleTable.insertAll strangeItems))).2.2.2 strangeItems rfl
  refine (isolated.1 (sampleSet true false) ?_ RecentCosts _ (sampleState _)
    ⟨⟨.ofTable .memory (sampleTable.insertAll strangeItems), 0⟩, _, []⟩ rfl rfl rfl).1
  rw [sampleSet_filters]
  intro item strange
  simp only [strangeItems, List.mem_cons, List.not_mem_nil, or_false] at strange
  rcases strange with rfl | rfl | rfl
  · exact .elsewhere (.tenant (by decide) (List.prefix_append _ _))
  · exact .label (by decide) (List.prefix_append _ _)
  · exact .elsewhere (.space (by decide))

end Search

end SeriesIndex
