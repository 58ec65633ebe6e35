import SeriesIndex.Proofs.Bounds
import SeriesIndex.Proofs.Search.Exact
import SeriesIndex.Proofs.Search.Interruption

/-!
# Searches that check their bounds

A scan skips the part of an item that its key stands for and does not look whether the item is that
long. The items that it meets are: those of one value lie between two keys that begin with the same
bytes, and those of all values begin with the key. Here a search is written so that it gives nothing
if a part of an item does not exist; whatever a table holds, that does not happen.
-/

namespace SeriesIndex

namespace Search

/-! ## Scans -/

/-- Walks on from a cursor, unless a visit leaves an item. -/
def walk? (rules : ScanRules)
    (visit : Bytes → IdentifierSet → Option (Except SearchError Progress)) (cursor : Cursor)
    (pace : Pace) (found : IdentifierSet) (state : ScanState) :
    Option (Except SearchError IdentifierSet × ScanState) :=
  if rules.limit ≤ found.size then some (.ok found, state)
  else
    match _moved : state.store.next cursor with
    | (false, cursor, store) =>
        let state := { state with store := store }
        match cursor.failure with
        | some error => some (.error (rules.failed error), state)
        | none => some (.ok found, state)
    | (true, ahead, store) =>
        let looked := lookAtClock rules.deadline pace { state with store := store }
        if looked.1 then some (.error (.deadline rules.deadline.timeout), looked.2)
        else
          match visit ahead.current found with
          | none => none
          | some (.error error) => some (.error error, looked.2)
          | some (.ok (.enough found)) => some (.ok found, looked.2)
          | some (.ok (.more found)) =>
              walk? rules visit ahead pace.step found { looked.2 with store := store }
termination_by (cursor.ahead state.store.table).length
decreasing_by exact Store.next_shortens ‹_›

def scan? (rules : ScanRules)
    (visit : Bytes → IdentifierSet → Option (Except SearchError Progress)) (start : Bytes)
    (found : IdentifierSet) (state : ScanState) :
    Option (Except SearchError IdentifierSet × ScanState) :=
  walk? rules visit (state.store.cursor.seek start) (.every rules.checkInterval) found state

/-- Collects the postings of one listed value, which are read from eight bytes before the end of the
first key on. -/
def scanValue? (search : Search) (filter : Filter) (window : Window)
    (among : Option IdentifierSet) (suffix : Bytes) (found : IdentifierSet) (state : ScanState) :
    Option (Except SearchError IdentifierSet × ScanState) :=
  let stem := filter.key ++ suffix ++ [Key.valueEnd]
  let start := stem ++ Bytes.ofWord64 (search.firstBucket window)
  let stop := stem ++ Bytes.ofWord64 window.last
  if start.length < 8 then none
  else
    let visit := fun (item : Bytes) (found : IdentifierSet) =>
      if stop < item then some (.ok (.enough found))
      else do
        match ← Key.takePosting? (← item.from? (start.length - 8)) with
        | .error cause =>
            some (.error (.scan .decodingPosting filter.render (.corrupt cause)))
        | .ok (_, ids) => some (.ok (collect window.limit among ids found))
    scan? ⟨search.deadline, search.checkInterval, window.limit,
      .scan .scanningPostings filter.render⟩ visit start found state

def scanValues? (search : Search) (filter : Filter) (window : Window)
    (among : Option IdentifierSet) : List Bytes → IdentifierSet → ScanState →
    Option (Except SearchError IdentifierSet × ScanState)
  | [], found, state => some (.ok found, state)
  | suffix :: rest, found, state => do
      match ← scanValue? search filter window among suffix found state with
      | (.error error, state) => some (.error error, state)
      | (.ok found, state) =>
          if isSaturated window.limit among found then some (.ok found, state)
          else scanValues? search filter window among rest found state

/-- Looks at every posting with the filter's key, from the end of the label on. -/
def scanAll? (search : Search) (filter : Filter) (window : Window)
    (among : Option IdentifierSet) (pattern : Pattern) (state : ScanState) :
    Option (Except SearchError IdentifierSet × ScanState) :=
  let failed := fun activity cause =>
    SearchError.scan activity filter.render (StoreError.corrupt cause)
  let visit := fun (item : Bytes) (found : IdentifierSet) =>
    if !Bytes.startsWith item filter.key then some (.ok (.enough found))
    else do
      match ← Key.takeField? Key.valueEnd (← item.from? filter.labelKey.length) with
      | .error cause => some (.error (failed .decodingValue cause))
      | .ok (value, tail) =>
          match ← Key.takePosting? tail with
          | .error cause => some (.error (failed .decodingPosting cause))
          | .ok (bucket, ids) =>
              if search.wanted filter window pattern value bucket then
                some (.ok (collect window.limit among ids found))
              else some (.ok (.more found))
  scan? ⟨search.deadline, search.checkInterval, window.limit,
    .scan .scanningValues filter.render⟩ visit filter.key .empty state

def evaluate? (search : Search) (filter : Filter) (window : Window)
    (among : Option IdentifierSet) (state : ScanState) :
    Option (Except SearchError IdentifierSet × ScanState) :=
  match filter.selection with
  | .listed [] => some (.error (.noValues filter.render), state)
  | .listed _ => scanValues? search filter window among filter.suffixes .empty state
  | .scanned _ pattern => scanAll? search filter window among pattern state

/-- A walk leaves no item if no visit of an item that lies ahead does. -/
theorem walk?_eq {rules : ScanRules}
    {checked : Bytes → IdentifierSet → Option (Except SearchError Progress)}
    {visit : Bytes → IdentifierSet → Except SearchError Progress} (cursor : Cursor) (pace : Pace)
    (found : IdentifierSet) (state : ScanState)
    (inside : ∀ item ∈ cursor.ahead state.store.table, ∀ found,
      checked item found = some (visit item found)) :
    walk? rules checked cursor pace found state =
      some (walk rules visit cursor pace found state) := by
  have ahead_cons : ∀ {cursor ahead : Cursor} {before after : Store},
      before.next cursor = (true, ahead, after) →
      cursor.ahead before.table = ahead.current :: ahead.ahead after.table := by
    intro cursor ahead before after moved
    obtain ⟨stepped, same⟩ := Store.next_moved moved
    rw [same]
    exact Cursor.ahead_next stepped
  fun_induction walk? rules checked cursor pace found state with
  | case1 cursor pace found state full => rw [walk_of_full full]
  | case2 cursor pace found state room after store stopped next error failure =>
      rw [walk_of_stop room stopped, failure]
  | case3 cursor pace found state room after store stopped next working =>
      rw [walk_of_stop room stopped, working]
  | case4 cursor pace found state room ahead store moved looked passed =>
      rw [walk_of_item room moved]
      exact congrArg some (if_pos passed).symm
  | case5 cursor pace found state room ahead store moved looked early left =>
      have here := inside ahead.current (ahead_cons moved ▸ .head _) found
      rw [left] at here
      cases here
  | case6 cursor pace found state room ahead store moved looked early error refused =>
      have here := inside ahead.current (ahead_cons moved ▸ .head _) found
      rw [refused] at here
      rw [walk_of_item room moved, ← Option.some.inj here]
      exact congrArg some (if_neg early).symm
  | case7 cursor pace found state room ahead store moved looked early enough visited =>
      have here := inside ahead.current (ahead_cons moved ▸ .head _) found
      rw [visited] at here
      rw [walk_of_item room moved, ← Option.some.inj here]
      exact congrArg some (if_neg early).symm
  | case8 cursor pace found state room ahead store moved looked early more visited ih =>
      have here := inside ahead.current (ahead_cons moved ▸ .head _) found
      rw [visited] at here
      rw [walk_of_item room moved, ← Option.some.inj here]
      refine (ih fun item later => inside item ?_).trans (congrArg some (if_neg early).symm)
      exact ahead_cons moved ▸ .tail _ later

/-- The items that a scan meets lie from its key on. -/
theorem scan?_eq {rules : ScanRules}
    {checked : Bytes → IdentifierSet → Option (Except SearchError Progress)}
    {visit : Bytes → IdentifierSet → Except SearchError Progress} (start : Bytes)
    (found : IdentifierSet) (state : ScanState)
    (inside : ∀ item, ¬ item < start → ∀ found, checked item found = some (visit item found)) :
    scan? rules checked start found state = some (scan rules visit start found state) :=
  walk?_eq _ _ _ _ fun item ahead => inside item (Table.mem_itemsFrom.mp ahead).2

section Scans

variable (search : Search) (filter : Filter) (window : Window) (among : Option IdentifierSet)

/-- An item between the two keys of a value begins with what they have in common. -/
theorem scanValue?_eq (suffix : Bytes) (found : IdentifierSet) (state : ScanState) :
    search.scanValue? filter window among suffix found state =
      some (search.scanValue filter window among suffix found state) := by
  rw [scanValue?, scanValue]
  generalize filter.key ++ suffix ++ [Key.valueEnd] = stem
  have long : (stem ++ Bytes.ofWord64 (search.firstBucket window)).length = stem.length + 8 := by
    rw [List.length_append, Bytes.ofWord64_length]
  rw [long, if_neg (by omega), Nat.add_sub_cancel]
  -- the visit has seen that the item is not above the last key, and the seek that it is not below
  refine scan?_eq _ _ _ fun item above found => ?_
  split
  · rfl
  · next below =>
      have begins : stem <+: item := Bytes.prefix_of_between above below
      rw [Bytes.from?_of_prefix begins, Option.bind_eq_bind, Option.bind_some,
        Key.takePosting?_eq, Option.bind_eq_bind, Option.bind_some]
      cases Key.takePosting (item.drop stem.length) with
      | error cause => rfl
      | ok posting => rfl

theorem scanValues?_eq (suffixes : List Bytes) (found : IdentifierSet) (state : ScanState) :
    search.scanValues? filter window among suffixes found state =
      some (search.scanValues filter window among suffixes found state) := by
  induction suffixes generalizing found state with
  | nil => rfl
  | cons suffix rest ih =>
      rw [scanValues?, scanValue?_eq, scanValues, Option.bind_eq_bind, Option.bind_some]
      generalize search.scanValue filter window among suffix found state = outcome
      obtain ⟨result, next⟩ := outcome
      cases result with
      | error error => rfl
      | ok between =>
          dsimp only
          split
          · rfl
          · exact ih between next

/-- An item with the filter's key begins with that of its label. -/
theorem scanAll?_eq (pattern : Pattern) (state : ScanState) :
    search.scanAll? filter window among pattern state =
      some (search.scanAll filter window among pattern state) := by
  rw [scanAll?, scanAll]
  refine scan?_eq _ _ _ fun item _ found => ?_
  dsimp only
  split
  · rfl
  · next under =>
      have begins : filter.labelKey <+: item :=
        labelKey_prefix_key.trans (Bytes.startsWith_iff.mp (by simpa using under))
      rw [Bytes.from?_of_prefix begins, Option.bind_eq_bind, Option.bind_some, Key.takeField?_eq,
        Option.bind_eq_bind, Option.bind_some]
      cases Key.takeField Key.valueEnd (item.drop filter.labelKey.length) with
      | error cause => rfl
      | ok field =>
          dsimp only
          rw [Key.takePosting?_eq, Option.bind_eq_bind, Option.bind_some]
          cases Key.takePosting field.2 with
          | error cause => rfl
          | ok posting =>
              dsimp only
              split
              · rfl
              · rfl

theorem evaluate?_eq (state : ScanState) :
    search.evaluate? filter window among state =
      some (search.evaluate filter window among state) := by
  rw [evaluate?, evaluate]
  cases filter.selection with
  | scanned inverted pattern => exact scanAll?_eq search filter window among pattern state
  | listed values =>
      cases values with
      | nil => rfl
      | cons value rest => exact scanValues?_eq search filter window among _ _ _

end Scans

/-! ## Whole searches -/

section Searches

variable {σ : Type} [CostStore σ]

def measure? (search : Search) (filter : Filter) (window : Window) (tenant : Tenant)
    (state : State σ) : Option (Except SearchError IdentifierSet × State σ) := do
  let (result, scans) ← search.evaluate? filter window none state.scans
  let count := match result with
    | .ok found => found.size
    | .error _ => window.limit
  some (result,
    { state with
      scans := scans
      costs := CostCache.record state.costs (search.date window) tenant filter
        (UInt64.ofNat count) })

def narrow? (search : Search) (window : Window) (tenant : Tenant) :
    List Filter → IdentifierSet → State σ → Option (Except SearchError IdentifierSet × State σ)
  | [], found, state => some (.ok found, state)
  | filter :: rest, found, state =>
      if filter.negative then do
        match ← search.measure? filter window tenant state with
        | (.error error, state) => some (.error error, state)
        | (.ok matched, state) =>
            let left := found.difference matched
            let state := state.note filter false matched.size left.size
            if left.isEmpty then some (.ok left, state)
            else search.narrow? window tenant rest left state
      else do
        match ← search.evaluate? filter window (some found) state.scans with
        | (.error error, scans) => some (.error error, { state with scans := scans })
        | (.ok matched, scans) =>
            let left := found.intersection matched
            let state := { state with scans := scans }.note filter true matched.size left.size
            if left.isEmpty then some (.ok left, state)
            else search.narrow? window tenant rest left state

def run? (search : Search) (window : Window) (set : FilterSet) (filters : List Filter)
    (state : State σ) : Option (Except SearchError IdentifierSet × State σ) :=
  match takeSeed? filters with
  | none => some (.error (.noPositive set.render), state)
  | some (seed, others) => do
      match ← search.measure? seed window set.tenant state with
      | (.error error, state) => some (.error error, state)
      | (.ok found, state) =>
          let state := state.note seed false found.size found.size
          if found.isEmpty then some (.ok found, state)
          else search.narrow? window set.tenant others found state

/-- The series that pass every filter and have postings in the window. -/
def query? (search : Search) (set : FilterSet) (window : Window) (state : State σ) :
    Option (Except SearchError IdentifierSet × State σ) :=
  let state := { state with evaluations := [] }
  match set.validate, stray? set with
  | .error error, _ => some (.error error, state)
  | .ok (), some filter => some (.error (.otherTenant filter.render), state)
  | .ok (), none =>
      if window.last < window.first then some (.ok .empty, state)
      else
        let (filters, costs) := plan (search.date window) set state.costs
        search.run? window set filters { state with costs := costs }

variable (search : Search) (window : Window)

theorem measure?_eq (filter : Filter) (tenant : Tenant) (state : State σ) :
    search.measure? filter window tenant state =
      some (search.measure filter window tenant state) := by
  rw [measure?, evaluate?_eq]
  rfl

theorem narrow?_eq (tenant : Tenant) (filters : List Filter) (found : IdentifierSet)
    (state : State σ) :
    search.narrow? window tenant filters found state =
      some (search.narrow window tenant filters found state) := by
  induction filters generalizing found state with
  | nil => rfl
  | cons filter rest ih =>
      rw [narrow?, narrow]
      split
      · rw [measure?_eq, Option.bind_eq_bind, Option.bind_some]
        generalize search.measure filter window tenant state = outcome
        obtain ⟨result, next⟩ := outcome
        cases result with
        | error error => rfl
        | ok matched =>
            dsimp only
            split
            · rfl
            · exact ih _ _
      · rw [evaluate?_eq, Option.bind_eq_bind, Option.bind_some]
        generalize search.evaluate filter window (some found) state.scans = outcome
        obtain ⟨result, next⟩ := outcome
        cases result with
        | error error => rfl
        | ok matched =>
            dsimp only
            split
            · rfl
            · exact ih _ _

theorem run?_eq (set : FilterSet) (filters : List Filter) (state : State σ) :
    search.run? window set filters state = some (search.run window set filters state) := by
  rw [run?, run]
  cases takeSeed? filters with
  | none => rfl
  | some chosen =>
      dsimp only
      rw [measure?_eq, Option.bind_eq_bind, Option.bind_some]
      generalize search.measure chosen.1 window set.tenant state = outcome
      obtain ⟨result, next⟩ := outcome
      cases result with
      | error error => rfl
      | ok found =>
          dsimp only
          split
          · rfl
          · exact narrow?_eq search window _ _ _ _

/-- No search leaves an item that it reads. -/
theorem query?_eq (set : FilterSet) (state : State σ) :
    search.query? set window state = some (search.query set window state) := by
  rw [query?, query]
  cases set.validate with
  | error refusal => rfl
  | ok valid =>
      cases stray? set with
      | some filter => rfl
      | none =>
          dsimp only
          split
          · rfl
          · exact run?_eq search window set _ _

/-- The kinds of errors that a search of a set made by adding filters may end with. -/
inductive Expected : SearchError → Prop where
  | noFilters : Expected .noFilters
  | noPositive (filters : String) : Expected (.noPositive filters)
  | scan (activity : ScanActivity) (filter : String) (cause : StoreError) :
      Expected (.scan activity filter cause)
  | deadline (timeout : Nat) : Expected (.deadline timeout)

theorem Interruption.expected {deadline : Deadline} {error : SearchError}
    (interruption : Interruption deadline error) : Expected error := by
  cases interruption with
  | scan activity filter cause => exact .scan activity filter cause
  | late passed => exact .deadline deadline.timeout

theorem query_expected {set : FilterSet} (built : set.Built) (state : State σ)
    {error : SearchError} (failed : (search.query set window state).1 = .error error) :
    Expected error := by
  cases allowed : set.validate with
  | ok valid => exact (query_concludes search window built allowed state error failed).expected
  | error refusal =>
      have refused : (search.query set window state).1 = .error refusal := by
        rw [query, allowed]
      obtain rfl := Except.error.inj (refused.symm.trans failed)
      unfold FilterSet.validate at allowed
      split at allowed
      · cases allowed
        exact .noFilters
      · split at allowed
        · cases allowed
          exact .noPositive _
        · cases allowed

end Searches

end Search

/-- Whatever a table holds, a search of a set made by adding filters reads no part of an item that
does not exist and ends with an answer or an expected error. Nor does reading the labels of a series
leave its record. -/
theorem reads_within_bounds :
    (∀ {σ : Type} [CostStore σ] (search : Search) (set : FilterSet) (window : Search.Window)
      (state : Search.State σ), set.Built →
        search.query? set window state = some (search.query set window state) ∧
          ∀ error, (search.query set window state).1 = .error error → Search.Expected error) ∧
      (∀ (store : Store) (tenant : Tenant) (id : UInt64),
        store.seriesLabels? tenant id = some (store.seriesLabels tenant id)) ∧
      ∀ record : Bytes, LabelRecord.decode? record = some (LabelRecord.decode record) := by
  refine ⟨?_, ?_, ?_⟩
  · intro σ _ search set window state built
    refine ⟨Search.query?_eq search window set state, fun error failed => ?_⟩
    exact Search.query_expected search window built state failed
  · exact Store.seriesLabels?_eq
  · exact LabelRecord.decode?_eq

/-! ## A sample -/

/-- Items under the key of the label `a` that are cut off in a value, in a bucket and behind it. -/
def brokenTable : Table :=
  let key := Key.namePrefix ⟨0, 0⟩ (Bytes.ofText "a")
  Table.empty.insertAll
    [key, key ++ [Key.escapeMark], key ++ Key.value (Bytes.ofText "x") ++ [0, 0, 0],
      key ++ Key.value (Bytes.ofText "x") ++ Bytes.ofWord64 0 ++ [1]]

/-- The postings of `a="x"` cannot be read, and neither can a record of two bytes. -/
theorem reads_within_bounds_sample :
    (Search.sampleSearch.query? (Search.sampleSet false false) ⟨0, 86400000, 2⟩
          ⟨⟨.ofTable .sqlite brokenTable, 0⟩, RecentCosts.empty 16, []⟩ =
        some (Search.sampleSearch.query (Search.sampleSet false false) ⟨0, 86400000, 2⟩
          ⟨⟨.ofTable .sqlite brokenTable, 0⟩, RecentCosts.empty 16, []⟩)) ∧
      LabelRecord.decode? [7, 0] = some (.error (.corrupt (.shortRecord 2))) := by
  obtain ⟨searches, -, records⟩ := reads_within_bounds
  refine ⟨?_, records [7, 0]⟩
  exact (searches Search.sampleSearch (Search.sampleSet false false) ⟨0, 86400000, 2⟩
    ⟨⟨.ofTable .sqlite brokenTable, 0⟩, RecentCosts.empty 16, []⟩
    (Search.sampleSet_built false false)).1

end SeriesIndex
