import SeriesIndex.Proofs.Filter
import SeriesIndex.Proofs.Key.Windows
import SeriesIndex.Proofs.Search.Scan
import SeriesIndex.Search

/-!
# What a filter matches

An identifier matches a filter if it occurs in a posting of the filter's label whose value the
filter wants and whose bucket lies in the window. Evaluating a filter collects such identifiers: all
of them among a given set, or as many of all as the limit allows.
-/

namespace SeriesIndex

/-- The item is a posting of at least one identifier. -/
def Key.IsPosting (item : Bytes) : Prop :=
  ∃ tenant label content bucket ids, ids ≠ [] ∧
    item = Key.posting tenant label content bucket ids

/-- Every item of the table under the label of the filter is a posting. -/
def Filter.ReadsPostings (filter : Filter) (table : Table) : Prop :=
  ∀ item ∈ table.items, filter.labelKey <+: item → Key.IsPosting item

/-- The identifier occurs in a posting of the filter's label, with a wanted value and a bucket in
the window. -/
def Search.Matches (search : Search) (window : Search.Window) (table : Table) (filter : Filter)
    (id : UInt64) : Prop :=
  ∃ content bucket ids,
    Key.posting filter.tenant (Bytes.ofText filter.name) content bucket ids ∈ table.items ∧
      id ∈ ids ∧ search.firstBucket window ≤ bucket ∧ bucket < window.last ∧
      filter.Wants content

namespace Search

open IdentifierSet

/-! ## Collecting -/

/-- What has been collected lies in the set to stay in, which the limit allows in full. -/
def Fits (limit : Nat) (among : Option IdentifierSet) (found : IdentifierSet) : Prop :=
  ∀ within, among = some within → within.size ≤ limit ∧ ∀ id ∈ found, id ∈ within

/-- What becomes of a collection by further identifiers: all that lie in the set to stay in are
added, or without such a set as many as the limit allows. -/
def Collected (limit : Nat) (among : Option IdentifierSet) (before : IdentifierSet)
    (ids : List UInt64) (after : IdentifierSet) : Prop :=
  match among with
  | none => after = before.gather limit ids
  | some within => ∀ id, id ∈ after ↔ id ∈ before ∨ id ∈ ids ∧ id ∈ within

section Collecting

variable {limit : Nat} {among : Option IdentifierSet} {before between after : IdentifierSet}
  {ids others : List UInt64}

theorem Collected.fits (collected : Collected limit among before ids after)
    (fits : Fits limit among before) : Fits limit among after := by
  rintro within rfl
  obtain ⟨small, inside⟩ := fits within rfl
  exact ⟨small, fun id found => ((collected id).mp found).elim (inside id) And.right⟩

theorem Collected.append (first : Collected limit among before ids between)
    (second : Collected limit among between others after) :
    Collected limit among before (ids ++ others) after := by
  cases among with
  | none => exact second.trans (first ▸ (gather_append limit before ids others).symm)
  | some within =>
      intro id
      rw [second id, first id, List.mem_append, or_and_right, or_assoc]

/-- Once no identifier can be added, further ones change nothing. -/
theorem Collected.of_saturated (fits : Fits limit among before)
    (full : isSaturated limit among before = true) :
    Collected limit among before ids before := by
  cases among with
  | none => exact (gather_of_full (by simpa [isSaturated] using full) ids).symm
  | some within =>
      obtain ⟨small, inside⟩ := fits within rfl
      have large : within.size ≤ before.size := by
        rcases (by simpa [isSaturated] using full : limit ≤ before.size ∨
          within.size ≤ before.size) with reached | reached
        · exact Nat.le_trans small reached
        · exact reached
      exact fun id => ⟨.inl, fun known => known.elim (fun old => old) fun new =>
        mem_of_subset_of_size_le inside large new.2⟩

theorem pass_collected {visit : Bytes → IdentifierSet → Except SearchError Progress}
    {look : Bytes → Sight} {items : List Bytes}
    (visits : ∀ item ∈ items, ∀ found,
      visit item found = .ok ((look item).progress limit among found))
    (fits : Fits limit among before) :
    ∃ after, pass limit visit items before = .ok after ∧
      Collected limit among before (met look items) after := by
  cases among with
  | none => exact ⟨_, pass_none visits before, rfl⟩
  | some within =>
      obtain ⟨small, inside⟩ := fits within rfl
      exact pass_some small visits inside

end Collecting

/-! ## One listed value -/

/-- What the postings of a value start with. -/
def stem (filter : Filter) (content : Bytes) : Bytes :=
  filter.labelKey ++ Key.escape content ++ [Key.valueEnd]

/-- What a scan of one value makes of an item. -/
def sightOfValue (filter : Filter) (window : Window) (content item : Bytes) : Sight :=
  if stem filter content ++ Bytes.ofWord64 window.last < item then .behind
  else
    match Key.takePosting (item.drop (stem filter content).length) with
    | .ok (_, ids) => .wanted ids
    | .error _ => .unwanted

/-- The identifiers of the postings of a value in the window, in the order of the table. -/
def idsOfValue (search : Search) (filter : Filter) (window : Window) (table : Table)
    (content : Bytes) : List UInt64 :=
  met (sightOfValue filter window content)
    (table.itemsFrom (stem filter content ++ Bytes.ofWord64 (search.firstBucket window)) true)

theorem posting_eq_stem (filter : Filter) (content : Bytes) (bucket : UInt64)
    (ids : List UInt64) :
    Key.posting filter.tenant (Bytes.ofText filter.name) content bucket ids =
      stem filter content ++ (Bytes.ofWord64 bucket ++ ids.flatMap Bytes.ofWord64) := by
  simp [Key.posting_eq, stem, Filter.labelKey]

theorem stem_append (filter : Filter) (content : Bytes) (time : UInt64) :
    stem filter content ++ Bytes.ofWord64 time =
      Key.windowKey filter.tenant (Bytes.ofText filter.name) content time := rfl

section Reading

variable {filter : Filter} {window : Window} {table : Table} {content : Bytes}

/-- A posting under the label of a filter, with its parts. -/
theorem posting_of_labelKey (postings : filter.ReadsPostings table) {item : Bytes}
    (inside : item ∈ table.items) (begins : filter.labelKey <+: item) :
    ∃ content bucket ids, ids ≠ [] ∧
      item = Key.posting filter.tenant (Bytes.ofText filter.name) content bucket ids := by
  obtain ⟨tenant, label, content, bucket, ids, some, rfl⟩ := postings item inside begins
  obtain ⟨rfl, rfl⟩ := Key.namePrefix_prefix_posting_iff.mp begins
  exact ⟨content, bucket, ids, some, rfl⟩

theorem labelKey_prefix_stem : filter.labelKey <+: stem filter content :=
  ⟨Key.escape content ++ [Key.valueEnd], by simp [stem]⟩

/-- An item between the ends of the window of a value is a posting of the value in the window. -/
theorem posting_of_between (search : Search) (postings : filter.ReadsPostings table) {item : Bytes}
    (inside : item ∈ table.items)
    (above : ¬ item < stem filter content ++ Bytes.ofWord64 (search.firstBucket window))
    (below : ¬ stem filter content ++ Bytes.ofWord64 window.last < item) :
    ∃ bucket ids, ids ≠ [] ∧
      item = Key.posting filter.tenant (Bytes.ofText filter.name) content bucket ids ∧
      search.firstBucket window ≤ bucket ∧ bucket < window.last := by
  have begins : stem filter content <+: item := Bytes.prefix_of_between above below
  obtain ⟨text, bucket, ids, some, rfl⟩ :=
    posting_of_labelKey postings inside (labelKey_prefix_stem.trans begins)
  obtain ⟨-, -, rfl, first, last⟩ := (Key.between_iff some).mp ⟨above, below⟩
  exact ⟨bucket, ids, some, rfl, first, last⟩

theorem takePosting_drop_stem (filter : Filter) (content : Bytes) (bucket : UInt64)
    {ids : List UInt64} (some : ids ≠ []) :
    Key.takePosting ((Key.posting filter.tenant (Bytes.ofText filter.name) content bucket
      ids).drop (stem filter content).length) = .ok (bucket, ids) := by
  rw [posting_eq_stem, List.drop_left, Key.takePosting_append bucket some]

theorem mem_idsOfValue {search : Search} (postings : filter.ReadsPostings table) {id : UInt64} :
    id ∈ search.idsOfValue filter window table content ↔ ∃ bucket ids,
      Key.posting filter.tenant (Bytes.ofText filter.name) content bucket ids ∈ table.items ∧
        id ∈ ids ∧ search.firstBucket window ≤ bucket ∧ bucket < window.last := by
  have ordered := (table.itemsFrom_ascending
    (stem filter content ++ Bytes.ofWord64 (search.firstBucket window)) true).imp
    (S := fun before after => sightOfValue filter window content before = .behind →
      sightOfValue filter window content after = .behind) fun {before after} less behind => by
        unfold sightOfValue at behind ⊢
        by_cases passed : stem filter content ++ Bytes.ofWord64 window.last < before
        · rw [if_pos (List.lt_trans passed less)]
        · rw [if_neg passed] at behind
          split at behind <;> cases behind
  rw [idsOfValue, mem_met ordered]
  constructor
  · rintro ⟨item, ahead, ids, sight, wanted⟩
    obtain ⟨inside, above⟩ := Table.mem_itemsFrom.mp ahead
    unfold sightOfValue at sight
    by_cases below : stem filter content ++ Bytes.ofWord64 window.last < item
    · rw [if_pos below] at sight; cases sight
    · obtain ⟨bucket, own, some, rfl, first, last⟩ :=
        posting_of_between search postings inside above below
      rw [if_neg below, takePosting_drop_stem _ _ bucket some] at sight
      cases sight
      exact ⟨bucket, ids, inside, wanted, first, last⟩
  · rintro ⟨bucket, ids, inside, wanted, first, last⟩
    have some : ids ≠ [] := List.ne_nil_of_mem wanted
    obtain ⟨above, below⟩ := (Key.between_iff some).mpr ⟨rfl, rfl, rfl, first, last⟩
    refine ⟨_, Table.mem_itemsFrom.mpr ⟨inside, above⟩, ids, ?_, wanted⟩
    rw [sightOfValue, stem_append, if_neg below, takePosting_drop_stem _ _ bucket some]

end Reading

/-! ## All values -/

/-- What a scan of all values makes of an item. -/
def sightOfAny (search : Search) (filter : Filter) (window : Window) (pattern : Pattern)
    (item : Bytes) : Sight :=
  if Bytes.startsWith item filter.key then
    match Key.takeField Key.valueEnd (item.drop filter.labelKey.length) with
    | .error _ => .unwanted
    | .ok (content, tail) =>
        match Key.takePosting tail with
        | .error _ => .unwanted
        | .ok (bucket, ids) =>
            if search.wanted filter window pattern content bucket then .wanted ids else .unwanted
  else .behind

/-- The identifiers of the postings with a wanted value in the window, in the order of the table. -/
def idsOfAny (search : Search) (filter : Filter) (window : Window) (table : Table)
    (pattern : Pattern) : List UInt64 :=
  met (search.sightOfAny filter window pattern) (table.itemsFrom filter.key true)

section Looking

variable {search : Search} {filter : Filter} {window : Window} {table : Table}
  {pattern : Pattern}

theorem labelKey_prefix_key : filter.labelKey <+: filter.key := by
  unfold Filter.key
  split
  · exact List.prefix_rfl
  · exact List.prefix_append _ _

theorem takeField_posting (content : Bytes) (bucket : UInt64) (ids : List UInt64) :
    Key.takeField Key.valueEnd ((Key.posting filter.tenant (Bytes.ofText filter.name) content
      bucket ids).drop filter.labelKey.length) =
      .ok (content, Bytes.ofWord64 bucket ++ ids.flatMap Bytes.ofWord64) := by
  rw [Key.posting_eq, Filter.labelKey, List.drop_left,
    Key.takeField_escape Key.closes_valueEnd]

theorem sightOfAny_posting (content : Bytes) (bucket : UInt64) {ids : List UInt64}
    (some : ids ≠ []) (begins : filter.key <+:
      Key.posting filter.tenant (Bytes.ofText filter.name) content bucket ids) :
    search.sightOfAny filter window pattern
        (Key.posting filter.tenant (Bytes.ofText filter.name) content bucket ids) =
      if search.wanted filter window pattern content bucket then .wanted ids else .unwanted := by
  rw [sightOfAny, if_pos (Bytes.startsWith_iff.mpr begins), takeField_posting]
  simp only [Key.takePosting_append bucket some]

theorem sightOfAny_ordered :
    (table.itemsFrom filter.key true).Pairwise fun before after =>
      search.sightOfAny filter window pattern before = .behind →
        search.sightOfAny filter window pattern after = .behind := by
  refine (table.itemsFrom_ascending filter.key true).imp_of_mem ?_
  intro before after earlier _ less behind
  by_cases begins : Bytes.startsWith after filter.key = true
  · obtain ⟨more, rfl⟩ := Bytes.startsWith_iff.mp begins
    have above := (Table.mem_itemsFrom.mp earlier).2
    rw [← List.append_nil filter.key] at above
    have start := Bytes.prefix_of_between above (List.lt_asymm less)
    rw [sightOfAny, if_pos (Bytes.startsWith_iff.mpr start)] at behind
    -- an item under the key is never behind, whatever its parts are
    split at behind
    · cases behind
    · split at behind
      · cases behind
      · split at behind <;> cases behind
  · rw [sightOfAny, if_neg begins]

theorem wanted_iff {content : Bytes} {bucket : UInt64} :
    search.wanted filter window pattern content bucket = true ↔
      search.firstBucket window ≤ bucket ∧ bucket < window.last ∧
        pattern.accepts content = !filter.inverted := by
  simp only [wanted, Bool.and_eq_true, decide_eq_true_eq, bne_iff_ne, ne_eq, Bool.eq_not,
    and_assoc]

theorem mem_idsOfAny (postings : filter.ReadsPostings table) {start : Bytes}
    (scanned : filter.selection = .scanned start pattern) (sound : filter.Sound) {id : UInt64} :
    id ∈ search.idsOfAny filter window table pattern ↔ search.Matches window table filter id := by
  have key : filter.key = filter.labelKey ++ Key.escape start := by
    rw [Filter.key, scanned]
  have wants : ∀ content, filter.Wants content ↔ pattern.accepts content = !filter.inverted := by
    intro content
    rw [Filter.Wants, scanned]
  have common : ∀ content, filter.Wants content → start <+: content := by
    rwa [Filter.Sound, scanned] at sound
  rw [idsOfAny, mem_met sightOfAny_ordered]
  constructor
  · rintro ⟨item, ahead, ids, sight, found⟩
    have inside := (Table.mem_itemsFrom.mp ahead).1
    by_cases begins : Bytes.startsWith item filter.key = true
    · have under := Bytes.startsWith_iff.mp begins
      obtain ⟨content, bucket, own, some, rfl⟩ :=
        posting_of_labelKey postings inside (labelKey_prefix_key.trans under)
      rw [sightOfAny_posting content bucket some under] at sight
      split at sight
      · next wanted =>
          cases sight
          obtain ⟨first, last, accepted⟩ := wanted_iff.mp wanted
          exact ⟨content, bucket, ids, inside, found, first, last, (wants content).mpr accepted⟩
      · cases sight
    · rw [sightOfAny, if_neg begins] at sight
      cases sight
  · rintro ⟨content, bucket, ids, inside, found, first, last, wanted⟩
    have some : ids ≠ [] := List.ne_nil_of_mem found
    have under : filter.key <+:
        Key.posting filter.tenant (Bytes.ofText filter.name) content bucket ids := by
      rw [key, Key.posting_eq]
      exact (List.prefix_append_right_inj filter.labelKey).mpr
        ((Key.escape_prefix_iff Key.closes_valueEnd start content _).mpr (common content wanted))
    refine ⟨_, Table.mem_itemsFrom.mpr ⟨inside, ?_⟩, ids, ?_, found⟩
    · obtain ⟨more, whole⟩ := under
      exact whole ▸ Bytes.not_append_lt filter.key more
    · rw [sightOfAny_posting content bucket some under]
      exact if_pos (wanted_iff.mpr ⟨first, last, (wants content).mp wanted⟩)

end Looking

/-! ## All that a filter meets -/

/-- The identifiers that a filter matches in the order in which its evaluation meets them. -/
def idsOf (search : Search) (filter : Filter) (window : Window) (table : Table) : List UInt64 :=
  match filter.selection with
  | .listed values => values.flatMap (search.idsOfValue filter window table)
  | .scanned _ pattern => search.idsOfAny filter window table pattern

theorem mem_idsOf {search : Search} {filter : Filter} {window : Window} {table : Table}
    (postings : filter.ReadsPostings table) (sound : filter.Sound) {id : UInt64} :
    id ∈ search.idsOf filter window table ↔ search.Matches window table filter id := by
  unfold idsOf
  split
  · next values listed =>
      have wants : ∀ content, filter.Wants content ↔ content ∈ values := fun content => by
        rw [Filter.Wants, listed]
      rw [List.mem_flatMap]
      constructor
      · rintro ⟨content, inside, found⟩
        obtain ⟨bucket, ids, held, wanted, first, last⟩ := (mem_idsOfValue postings).mp found
        exact ⟨content, bucket, ids, held, wanted, first, last, (wants content).mpr inside⟩
      · rintro ⟨content, bucket, ids, held, wanted, first, last, inside⟩
        exact ⟨content, (wants content).mp inside,
          (mem_idsOfValue postings).mpr ⟨bucket, ids, held, wanted, first, last⟩⟩
  · next scanned => exact mem_idsOfAny postings scanned sound

/-! ## Evaluations -/

/-- The result is a collection of the identifiers unless something disturbs the search, and the
store holds the same table as before. -/
def Gives (search : Search) (limit : Nat) (among : Option IdentifierSet) (before : IdentifierSet)
    (ids : List UInt64) (store : Store)
    (outcome : Except SearchError IdentifierSet × ScanState) : Prop :=
  store.Rereads outcome.2.store ∧
    Settles (Calm search.deadline store) outcome.1 (Collected limit among before ids)

section Evaluating

variable {search : Search} {filter : Filter} {window : Window} {among : Option IdentifierSet}
  {state : ScanState}

/-- A scan gives what it meets, if it makes of every item what `look` makes of it. -/
theorem scan_gives {failed : StoreError → SearchError} {limit : Nat}
    {visit : Bytes → IdentifierSet → Except SearchError Progress} (look : Bytes → Sight)
    {start : Bytes} {found : IdentifierSet} (fits : Fits limit among found)
    (visits : ∀ item ∈ state.store.table.itemsFrom start true, ∀ found,
      visit item found = .ok ((look item).progress limit among found)) :
    search.Gives limit among found (met look (state.store.table.itemsFrom start true))
      state.store
      (scan ⟨search.deadline, search.checkInterval, limit, failed⟩ visit start found state) := by
  obtain ⟨after, passed, collected⟩ := pass_collected visits fits
  obtain ⟨same, scanned⟩ := scan_eq_pass ⟨search.deadline, search.checkInterval, limit, failed⟩
    visit start found state
  exact ⟨same, scanned.imp_left fun scanned => ⟨after, scanned.trans passed, collected⟩⟩

theorem scanValue_gives (search : Search)
    (postings : filter.ReadsPostings state.store.table) (content : Bytes)
    (key : filter.key = filter.labelKey) {found : IdentifierSet}
    (fits : Fits window.limit among found) :
    search.Gives window.limit among found
      (search.idsOfValue filter window state.store.table content) state.store
      (search.scanValue filter window among (Key.escape content) found state) := by
  rw [scanValue, key]
  refine scan_gives (sightOfValue filter window content) fits ?_
  intro item ahead found
  obtain ⟨inside, above⟩ := Table.mem_itemsFrom.mp ahead
  change (if stem filter content ++ Bytes.ofWord64 window.last < item then _ else _) = _
  unfold sightOfValue
  by_cases below : stem filter content ++ Bytes.ofWord64 window.last < item
  · rw [if_pos below, if_pos below]
    rfl
  · obtain ⟨bucket, ids, some, rfl, _, _⟩ :=
      posting_of_between search postings inside above below
    have read := takePosting_drop_stem filter content bucket some
    rw [stem] at read
    rw [if_neg below, if_neg below, stem, read]
    rfl

theorem scanValues_gives (search : Search)
    (postings : filter.ReadsPostings state.store.table)
    (key : filter.key = filter.labelKey) (values : List Bytes) {found : IdentifierSet}
    (fits : Fits window.limit among found) :
    search.Gives window.limit among found
      (values.flatMap (search.idsOfValue filter window state.store.table)) state.store
      (search.scanValues filter window among (values.map Key.escape) found state) := by
  induction values generalizing found state with
  | nil =>
      refine ⟨.refl _, .inl ⟨found, rfl, ?_⟩⟩
      cases among with
      | none => rfl
      | some within => exact fun id => by simp
  | cons content rest ih =>
      have first := scanValue_gives search postings content key fits
      rw [List.map_cons, scanValues, List.flatMap_cons]
      generalize search.scanValue filter window among (Key.escape content) found state = outcome
        at first ⊢
      obtain ⟨result, next⟩ := outcome
      obtain ⟨same, ⟨between, rfl, collected⟩ | ⟨⟨error, rfl⟩, disturbed⟩⟩ := first
      · dsimp only
        split
        · next full =>
            exact ⟨same, .inl ⟨between, rfl,
              collected.append (.of_saturated (collected.fits fits) full)⟩⟩
        · obtain ⟨sameRest, settles⟩ := ih (same.table ▸ postings) (collected.fits fits)
          rw [same.table] at settles
          refine ⟨same.trans sameRest, settles.imp ?_ ?_⟩
          · exact fun ⟨after, given, collectedRest⟩ =>
              ⟨after, given, collected.append collectedRest⟩
          · exact fun ⟨failed, disturbed⟩ =>
              ⟨failed, fun calm => disturbed (calm.of_rereads same)⟩
      · exact ⟨same, .inr ⟨⟨error, rfl⟩, disturbed⟩⟩

theorem scanAll_gives (postings : filter.ReadsPostings state.store.table) (pattern : Pattern)
    (fits : Fits window.limit among .empty) :
    search.Gives window.limit among .empty
      (search.idsOfAny filter window state.store.table pattern) state.store
      (search.scanAll filter window among pattern state) := by
  rw [scanAll]
  refine scan_gives (search.sightOfAny filter window pattern) fits ?_
  intro item ahead found
  have inside := (Table.mem_itemsFrom.mp ahead).1
  dsimp only
  by_cases begins : Bytes.startsWith item filter.key = true
  · have under := Bytes.startsWith_iff.mp begins
    obtain ⟨content, bucket, ids, some, rfl⟩ :=
      posting_of_labelKey postings inside (labelKey_prefix_key.trans under)
    rw [sightOfAny_posting content bucket some under, begins, takeField_posting,
      if_neg (by decide)]
    simp only [Key.takePosting_append bucket some]
    split <;> rfl
  · rw [sightOfAny, if_neg begins, if_pos (by simp [begins])]
    rfl

/-- An evaluation gives what the filter meets. -/
theorem evaluate_gives (postings : filter.ReadsPostings state.store.table)
    (sound : filter.Sound) (fits : Fits window.limit among .empty) :
    search.Gives window.limit among .empty (search.idsOf filter window state.store.table)
      state.store (search.evaluate filter window among state) := by
  unfold evaluate idsOf
  cases chosen : filter.selection with
  | listed values =>
      have key : filter.key = filter.labelKey := by rw [Filter.key, chosen]
      have suffixes : filter.suffixes = values.map Key.escape := by rw [Filter.suffixes, chosen]
      rw [Filter.Sound, chosen] at sound
      have scans := scanValues_gives search postings key values fits
      cases values with
      | nil => exact absurd rfl sound
      | cons content rest => rwa [← suffixes] at scans
  | scanned start pattern => exact scanAll_gives postings pattern fits

/-- An evaluation in full gathers what the filter meets. -/
theorem evaluate_none (postings : filter.ReadsPostings state.store.table)
    (sound : filter.Sound) :
    state.store.Rereads (search.evaluate filter window none state).2.store ∧
      Settles (Calm search.deadline state.store) (search.evaluate filter window none state).1
        (· = empty.gather window.limit (search.idsOf filter window state.store.table)) :=
  evaluate_gives postings sound fun within impossible => by cases impossible

/-- An evaluation among a set that the limit allows gives the members that match. -/
theorem evaluate_some (search : Search) (postings : filter.ReadsPostings state.store.table)
    (sound : filter.Sound) {within : IdentifierSet} (small : within.size ≤ window.limit) :
    state.store.Rereads (search.evaluate filter window (some within) state).2.store ∧
      Settles (Calm search.deadline state.store)
        (search.evaluate filter window (some within) state).1 fun matched =>
        ∀ id, id ∈ matched ↔ search.Matches window state.store.table filter id ∧ id ∈ within := by
  have fits : Fits window.limit (some within) .empty := by
    rintro _ ⟨⟩
    exact ⟨small, fun id impossible => absurd impossible (not_mem_empty id)⟩
  obtain ⟨same, settles⟩ : search.Gives window.limit (some within) .empty _ _ _ :=
    evaluate_gives postings sound fits
  refine ⟨same, settles.imp_left fun ⟨matched, evaluated, collected⟩ =>
    ⟨matched, evaluated, fun id => ?_⟩⟩
  rw [collected id, mem_idsOf postings sound]
  simp

end Evaluating

end Search

end SeriesIndex
