import SeriesIndex.Proofs.Search.Limit

/-!
# Searches whose deadline has passed

A scan looks at the clock before it looks at its first item. If the deadline has passed by then, the
scan ends with that item, whatever it is. So the search scans for its seed and for no other filter,
and it either reaches an item and is late or finds nothing.
-/

namespace SeriesIndex

/-- The first item not below one of some keys, which are tried in their order. -/
def Store.firstMet (store : Store) : List Bytes → Except StoreError (Option Bytes) × Store
  | [] => (.ok none, store)
  | start :: rest =>
      match store.firstFrom start with
      | (.ok none, store) => store.firstMet rest
      | met => met

theorem Store.firstMet_singleton (store : Store) (start : Bytes) :
    store.firstMet [start] = store.firstFrom start := by
  rw [firstMet]
  obtain ⟨met, after⟩ := store.firstFrom start
  cases met with
  | error cause => rfl
  | ok met => cases met <;> rfl

/-- On a store that can be read an item is met if there is one not below one of the keys. -/
theorem Store.firstMet_of_readable {store : Store} (readable : store.Readable)
    (starts : List Bytes) :
    ∃ met, (store.firstMet starts).1 = .ok met ∧
      (met.isSome = true ↔ ∃ start ∈ starts, ∃ item ∈ store.table.items, ¬ item < start) := by
  induction starts generalizing store with
  | nil => exact ⟨none, rfl, by simp⟩
  | cons start rest ih =>
      rw [firstMet, firstFrom_of_read (readable store.reads)]
      cases items : store.table.itemsFrom start true with
      | nil =>
          have all : ∀ item ∈ store.table.items, item < start := by
            intro item inside
            by_contra atLeast
            have met := Table.mem_itemsFrom.mpr ⟨inside, atLeast⟩
            rw [items] at met
            exact absurd met List.not_mem_nil
          obtain ⟨met, same, found⟩ :=
            @ih { store with reads := store.reads + 1 } readable
          refine ⟨met, same, found.trans ⟨?_, ?_⟩⟩
          · exact fun ⟨start, later, item⟩ => ⟨start, .tail _ later, item⟩
          · rintro ⟨other, inside, item, held, atLeast⟩
            rcases List.mem_cons.mp inside with rfl | later
            · exact absurd (all item held) atLeast
            · exact ⟨other, later, item, held, atLeast⟩
      | cons item later =>
          obtain ⟨inside, atLeast⟩ :=
            Table.mem_itemsFrom.mp (items ▸ List.mem_cons_self : item ∈ _)
          exact ⟨some item, rfl, by simpa using .inl ⟨item, inside, by simpa using atLeast⟩⟩

namespace Search

/-! ## Scans -/

/-- What comes of scans that have met an item, have met none, or could not go on, if the deadline
has passed. -/
def late (timeout : Nat) (failed : StoreError → SearchError) (state : ScanState) :
    Except StoreError (Option Bytes) × Store → Except SearchError IdentifierSet × ScanState
  | (.ok none, store) => (.ok .empty, { state with store := store })
  | (.ok (some _), store) => (.error (.deadline timeout), ⟨store, state.looks + 1⟩)
  | (.error cause, store) => (.error (failed cause), { state with store := store })

theorem late_ok {timeout : Nat} {failed : StoreError → SearchError} {state : ScanState}
    {met : Except StoreError (Option Bytes) × Store} {found : IdentifierSet}
    (given : (late timeout failed state met).1 = .ok found) : found = .empty := by
  obtain ⟨met, store⟩ := met
  cases met with
  | error cause => cases given
  | ok met =>
      cases met with
      | some item => cases given
      | none => exact (Except.ok.inj given).symm

section Scans

variable {search : Search} {window : Window} {state : ScanState}

/-- The first step of a scan looks at the clock. -/
theorem due_every (interval : UInt32) : (Pace.every interval).due = true := by
  simp [Pace.every, Pace.due]

/-- A scan does nothing about the first item that it reaches. -/
theorem scan_late {rules : ScanRules} (room : 0 < rules.limit)
    (passed : rules.deadline.passedAt state.looks = true)
    (visit : Bytes → IdentifierSet → Except SearchError Progress) (start : Bytes) :
    scan rules visit start .empty state =
      late rules.deadline.timeout rules.failed state (state.store.firstFrom start) := by
  have less : ¬ rules.limit ≤ IdentifierSet.empty.size := Nat.not_le.mpr room
  rw [scan, Store.firstFrom]
  cases stepped : state.store.next (state.store.cursor.seek start) with
  | mk more after =>
      obtain ⟨cursor, store⟩ := after
      cases more with
      | true =>
          have looked : lookAtClock rules.deadline (.every rules.checkInterval)
              { state with store := store } = (true, ⟨store, state.looks + 1⟩) := by
            rw [lookAtClock, if_pos (due_every _), passed]
          rw [walk_of_item less stepped, looked]
          rfl
      | false =>
          rw [walk_of_stop less stepped]
          dsimp only
          cases cursor.failure with
          | some error => rfl
          | none => rfl

/-- The key from which a filter scans for a listed value. -/
def valueStart (search : Search) (filter : Filter) (window : Window) (suffix : Bytes) : Bytes :=
  filter.key ++ suffix ++ [Key.valueEnd] ++ Bytes.ofWord64 (search.firstBucket window)

/-- The keys from which the scans of a filter step on. They take no step if nothing may be
collected. -/
def starts (search : Search) (filter : Filter) (window : Window) : List Bytes :=
  if window.limit = 0 then []
  else
    match filter.selection with
    | .listed _ => filter.suffixes.map (search.valueStart filter window)
    | .scanned _ _ => [filter.key]

/-- What the scans of a filter do. -/
def activity (filter : Filter) : ScanActivity :=
  match filter.selection with
  | .listed _ => .scanningPostings
  | .scanned _ _ => .scanningValues

theorem scanValues_late (room : 0 < window.limit)
    (passed : search.deadline.passedAt state.looks = true) (filter : Filter)
    (suffixes : List Bytes) :
    search.scanValues filter window none suffixes .empty state =
      late search.deadline.timeout (.scan .scanningPostings filter.render) state
        (state.store.firstMet (suffixes.map (search.valueStart filter window))) := by
  induction suffixes generalizing state with
  | nil => rfl
  | cons suffix rest ih =>
      have unsaturated : isSaturated window.limit none .empty = false := by
        rw [isSaturated, Option.any_none, Bool.or_false]
        exact decide_eq_false (Nat.not_le.mpr room)
      have here : search.scanValue filter window none suffix .empty state =
          late search.deadline.timeout (.scan .scanningPostings filter.render) state
            (state.store.firstFrom (search.valueStart filter window suffix)) :=
        scan_late room passed _ _
      rw [scanValues, here, List.map_cons, Store.firstMet]
      obtain ⟨met, store⟩ := state.store.firstFrom (search.valueStart filter window suffix)
      cases met with
      | error cause => rfl
      | ok met =>
          cases met with
          | some item => rfl
          | none =>
              dsimp only [late]
              rw [unsaturated]
              exact @ih { state with store := store } passed

/-- A scan that may collect nothing takes no step. -/
theorem scan_idle {rules : ScanRules} (nothing : rules.limit = 0)
    (visit : Bytes → IdentifierSet → Except SearchError Progress) (start : Bytes) :
    scan rules visit start .empty state = (.ok .empty, state) :=
  walk_of_full (nothing ▸ Nat.zero_le _)

theorem scanValues_idle (nothing : window.limit = 0) (filter : Filter) (suffixes : List Bytes) :
    search.scanValues filter window none suffixes .empty state = (.ok .empty, state) := by
  cases suffixes with
  | nil => rfl
  | cons suffix rest =>
      have here : search.scanValue filter window none suffix .empty state = (.ok .empty, state) :=
        scan_idle nothing _ _
      have saturated : isSaturated window.limit none .empty = true := by
        rw [nothing]
        rfl
      rw [scanValues, here]
      dsimp only
      rw [saturated]
      rfl

/-- An evaluation reaches one item at most, and does nothing about it. -/
theorem evaluate_late {filter : Filter} (sound : filter.Sound)
    (passed : search.deadline.passedAt state.looks = true) :
    search.evaluate filter window none state =
      late search.deadline.timeout (.scan (activity filter) filter.render) state
        (state.store.firstMet (search.starts filter window)) := by
  unfold Filter.Sound at sound
  rw [evaluate, starts, activity]
  cases selection : filter.selection with
  | listed values =>
      rw [selection] at sound
      dsimp only
      split
      · next nothing => cases nothing; exact absurd rfl sound
      · by_cases nothing : window.limit = 0
        · rw [if_pos nothing]
          exact scanValues_idle nothing filter _
        · rw [if_neg nothing]
          exact scanValues_late (Nat.pos_of_ne_zero nothing) passed filter _
      · next other => cases other
  | scanned start pattern =>
      dsimp only
      by_cases nothing : window.limit = 0
      · rw [if_pos nothing]
        exact scan_idle nothing _ _
      · rw [if_neg nothing, Store.firstMet_singleton]
        exact scan_late (Nat.pos_of_ne_zero nothing) passed _ _

end Scans

/-! ## Whole searches -/

section Searches

variable {σ : Type} [CostStore σ] {search : Search} {set : FilterSet} {window : Window}
  {state : State σ}

/-- The search that is late has evaluated its seed and nothing else. -/
theorem query_late {seed : Filter} {others : List Filter} (sound : seed.Sound)
    (valid : set.validate = .ok ()) (own : stray? set = none) (ordered : window.first ≤ window.last)
    (taken : takeSeed? (plan (search.date window) set state.costs).1 = some (seed, others))
    (passed : search.deadline.passedAt state.scans.looks = true) :
    let outcome := late search.deadline.timeout (.scan (activity seed) seed.render) state.scans
      (state.scans.store.firstMet (search.starts seed window))
    search.query set window state = (outcome.1,
      State.after search window set.tenant
        ⟨state.scans, (plan (search.date window) set state.costs).2, []⟩
        ⟨seed, none, outcome.1⟩ outcome.2) := by
  have full : within seed none = none := by simp [within]
  rw [query, valid, own]
  dsimp only
  rw [if_neg (UInt64.not_lt.mpr ordered), run_of_taken search window set taken, proceed, full,
    evaluate_late sound passed]
  obtain ⟨met, store⟩ := state.scans.store.firstMet (search.starts seed window)
  cases met with
  | error cause => rfl
  | ok met =>
      cases met with
      | some item => rfl
      | none => rfl

/-- If the deadline has passed when a search begins, the search finds nothing. The first item that
any of its scans reaches ends it with an error that tells the time it had, whatever the item is. Its
seed is then remembered as if it had as many identifiers as the limit allows. On a store that can be
read this happens exactly if there is an item not below one of the keys from which the seed's scans
step on. -/
theorem query_expired (built : set.Built) (valid : set.validate = .ok ())
    (ordered : window.first ≤ window.last)
    (passed : search.deadline.passedAt state.scans.looks = true) :
    (∀ found, (search.query set window state).1 = .ok found → found.isEmpty = true) ∧
    ∃ seed, search.seed? set window state.costs = some seed ∧
      (∀ item store,
        state.scans.store.firstMet (search.starts seed window) = (.ok (some item), store) →
        search.query set window state = (.error (.deadline search.deadline.timeout),
          ⟨⟨store, state.scans.looks + 1⟩,
            CostCache.record (plan (search.date window) set state.costs).2 (search.date window)
              set.tenant seed (UInt64.ofNat window.limit), []⟩)) ∧
      (state.scans.store.Readable →
        ((search.query set window state).1 = .error (.deadline search.deadline.timeout) ↔
          ∃ start ∈ search.starts seed window, ∃ item ∈ state.scans.store.table.items,
            ¬ item < start)) := by
  obtain ⟨seed, others, taken⟩ := exists_seed valid (search.date window) state.costs
  have first : search.seed? set window state.costs = some seed := by
    rw [seed?, taken]
    rfl
  have sound := (built.made seed (seed?_mem first).1).sound
  have outcome := query_late sound valid (stray?_of_built built) ordered taken passed
  dsimp only at outcome
  refine ⟨?_, seed, first, ?_, ?_⟩
  · intro found given
    rw [outcome] at given
    obtain rfl := late_ok given
    rfl
  · intro item store met
    have full : (Step.mk seed none (.error (.deadline search.deadline.timeout))).isFull = true :=
      (Step.isFull_eq _).trans rfl
    rw [outcome, met, late, State.after, Step.remember, if_pos full]
    rfl
  · intro readable
    obtain ⟨met, same, reached⟩ :=
      Store.firstMet_of_readable readable (search.starts seed window)
    rw [← reached, outcome]
    generalize state.scans.store.firstMet (search.starts seed window) = found at same
    obtain ⟨_, store⟩ := found
    cases same
    cases met with
    | some item => simp [late]
    | none => simp [late]

/-- An item that is no posting and lies behind all that is looked for still ends the search. -/
theorem query_expired_behind :
    (query ⟨86400000, 64, .passed 1000⟩ (sampleSet false false) ⟨0, 86400000, 1⟩
      ⟨⟨.ofTable .memory (Table.empty.insertAll [[255]]), 0⟩, RecentCosts.empty 16, []⟩).1 =
      .error (.deadline 1000) := by
  obtain ⟨-, seed, first, -, reached⟩ :=
    @query_expired RecentCosts _ ⟨86400000, 64, .passed 1000⟩ (sampleSet false false)
      ⟨0, 86400000, 1⟩
      ⟨⟨.ofTable .memory (Table.empty.insertAll [[255]]), 0⟩, RecentCosts.empty 16, []⟩
      (sampleSet_built false false) rfl (by decide) rfl
  obtain rfl := Option.some.inj ((sampleSet_seed false).symm.trans first)
  exact (reached fun _ => rfl).mpr ⟨_, .head _, [255], by decide, by decide⟩

end Searches

end Search

end SeriesIndex
