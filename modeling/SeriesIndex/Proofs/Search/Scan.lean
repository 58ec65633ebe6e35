import SeriesIndex.Proofs.IdentifierSet
import SeriesIndex.Proofs.Table
import SeriesIndex.Search.Scan

/-!
# What a scan collects

On a store that can be read and before its deadline, a scan is a pass over the items from its key
on. A pass that may collect any identifier gathers those it meets up to the limit. A pass that
stays within a set no larger than the limit collects all members of that set that it meets,
although it stops as soon as it has as many as the set.
-/

namespace SeriesIndex.Search

open IdentifierSet

/-! ## Adding the identifiers of a posting -/

theorem addUpTo_eq_gather {limit : Nat} {set : IdentifierSet} (room : set.size < limit)
    (ids : List UInt64) : addUpTo limit ids set = set.gather limit ids := by
  induction ids generalizing set with
  | nil => rfl
  | cons id ids ih =>
      rw [addUpTo, gather_cons room]
      by_cases full : limit ≤ (set.insert id).size
      · rw [gather_of_full full]
        exact if_pos full
      · rw [← ih (Nat.not_le.mp full)]
        exact if_neg full

theorem insertAll_eq_gather {limit : Nat} {set : IdentifierSet} {ids : List UInt64}
    (room : ids.length ≤ limit - set.size) : set.insertAll ids = set.gather limit ids := by
  induction ids generalizing set with
  | nil => rfl
  | cons id ids ih =>
      rw [List.length_cons] at room
      have grown := size_insert_le set id
      rw [gather_cons (by omega), ← ih (by omega)]
      ext other
      simp only [mem_insertAll, mem_insert, List.mem_cons]
      constructor
      · rintro (known | same | later)
        · exact .inl (.inr known)
        · exact .inl (.inl same)
        · exact .inr later
      · rintro ((same | known) | later)
        · exact .inr (.inl same)
        · exact .inl known
        · exact .inr (.inr later)

/-- Without another set to stay in, the identifiers of a posting are gathered. -/
theorem addIds_none {limit : Nat} {set : IdentifierSet} (room : set.size < limit)
    (ids : List UInt64) : addIds limit none ids set = set.gather limit ids := by
  by_cases few : ids.length ≤ limit - set.size
  · exact (if_pos few).trans (insertAll_eq_gather few)
  · exact (if_neg few).trans (addUpTo_eq_gather room ids)

theorem mem_addIds_some {limit : Nat} {set within : IdentifierSet} {ids : List UInt64}
    {id : UInt64} :
    id ∈ addIds limit (some within) ids set ↔ id ∈ set ∨ id ∈ ids ∧ id ∈ within := by
  simp [addIds]

/-! ## Passing over items -/

/-- What a scan makes of an item: it lies behind all that is looked for, is not wanted, or is a
posting of identifiers. -/
inductive Sight where
  | behind
  | unwanted
  | wanted (ids : List UInt64)

/-- What a scan does about an item. -/
def Sight.progress (limit : Nat) (among : Option IdentifierSet) :
    Sight → IdentifierSet → Progress
  | .behind, found => .enough found
  | .unwanted, found => .more found
  | .wanted ids, found => collect limit among ids found

/-- The identifiers of the wanted items, up to the first item behind. -/
def met (look : Bytes → Sight) : List Bytes → List UInt64
  | [] => []
  | item :: rest =>
      match look item with
      | .behind => []
      | .unwanted => met look rest
      | .wanted ids => ids ++ met look rest

/-- A scan of given items without failures. -/
def pass (limit : Nat) (visit : Bytes → IdentifierSet → Except SearchError Progress) :
    List Bytes → IdentifierSet → Except SearchError IdentifierSet
  | [], found => .ok found
  | item :: rest, found =>
      if limit ≤ found.size then .ok found
      else
        match visit item found with
        | .error error => .error error
        | .ok (.enough found) => .ok found
        | .ok (.more found) => pass limit visit rest found

/-- Nothing wanted lies behind an item that ends the scan, so every wanted item is met. -/
theorem mem_met {look : Bytes → Sight} {items : List Bytes}
    (ordered : items.Pairwise fun before after => look before = .behind → look after = .behind)
    {id : UInt64} :
    id ∈ met look items ↔ ∃ item ∈ items, ∃ ids, look item = .wanted ids ∧ id ∈ ids := by
  induction items with
  | nil => simp [met]
  | cons item rest ih =>
      obtain ⟨behind, tail⟩ := List.pairwise_cons.mp ordered
      rw [met]
      cases seen : look item with
      | behind =>
          constructor
          · exact fun impossible => absurd impossible List.not_mem_nil
          · rintro ⟨other, inside, ids, sight, _⟩
            rcases List.mem_cons.mp inside with rfl | later
            · rw [seen] at sight; cases sight
            · rw [behind other later seen] at sight; cases sight
      | unwanted => simp [ih tail, seen]
      | wanted ids => simp [ih tail, seen]

section Pass

variable {limit : Nat} {visit : Bytes → IdentifierSet → Except SearchError Progress}
  {look : Bytes → Sight}

/-- A free pass gathers what it meets. -/
theorem pass_none {items : List Bytes}
    (visits : ∀ item ∈ items, ∀ found,
      visit item found = .ok ((look item).progress limit none found)) (found : IdentifierSet) :
    pass limit visit items found = .ok (found.gather limit (met look items)) := by
  induction items generalizing found with
  | nil => rfl
  | cons item rest ih =>
      have here := visits item List.mem_cons_self found
      have later := ih fun other inside => visits other (.tail item inside)
      rw [pass, met]
      by_cases full : limit ≤ found.size
      · rw [if_pos full, gather_of_full full]
      · rw [if_neg full, here]
        cases look item with
        | behind => rfl
        | unwanted => exact later found
        | wanted ids =>
            have grown := addIds_none (Nat.not_le.mp full) ids
            simp only [Sight.progress, collect, isSaturated, Option.any_none, Bool.or_false,
              decide_eq_true_eq, grown, gather_append]
            by_cases filled : limit ≤ (found.gather limit ids).size
            · rw [if_pos filled, gather_of_full filled]
            · rw [if_neg filled]
              exact later _

/-- A pass within a set collects the members it meets. -/
theorem pass_some {within : IdentifierSet} (small : within.size ≤ limit) {items : List Bytes}
    (visits : ∀ item ∈ items, ∀ found,
      visit item found = .ok ((look item).progress limit (some within) found))
    {found : IdentifierSet} (inside : ∀ id ∈ found, id ∈ within) :
    ∃ after, pass limit visit items found = .ok after ∧
      ∀ id, id ∈ after ↔ id ∈ found ∨ id ∈ met look items ∧ id ∈ within := by
  -- a part of the set that is as large as the set leaves nothing to collect
  have complete : ∀ {part : IdentifierSet} (ids : List UInt64), (∀ id ∈ part, id ∈ within) →
      within.size ≤ part.size →
      ∀ id, id ∈ part ↔ id ∈ part ∨ id ∈ ids ∧ id ∈ within := fun ids part large id =>
    ⟨.inl, fun known => known.elim (fun before => before) fun new =>
      mem_of_subset_of_size_le part large new.2⟩
  induction items generalizing found with
  | nil => exact ⟨found, rfl, fun id => by simp [met]⟩
  | cons item rest ih =>
      have here := visits item List.mem_cons_self found
      have later := fun {found : IdentifierSet} => @ih (fun other inside =>
        visits other (.tail item inside)) found
      rw [pass, met]
      by_cases full : limit ≤ found.size
      · rw [if_pos full]
        exact ⟨found, rfl, complete _ inside (Nat.le_trans small full)⟩
      · rw [if_neg full, here]
        cases look item with
        | behind => exact ⟨found, rfl, fun id => by simp⟩
        | unwanted => exact later inside
        | wanted ids =>
            have grown : ∀ id ∈ addIds limit (some within) ids found, id ∈ within := fun id new =>
              (mem_addIds_some.mp new).elim (inside id) And.right
            have extended : ∀ {part : IdentifierSet} (more : List UInt64),
                (∀ id, id ∈ part ↔ id ∈ addIds limit (some within) ids found ∨
                  id ∈ more ∧ id ∈ within) →
                ∀ id, id ∈ part ↔ id ∈ found ∨ id ∈ ids ++ more ∧ id ∈ within := by
              intro part more members id
              rw [members id, mem_addIds_some, List.mem_append, or_and_right, or_assoc]
            simp only [Sight.progress, collect, isSaturated, Option.any_some, Bool.or_eq_true,
              decide_eq_true_eq]
            by_cases filled : limit ≤ (addIds limit (some within) ids found).size ∨
                within.size ≤ (addIds limit (some within) ids found).size
            · have large : within.size ≤ (addIds limit (some within) ids found).size :=
                filled.elim (Nat.le_trans small) fun large => large
              rw [if_pos filled]
              exact ⟨_, rfl, extended (met look rest) (complete _ grown large)⟩
            · rw [if_neg filled]
              obtain ⟨after, passed, members⟩ := later grown
              exact ⟨after, passed, extended (met look rest) members⟩

end Pass

/-! ## Walking over a store -/

section Walk

variable {rules : ScanRules} {visit : Bytes → IdentifierSet → Except SearchError Progress}
  {cursor : Cursor} {pace : Pace} {found : IdentifierSet} {state : ScanState}

theorem walk_of_full (full : rules.limit ≤ found.size) :
    walk rules visit cursor pace found state = (.ok found, state) := by
  rw [walk, if_pos full]

theorem walk_of_stop (room : ¬ rules.limit ≤ found.size) {after : Cursor} {store : Store}
    (stopped : state.store.next cursor = (false, after, store)) :
    walk rules visit cursor pace found state =
      match after.failure with
      | some error => (.error (rules.failed error), { state with store := store })
      | none => (.ok found, { state with store := store }) := by
  rw [walk, if_neg room]
  split
  · next moved => rw [stopped] at moved; cases moved; rfl
  · next moved => rw [stopped] at moved; cases moved

theorem walk_of_item (room : ¬ rules.limit ≤ found.size) {ahead : Cursor} {store : Store}
    (moves : state.store.next cursor = (true, ahead, store)) :
    walk rules visit cursor pace found state =
      if (lookAtClock rules.deadline pace { state with store := store }).1 then
        (.error (.deadline rules.deadline.timeout),
          (lookAtClock rules.deadline pace { state with store := store }).2)
      else
        match visit ahead.current found with
        | .error error =>
            (.error error, (lookAtClock rules.deadline pace { state with store := store }).2)
        | .ok (.enough found) =>
            (.ok found, (lookAtClock rules.deadline pace { state with store := store }).2)
        | .ok (.more found) =>
            walk rules visit ahead pace.step found
              { (lookAtClock rules.deadline pace { state with store := store }).2 with
                store := store } := by
  rw [walk, if_neg room]
  split
  · next moved => rw [moves] at moved; cases moved
  · next moved => rw [moves] at moved; cases moved; rfl

theorem lookAtClock_store (deadline : Deadline) (pace : Pace) (state : ScanState) :
    (lookAtClock deadline pace state).2.store = state.store := by
  unfold lookAtClock
  split <;> rfl

/-- No read of the store fails, and the deadline is never found to have passed. -/
structure Calm (deadline : Deadline) (store : Store) : Prop where
  readable : store.Readable
  timely : ∀ look, deadline.passedAt look = false

theorem Calm.of_rereads {deadline : Deadline} {before after : Store}
    (calm : Calm deadline before) (same : before.Rereads after) : Calm deadline after :=
  ⟨calm.readable.of_rereads same, calm.timely⟩

/-- A result is as it should be, or else something has disturbed the search and it is an error. -/
def Settles {α : Type} (calm : Prop) (result : Except SearchError α) (meets : α → Prop) : Prop :=
  (∃ value, result = .ok value ∧ meets value) ∨ ((∃ error, result = .error error) ∧ ¬ calm)

theorem lookAtClock_passed {deadline : Deadline} {pace : Pace} {state : ScanState}
    (passed : (lookAtClock deadline pace state).1 = true) :
    deadline.passedAt state.looks = true := by
  unfold lookAtClock at passed
  split at passed
  · exact passed
  · cases passed

/-- A walk is a pass over what lies ahead of its cursor, if nothing disturbs it. -/
theorem walk_eq_pass (ready : cursor.Ready) (pace : Pace) (found : IdentifierSet)
    (state : ScanState) :
    state.store.Rereads (walk rules visit cursor pace found state).2.store ∧
      ((walk rules visit cursor pace found state).1 =
          pass rules.limit visit (cursor.ahead state.store.table) found ∨
        (∃ error, (walk rules visit cursor pace found state).1 = .error error) ∧
          ¬ Calm rules.deadline state.store) := by
  generalize lying : cursor.ahead state.store.table = items
  induction items generalizing cursor pace found state with
  | nil =>
      by_cases full : rules.limit ≤ found.size
      · rw [walk_of_full full]
        exact ⟨.refl _, .inl rfl⟩
      · have reread := state.store.next_rereads cursor
        cases fault : state.store.medium.read state.store.reads with
        | some error =>
            have stopped := Store.next_of_fault fault cursor
            rw [stopped] at reread
            rw [walk_of_stop full stopped]
            exact ⟨reread, .inr ⟨⟨_, rfl⟩, fun calm => by
              simp [calm.readable state.store.reads] at fault⟩⟩
        | none =>
            obtain ⟨stays, sound⟩ := ready.next_of_nil lying
            have stopped := Store.next_of_read fault cursor
            rw [stays] at stopped
            rw [stopped] at reread
            rw [walk_of_stop full stopped, sound]
            exact ⟨reread, .inl rfl⟩
  | cons item rest ih =>
      by_cases full : rules.limit ≤ found.size
      · rw [pass, if_pos full, walk_of_full full]
        exact ⟨.refl _, .inl rfl⟩
      · have reread := state.store.next_rereads cursor
        cases fault : state.store.medium.read state.store.reads with
        | some error =>
            have stopped := Store.next_of_fault fault cursor
            rw [stopped] at reread
            rw [walk_of_stop full stopped]
            exact ⟨reread, .inr ⟨⟨_, rfl⟩, fun calm => by
              simp [calm.readable state.store.reads] at fault⟩⟩
        | none =>
            obtain ⟨ahead, moves, current, remaining, still⟩ := ready.next_of_cons lying
            have moved := Store.next_of_read fault cursor
            rw [moves] at moved
            rw [moved] at reread
            rw [walk_of_item full moved, current, pass, if_neg full]
            split
            · next passed =>
                refine ⟨(lookAtClock_store _ _ _).symm ▸ reread, .inr ⟨⟨_, rfl⟩, fun calm => ?_⟩⟩
                have late := lookAtClock_passed passed
                rw [calm.timely] at late
                cases late
            · cases visit item found with
              | error error => exact ⟨(lookAtClock_store _ _ _).symm ▸ reread, .inl rfl⟩
              | ok progress =>
                  cases progress with
                  | enough found => exact ⟨(lookAtClock_store _ _ _).symm ▸ reread, .inl rfl⟩
                  | more found =>
                      obtain ⟨same, walked⟩ := ih still pace.step found
                        ⟨{ state.store with reads := state.store.reads + 1 },
                          (lookAtClock rules.deadline pace _).2.looks⟩ remaining
                      exact ⟨reread.trans same, walked.imp_right fun ⟨failed, disturbed⟩ =>
                        ⟨failed, fun calm => disturbed (calm.of_rereads reread)⟩⟩

/-- A scan is a pass over the items from its key on, if nothing disturbs it. -/
theorem scan_eq_pass (rules : ScanRules)
    (visit : Bytes → IdentifierSet → Except SearchError Progress) (start : Bytes)
    (found : IdentifierSet) (state : ScanState) :
    state.store.Rereads (scan rules visit start found state).2.store ∧
      ((scan rules visit start found state).1 =
          pass rules.limit visit (state.store.table.itemsFrom start true) found ∨
        (∃ error, (scan rules visit start found state).1 = .error error) ∧
          ¬ Calm rules.deadline state.store) :=
  walk_eq_pass (state.store.cursor_ready start) _ found state

end Walk

end SeriesIndex.Search
