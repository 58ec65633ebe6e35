import SeriesIndex.Proofs.Search.Exact

/-!
# Evaluations under a limit or within a set

A limit cuts an evaluation off in the order in which its matches are met: what is collected are the
first of them, each counted once, and a larger limit only adds to them. An evaluation within a set
stops as soon as it has as many identifiers as the set. It gives nevertheless all that the filter
matches in the set, as if it had been evaluated without a limit and intersected with the set.
-/

namespace SeriesIndex.Search

open IdentifierSet

/-- The same times, with another limit. -/
def Window.withLimit (window : Window) (limit : Nat) : Window := { window with limit := limit }

section Evaluations

variable {search : Search} {window : Window} {table : Table} {filter : Filter} {tenant : Tenant}

/-- An evaluation in full gives the first of what the filter meets, each counted once. The order in
which it is met has nothing to do with the limit. -/
theorem evaluate_limited (made : filter.Made tenant) {state : ScanState}
    (postings : filter.ReadsPostings state.store.table) (limit : Nat) :
    Settles (Calm search.deadline state.store)
      (search.evaluate filter (window.withLimit limit) none state).1
      (· = ofList ((search.idsOf filter window state.store.table).eraseDups.take limit)) := by
  have gathered : state.store.Rereads
        (search.evaluate filter (window.withLimit limit) none state).2.store ∧
      Settles (Calm search.deadline state.store)
        (search.evaluate filter (window.withLimit limit) none state).1
        (· = empty.gather limit (search.idsOf filter window state.store.table)) :=
    evaluate_none postings made.sound
  rw [← gather_eq_take]
  exact gathered.2

/-- An evaluation in full collects what it meets first, up to the limit: as many identifiers as the
filter matches or the limit allows. Under a larger limit it collects them as well. -/
theorem evaluate_truncates (made : filter.Made tenant) (postings : filter.ReadsPostings table) :
    ∃ order : List UInt64, order.Nodup ∧
      (∀ id, id ∈ order ↔ search.Matches window table filter id) ∧
      ∀ limit,
        (∀ state : ScanState, state.store.table = table →
          Settles (Calm search.deadline state.store)
            (search.evaluate filter (window.withLimit limit) none state).1
            (· = ofList (order.take limit))) ∧
        (ofList (order.take limit)).size =
          min limit {id | search.Matches window table filter id}.ncard ∧
        (∀ id ∈ ofList (order.take limit), search.Matches window table filter id) ∧
        ∀ more, limit ≤ more → ∀ id ∈ ofList (order.take limit), id ∈ ofList (order.take more) := by
  have members : ∀ id, id ∈ search.idsOf filter window table ↔
      search.Matches window table filter id := fun _ => mem_idsOf postings made.sound
  have listed : ∀ id, id ∈ (search.idsOf filter window table).eraseDups ↔
      search.Matches window table filter id := fun id => List.mem_eraseDups.trans (members id)
  refine ⟨_, nodup_eraseDups (search.idsOf filter window table), listed, ?_⟩
  intro limit
  refine ⟨?_, ?_, ?_, ?_⟩
  · rintro state rfl
    exact evaluate_limited made postings limit
  · rw [size_take (nodup_eraseDups _), ncard_eq_length members]
  · intro id found
    exact (listed id).mp (List.mem_of_mem_take (mem_ofList.mp found))
  · intro more larger id found
    exact mem_ofList.mpr ((List.take_subset_take_left _ larger) (mem_ofList.mp found))

/-- Two days on which the label `b` has the value `y`: on the first one in series 2 and 1, one of
them listed twice, on the second one in series 1 and 3. -/
def repeatedTable : Table :=
  Table.empty.insertAll
    [Key.posting ⟨0, 0⟩ (Bytes.ofText "b") (Bytes.ofText "y") 0 [2, 1, 2],
      Key.posting ⟨0, 0⟩ (Bytes.ofText "b") (Bytes.ofText "y") 86400000 [1, 3]]

theorem repeatedTable_postings (filter : Filter) : filter.ReadsPostings repeatedTable := by
  intro item held _
  rcases Table.mem_insertAll.mp held with added | old
  · rcases (by simpa using added : item = _ ∨ item = _) with rfl | rfl
    · exact ⟨_, _, _, _, _, List.cons_ne_nil _ _, rfl⟩
    · exact ⟨_, _, _, _, _, List.cons_ne_nil _ _, rfl⟩
  · exact absurd old List.not_mem_nil

theorem repeatedTable_ncard :
    {id | sampleSearch.Matches ⟨0, 172800000, 2⟩ repeatedTable
      (.ofValue ⟨0, 0⟩ "b" "y" false) id}.ncard = 3 := by
  have members : ∀ id, id ∈ sampleSearch.idsOf (.ofValue ⟨0, 0⟩ "b" "y" false)
      ⟨0, 172800000, 2⟩ repeatedTable ↔ sampleSearch.Matches ⟨0, 172800000, 2⟩
        repeatedTable (.ofValue ⟨0, 0⟩ "b" "y" false) id := fun _ =>
    mem_idsOf (repeatedTable_postings _) (Filter.ofValue_sound _ _ _ _)
  rw [ncard_eq_length members]
  decide +kernel

def repeatedState : ScanState := ⟨.ofTable .memory repeatedTable, 0⟩

theorem repeatedState_calm : Calm sampleSearch.deadline repeatedState.store :=
  ⟨fun _ => rfl, fun _ => rfl⟩

/-- A limit of two is reached within the first posting, and one of three with the last identifier of
the second one. -/
theorem evaluate_truncates_sample :
    ∃ found more : IdentifierSet,
      (sampleSearch.evaluate (.ofValue ⟨0, 0⟩ "b" "y" false) ⟨0, 172800000, 2⟩ none
        repeatedState).1 = .ok found ∧
      (sampleSearch.evaluate (.ofValue ⟨0, 0⟩ "b" "y" false) ⟨0, 172800000, 3⟩ none
        repeatedState).1 = .ok more ∧
      found.size = 2 ∧ more.size = 3 ∧ ∀ id ∈ found, id ∈ more := by
  obtain ⟨order, -, -, cut⟩ := @evaluate_truncates sampleSearch ⟨0, 172800000, 2⟩ repeatedTable
    _ ⟨0, 0⟩ (.value "b" "y" false) (repeatedTable_postings _)
  obtain ⟨settles, size, -, grows⟩ := cut 2
  obtain ⟨moreSettles, moreSize, -, -⟩ := cut 3
  obtain ⟨_, given, rfl⟩ := (settles repeatedState rfl).resolve_right
    fun disturbed => disturbed.2 repeatedState_calm
  obtain ⟨_, moreGiven, rfl⟩ := (moreSettles repeatedState rfl).resolve_right
    fun disturbed => disturbed.2 repeatedState_calm
  rw [repeatedTable_ncard] at size moreSize
  exact ⟨_, _, given, moreGiven, size, moreSize, grows 3 (by decide)⟩

/-- Without a limit that anything could exceed, a filter has one answer on a table. An evaluation
within a set that the limit allows gives what the answer and the set have in common. -/
theorem evaluate_restricted (made : filter.Made tenant) {state : ScanState}
    (postings : filter.ReadsPostings state.store.table)
    (calm : Calm search.deadline state.store) {within : IdentifierSet}
    (small : within.size ≤ window.limit) :
    ∃ all : IdentifierSet,
      (∀ limit, {id | search.Matches window state.store.table filter id}.ncard ≤ limit →
        ∀ other : ScanState, other.store.table = state.store.table →
          Calm search.deadline other.store →
          (search.evaluate filter (window.withLimit limit) none other).1 = .ok all) ∧
      (search.evaluate filter window (some within) state).1 = .ok (all.intersection within) := by
  have members : ∀ id, id ∈ search.idsOf filter window state.store.table ↔
      search.Matches window state.store.table filter id := fun _ => mem_idsOf postings made.sound
  refine ⟨ofList (search.idsOf filter window state.store.table).eraseDups, ?_, ?_⟩
  · intro limit room other same otherCalm
    rw [ncard_eq_length members] at room
    obtain ⟨_, given, rfl⟩ := (evaluate_limited made (same ▸ postings) limit).resolve_right
      fun disturbed => disturbed.2 otherCalm
    rw [given, same, List.take_of_length_le room]
  · obtain ⟨matched, given, found⟩ :=
      (evaluate_some search postings made.sound small).2.resolve_right
        fun disturbed => disturbed.2 calm
    rw [given]
    refine congrArg Except.ok (IdentifierSet.ext fun id => ?_)
    rw [found id, mem_intersection, mem_ofList, List.mem_eraseDups, members]

/-- Within series 1 the evaluation has enough after the first posting, and a limit of one is no
limit for it. -/
theorem evaluate_restricted_sample :
    ∃ all : IdentifierSet,
      (sampleSearch.evaluate (.ofValue ⟨0, 0⟩ "b" "y" false) ⟨0, 172800000, 3⟩ none
        repeatedState).1 = .ok all ∧
      (sampleSearch.evaluate (.ofValue ⟨0, 0⟩ "b" "y" false) ⟨0, 172800000, 1⟩
        (some (ofList [1])) repeatedState).1 = .ok (all.intersection (ofList [1])) := by
  obtain ⟨all, unlimited, restricted⟩ := @evaluate_restricted sampleSearch ⟨0, 172800000, 1⟩ _
    ⟨0, 0⟩ (.value "b" "y" false) repeatedState (repeatedTable_postings _) repeatedState_calm
    (ofList [1]) (size_ofList (List.nodup_singleton 1)).le
  exact ⟨all, unlimited 3 repeatedTable_ncard.le repeatedState rfl repeatedState_calm, restricted⟩

end Evaluations

end SeriesIndex.Search
