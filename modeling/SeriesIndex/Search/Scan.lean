import SeriesIndex.Deadline
import SeriesIndex.IdentifierSet
import SeriesIndex.SearchError
import SeriesIndex.Store

/-!
# Scans

A scan walks over a store from a key on and collects identifiers. It ends when it has enough of
them, when the items end, or with an error: that of an item, that of the store, or that the
deadline has passed, at which it looks before it looks at an item.
-/

namespace SeriesIndex

/-- A store, and how often the clock has been looked at. -/
structure ScanState where
  store : Store
  looks : Nat

/-- What holds for a whole scan. -/
structure ScanRules where
  deadline : Deadline
  checkInterval : UInt32
  /-- How many identifiers are enough. -/
  limit : Nat
  /-- The error of the scan if the store fails. -/
  failed : StoreError → SearchError

/-- What has been found after an item, and whether the scan goes on. -/
inductive Progress where
  | more (found : IdentifierSet)
  | enough (found : IdentifierSet)

namespace Search

/-- Looks at the clock if it is time to; tells whether the deadline has passed. -/
def lookAtClock (deadline : Deadline) (pace : Pace) (state : ScanState) : Bool × ScanState :=
  if pace.due then (deadline.passedAt state.looks, { state with looks := state.looks + 1 })
  else (false, state)

/-- No identifier can be added that the search would use. -/
def isSaturated (limit : Nat) (among : Option IdentifierSet) (found : IdentifierSet) : Bool :=
  limit ≤ found.size || among.any fun set => set.size ≤ found.size

/-- Adds identifiers in their order as long as there are fewer than the limit. -/
def addUpTo (limit : Nat) : List UInt64 → IdentifierSet → IdentifierSet
  | [], found => found
  | id :: rest, found =>
      let found := found.insert id
      if limit ≤ found.size then found else addUpTo limit rest found

/-- Adds the identifiers of a posting: those that are also in the other set, or as many as the
limit allows. -/
def addIds (limit : Nat) (among : Option IdentifierSet) (ids : List UInt64)
    (found : IdentifierSet) : IdentifierSet :=
  match among with
  | some set => found.insertAll (ids.filter set.contains)
  | none =>
      if ids.length ≤ limit - found.size then found.insertAll ids else addUpTo limit ids found

def collect (limit : Nat) (among : Option IdentifierSet) (ids : List UInt64)
    (found : IdentifierSet) : Progress :=
  let found := addIds limit among ids found
  if isSaturated limit among found then .enough found else .more found

end Search

/-- A step that is made is a step over the table, which stays as it is. -/
theorem Store.next_moved {store after : Store} {cursor ahead : Cursor}
    (moved : store.next cursor = (true, ahead, after)) :
    cursor.next store.table = (true, ahead) ∧ after.table = store.table := by
  unfold Store.next at moved
  split at moved
  · cases moved
  · cases stepped : cursor.next store.table with
    | mk more next =>
        rw [stepped] at moved
        cases moved
        exact ⟨rfl, rfl⟩

/-- With each step there are fewer items ahead. -/
theorem Store.next_shortens {store after : Store} {cursor ahead : Cursor}
    (moved : store.next cursor = (true, ahead, after)) :
    (ahead.ahead after.table).length < (cursor.ahead store.table).length := by
  obtain ⟨stepped, same⟩ := Store.next_moved moved
  rw [same, Cursor.ahead_next stepped]
  exact Nat.lt_succ_self _

namespace Search

/-- Walks on from a cursor. -/
def walk (rules : ScanRules) (visit : Bytes → IdentifierSet → Except SearchError Progress)
    (cursor : Cursor) (pace : Pace) (found : IdentifierSet) (state : ScanState) :
    Except SearchError IdentifierSet × ScanState :=
  if rules.limit ≤ found.size then (.ok found, state)
  else
    match _moved : state.store.next cursor with
    | (false, cursor, store) =>
        let state := { state with store := store }
        match cursor.failure with
        | some error => (.error (rules.failed error), state)
        | none => (.ok found, state)
    | (true, ahead, store) =>
        let looked := lookAtClock rules.deadline pace { state with store := store }
        if looked.1 then (.error (.deadline rules.deadline.timeout), looked.2)
        else
          match visit ahead.current found with
          | .error error => (.error error, looked.2)
          | .ok (.enough found) => (.ok found, looked.2)
          | .ok (.more found) =>
              walk rules visit ahead pace.step found { looked.2 with store := store }
termination_by (cursor.ahead state.store.table).length
decreasing_by exact Store.next_shortens ‹_›

/-- Walks over the items from a key on. -/
def scan (rules : ScanRules) (visit : Bytes → IdentifierSet → Except SearchError Progress)
    (start : Bytes) (found : IdentifierSet) (state : ScanState) :
    Except SearchError IdentifierSet × ScanState :=
  walk rules visit (state.store.cursor.seek start) (.every rules.checkInterval) found state

end Search

end SeriesIndex
