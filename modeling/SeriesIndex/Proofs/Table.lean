import SeriesIndex.Proofs.Bytes
import SeriesIndex.Store

/-!
# What a cursor meets

On a medium whose reads succeed, a cursor meets the items of the table from its key on, in order,
one at each step, and then none. The first item with a given start is therefore found by a single
step. A read that fails is reported and leaves the store as it was.
-/

namespace SeriesIndex

namespace Table

theorem mem_insert {table : Table} {item other : Bytes} :
    other ∈ (table.insert item).items ↔ other = item ∨ other ∈ table.items :=
  Ascending.mem_insert

theorem mem_insertAll {table : Table} {items : List Bytes} {other : Bytes} :
    other ∈ (table.insertAll items).items ↔ other ∈ items ∨ other ∈ table.items := by
  unfold insertAll
  induction items generalizing table with
  | nil => simp
  | cons item items ih =>
      rw [List.foldl_cons, ih, mem_insert, List.mem_cons]
      constructor
      · rintro (later | same | before)
        · exact .inl (.inr later)
        · exact .inl (.inl same)
        · exact .inr before
      · rintro ((same | later) | before)
        · exact .inr (.inl same)
        · exact .inl later
        · exact .inr (.inr before)

theorem itemsFrom_sublist (table : Table) (key : Bytes) (inclusive : Bool) :
    (table.itemsFrom key inclusive).Sublist table.items := List.dropWhile_sublist _

theorem itemsFrom_ascending (table : Table) (key : Bytes) (inclusive : Bool) :
    (table.itemsFrom key inclusive).Pairwise (· < ·) :=
  table.ascending.sublist (table.itemsFrom_sublist key inclusive)

/-- The items after a key, with the key itself if it is included. -/
theorem mem_itemsFrom_iff {table : Table} {key item : Bytes} {inclusive : Bool} :
    item ∈ table.itemsFrom key inclusive ↔
      item ∈ table.items ∧ ¬ item < key ∧ (inclusive = false → item ≠ key) := by
  obtain ⟨items, ascending⟩ := table
  change item ∈ items.dropWhile _ ↔ item ∈ items ∧ _
  induction items with
  | nil => simp
  | cons first rest ih =>
      obtain ⟨above, tail⟩ := List.pairwise_cons.mp ascending
      by_cases behind : first < key ∨ (inclusive = false ∧ first = key)
      · rw [List.dropWhile_cons_of_pos (by simpa using behind)]
        refine (ih tail).trans ⟨fun ⟨inside, ahead⟩ => ⟨.tail first inside, ahead⟩, ?_⟩
        rintro ⟨inside, atLeast, other⟩
        rcases List.mem_cons.mp inside with rfl | inside
        · rcases behind with below | ⟨exclusive, same⟩
          · exact absurd below atLeast
          · exact absurd same (other exclusive)
        · exact ⟨inside, atLeast, other⟩
      · rw [List.dropWhile_cons_of_neg (by simpa using behind)]
        obtain ⟨atLeast, other⟩ := not_or.mp behind
        refine ⟨fun found => ⟨found, ?_⟩, And.left⟩
        rcases List.mem_cons.mp found with rfl | inside
        · exact ⟨atLeast, fun exclusive same => other ⟨exclusive, same⟩⟩
        · have beyond : key < item := by
            by_cases same : first = key
            · exact same ▸ above item inside
            · exact List.lt_of_le_of_lt (List.not_lt.mp atLeast) (above item inside)
          exact ⟨List.lt_asymm beyond, fun _ same => List.lt_irrefl key (same ▸ beyond)⟩

/-- The items from a key on are those not below it. -/
theorem mem_itemsFrom {table : Table} {key item : Bytes} :
    item ∈ table.itemsFrom key true ↔ item ∈ table.items ∧ ¬ item < key := by
  simp [mem_itemsFrom_iff]

/-- Two ascending lists with the same members are the same list. -/
theorem ascending_ext {left right : List Bytes} (leftAscending : left.Pairwise (· < ·))
    (rightAscending : right.Pairwise (· < ·)) (same : ∀ item, item ∈ left ↔ item ∈ right) :
    left = right := by
  have distinct : ∀ {items : List Bytes}, items.Pairwise (· < ·) → items.Nodup := by
    intro items ascending
    apply ascending.imp
    rintro item _ less rfl
    exact List.lt_irrefl item less
  apply ((List.perm_ext_iff_of_nodup (distinct leftAscending)
    (distinct rightAscending)).mpr same).eq_of_pairwise _ leftAscending rightAscending
  exact fun _ _ _ _ less greater => absurd greater (List.lt_asymm less)

/-- A table is the set of its items. -/
theorem eq_of_mem_iff {left right : Table}
    (same : ∀ item, item ∈ left.items ↔ item ∈ right.items) : left = right := by
  obtain ⟨leftItems, leftAscending⟩ := left
  obtain ⟨rightItems, rightAscending⟩ := right
  obtain rfl : leftItems = rightItems := ascending_ext leftAscending rightAscending same
  rfl

/-- Items that are there already add nothing. -/
theorem insertAll_of_held {table : Table} {items : List Bytes}
    (held : ∀ item ∈ items, item ∈ table.items) : table.insertAll items = table := by
  apply eq_of_mem_iff
  intro item
  rw [mem_insertAll]
  exact or_iff_right_of_imp (held item)

/-! ## The first item with a start -/

/-- The first item with the given start, if there is one. -/
def first? (table : Table) (start : Bytes) : Option Bytes :=
  (table.itemsFrom start true).head?.filter fun item => Bytes.startsWith item start

theorem first?_some {table : Table} {start item : Bytes} (found : table.first? start = some item) :
    item ∈ table.items ∧ start <+: item := by
  obtain ⟨isHead, begins⟩ := Option.filter_eq_some_iff.mp found
  exact ⟨(mem_itemsFrom.mp (List.mem_of_mem_head? isHead)).1, Bytes.startsWith_iff.mp begins⟩

/-- If any item has the start, then so has the first item not below it. -/
theorem first?_none {table : Table} {start : Bytes} (none : table.first? start = none) :
    ∀ item ∈ table.items, ¬ start <+: item := by
  rintro item inside ⟨more, rfl⟩
  have later : start ++ more ∈ table.itemsFrom start true :=
    mem_itemsFrom.mpr ⟨inside, Bytes.not_append_lt start more⟩
  have ascending := table.itemsFrom_ascending start true
  unfold first? at none
  cases shape : table.itemsFrom start true with
  | nil => rw [shape] at later; exact absurd later List.not_mem_nil
  | cons first rest =>
      rw [shape] at none later ascending
      have atLeast : ¬ first < start ++ [] := by
        rw [List.append_nil]
        exact (mem_itemsFrom.mp (shape ▸ List.mem_cons_self)).2
      have atMost : ¬ start ++ more < first := by
        rcases List.mem_cons.mp later with same | behind
        · exact same ▸ List.lt_irrefl _
        · exact List.lt_asymm ((List.pairwise_cons.mp ascending).1 _ behind)
      have begins := Bytes.startsWith_iff.mpr (Bytes.prefix_of_between atLeast atMost)
      simp [begins] at none

end Table

namespace Cursor

/-- The cursor has room for a page and no error to report. -/
structure Ready (cursor : Cursor) : Prop where
  room : 0 < cursor.pageSize
  sound : cursor.failure = none

theorem ready_seek {size : Nat} (room : 0 < size) (key : Bytes) :
    ((fresh size).seek key).Ready := ⟨room, rfl⟩

@[simp]
theorem ahead_seek (size : Nat) (key : Bytes) (table : Table) :
    ((fresh size).seek key).ahead table = table.itemsFrom key true := rfl

theorem pageOf_eq_nil {cursor : Cursor} {table : Table} (room : 0 < cursor.pageSize)
    (empty : cursor.pageOf table = []) :
    table.itemsFrom cursor.start cursor.inclusive = [] := by
  rcases List.take_eq_nil_iff.mp empty with none | none
  · omega
  · exact none

/-- With nothing ahead there is no next item, and no error. -/
theorem Ready.next_of_nil {cursor : Cursor} {table : Table} (ready : cursor.Ready)
    (nothing : cursor.ahead table = []) :
    (cursor.next table).1 = false ∧ (cursor.next table).2.failure = none := by
  obtain ⟨noPage, rest⟩ := List.append_eq_nil_iff.mp nothing
  unfold next nextUnless
  rw [ready.sound, noPage]
  cases more : cursor.mayHaveMore with
  | false => exact ⟨rfl, ready.sound⟩
  | true =>
      rw [more] at rest
      have empty : cursor.pageOf table = [] := by
        rw [pageOf]
        simpa using congrArg (List.take cursor.pageSize) rest
      simp [fill, step, empty, ready.sound]

/-- With an item ahead the next step leads onto it, and the rest of them stay ahead. -/
theorem Ready.next_of_cons {cursor : Cursor} {table : Table} {item : Bytes} {rest : List Bytes}
    (ready : cursor.Ready) (something : cursor.ahead table = item :: rest) :
    ∃ after, cursor.next table = (true, after) ∧ after.current = item ∧
      after.ahead table = rest ∧ after.Ready := by
  have moves : ∃ after, cursor.next table = (true, after) ∧ after.Ready := by
    unfold next nextUnless
    rw [ready.sound]
    cases held : cursor.page with
    | cons first later =>
        simp only [Option.isSome_none, Bool.false_eq_true, if_false]
        rw [step_of_page held]
        exact ⟨_, rfl, ready.room, ready.sound⟩
    | nil =>
        cases more : cursor.mayHaveMore with
        | false => simp [ahead, held, more] at something
        | true =>
            cases page : cursor.pageOf table with
            | nil =>
                have none := pageOf_eq_nil ready.room page
                simp [ahead, held, more, none] at something
            | cons first later =>
                simp only [Option.isSome_none, Bool.false_eq_true, if_false, if_true]
                have filled : (cursor.fill (first :: later)).page = first :: later := rfl
                rw [step_of_page filled]
                exact ⟨_, rfl, ready.room, ready.sound⟩
  obtain ⟨after, moved, still⟩ := moves
  have split := ahead_next moved
  rw [something] at split
  obtain ⟨current, rest⟩ := List.cons.inj split
  exact ⟨after, moved, current.symm, rest.symm, still⟩

end Cursor

theorem Backend.pageSize_pos (backend : Backend) : 0 < backend.pageSize := by
  cases backend <;> decide

namespace Store

/-- The store after reads: the same table on the same medium. -/
structure Rereads (before after : Store) : Prop where
  backend : after.backend = before.backend
  table : after.table = before.table
  medium : after.medium = before.medium

theorem Rereads.refl (store : Store) : store.Rereads store := ⟨rfl, rfl, rfl⟩

theorem Rereads.trans {first second third : Store} (left : first.Rereads second)
    (right : second.Rereads third) : first.Rereads third :=
  ⟨right.backend.trans left.backend, right.table.trans left.table,
    right.medium.trans left.medium⟩

/-- No read of the store fails. -/
def Readable (store : Store) : Prop := ∀ index, store.medium.read index = none

theorem Readable.of_rereads {before after : Store} (readable : before.Readable)
    (same : before.Rereads after) : after.Readable := fun index => by
  rw [same.medium]
  exact readable index

theorem next_rereads (store : Store) (cursor : Cursor) :
    store.Rereads (store.next cursor).2.2 := by
  unfold next
  split <;> exact ⟨rfl, rfl, rfl⟩

/-- A step on a store whose read succeeds is a step over its table. -/
theorem next_of_read {store : Store} (sound : store.medium.read store.reads = none)
    (cursor : Cursor) :
    store.next cursor = ((cursor.next store.table).1, (cursor.next store.table).2,
      { store with reads := store.reads + 1 }) := by
  unfold next
  rw [sound]

/-- A read that fails stops the cursor with its error. -/
theorem next_of_fault {store : Store} {error : StoreError}
    (fault : store.medium.read store.reads = some error) (cursor : Cursor) :
    store.next cursor = (false, { cursor with failure := some error },
      { store with reads := store.reads + 1 }) := by
  unfold next
  rw [fault]

theorem cursor_ready (store : Store) (key : Bytes) : (store.cursor.seek key).Ready :=
  Cursor.ready_seek store.backend.pageSize_pos key

/-- The first item not below a key, found with one step of a cursor. -/
def firstFrom (store : Store) (start : Bytes) : Except StoreError (Option Bytes) × Store :=
  match store.next (store.cursor.seek start) with
  | (true, cursor, store) => (.ok (some cursor.current), store)
  | (false, cursor, store) =>
      match cursor.failure with
      | some error => (.error error, store)
      | none => (.ok none, store)

theorem firstFrom_of_read {store : Store} (sound : store.medium.read store.reads = none)
    (start : Bytes) :
    store.firstFrom start =
      (.ok (store.table.itemsFrom start true).head?, { store with reads := store.reads + 1 }) := by
  have ready := store.cursor_ready start
  have ahead : (store.cursor.seek start).ahead store.table = store.table.itemsFrom start true :=
    Cursor.ahead_seek _ start store.table
  unfold firstFrom
  rw [next_of_read sound]
  cases items : store.table.itemsFrom start true with
  | nil =>
      obtain ⟨stays, sound⟩ := ready.next_of_nil (ahead.trans items)
      simp [stays, sound]
  | cons item rest =>
      obtain ⟨after, moved, current, _, _⟩ := ready.next_of_cons (ahead.trans items)
      simp [moved, current]

theorem firstFrom_of_fault {store : Store} {error : StoreError}
    (fault : store.medium.read store.reads = some error) (start : Bytes) :
    store.firstFrom start = (.error error, { store with reads := store.reads + 1 }) := by
  unfold firstFrom
  rw [next_of_fault fault]

/-- The first item with a start is the first one not below it, if that has the start. -/
theorem firstWithPrefix_eq (store : Store) (start : Bytes) :
    store.firstWithPrefix start =
      ((store.firstFrom start).1.map (Option.filter fun item => Bytes.startsWith item start),
        (store.firstFrom start).2) := by
  unfold firstWithPrefix firstFrom
  obtain ⟨more, cursor, after⟩ := store.next (store.cursor.seek start)
  cases more with
  | true =>
      cases begins : Bytes.startsWith cursor.current start <;>
        simp [begins, Except.map, Option.filter]
  | false => cases failure : cursor.failure <;> simp [failure, Except.map]

/-- The first item with a start is found with one read. -/
theorem firstWithPrefix_of_read {store : Store} (sound : store.medium.read store.reads = none)
    (start : Bytes) :
    store.firstWithPrefix start =
      (.ok (store.table.first? start), { store with reads := store.reads + 1 }) := by
  rw [firstWithPrefix_eq, firstFrom_of_read sound]
  rfl

theorem firstWithPrefix_of_fault {store : Store} {error : StoreError}
    (fault : store.medium.read store.reads = some error) (start : Bytes) :
    store.firstWithPrefix start = (.error error, { store with reads := store.reads + 1 }) := by
  rw [firstWithPrefix_eq, firstFrom_of_fault fault]
  rfl

/-- A write adds all items or fails and adds none. -/
theorem add_cases (store : Store) (items : List Bytes) :
    (∃ error left, store.add items = (.error error, left) ∧ left.table = store.table) ∨
      ∃ left, store.add items = (.ok (), left) ∧ left.table = store.table.insertAll items := by
  unfold add
  dsimp only
  split
  · exact .inl ⟨_, _, rfl, rfl⟩
  · exact .inr ⟨_, rfl, rfl⟩

end Store

end SeriesIndex
