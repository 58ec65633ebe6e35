import SeriesIndex.Proofs.Writer.Identify

/-!
# Writing postings

A row is indexed if its series is registered and has a posting for each label in the bucket of the
row. A call that succeeds leaves all its rows indexed, those whose postings it skips included, since
postings are remembered only after they have been written. It writes no postings but those of its
rows, and a call that fails writes none.
-/

namespace SeriesIndex

namespace Table

/-- The table has the series of a row and all its postings in the bucket of the row. -/
def Indexes (table : Table) (width : UInt64) (tenant : Tenant) (row : Row) : Prop :=
  ∃ id, table.Registers tenant row.canonicalLabels id ∧
    ∀ item ∈ Writer.postings row.canonicalLabels ⟨tenant, Key.bucketStart row.time width, id⟩,
      item ∈ table.items

/-- The item is a posting of a row, for the identifier that its series has in the table. -/
def Belongs (table : Table) (width : UInt64) (tenant : Tenant) (row : Row) (item : Bytes) : Prop :=
  row.metric ≠ "" ∧ ∃ id, table.Registers tenant row.canonicalLabels id ∧
    item ∈ Writer.postings row.canonicalLabels ⟨tenant, Key.bucketStart row.time width, id⟩

section Growth

variable {table other : Table} {width : UInt64} {tenant : Tenant} {row : Row} {item : Bytes}

theorem Indexes.mono (inside : ∀ item ∈ table.items, item ∈ other.items)
    (indexed : table.Indexes width tenant row) : other.Indexes width tenant row := by
  obtain ⟨id, registered, posted⟩ := indexed
  exact ⟨id, inside _ registered, fun item owed => inside item (posted item owed)⟩

theorem Belongs.mono (inside : ∀ item ∈ table.items, item ∈ other.items)
    (belongs : table.Belongs width tenant row item) : other.Belongs width tenant row item := by
  obtain ⟨measured, id, registered, owed⟩ := belongs
  exact ⟨measured, id, inside _ registered, owed⟩

end Growth

/-! ## Tables with more postings -/

section Postings

variable {table : Table} {items : List Bytes}

/-- The items are postings of series that the table registers. -/
def Owes (table : Table) (items : List Bytes) : Prop :=
  ∀ item ∈ items, ∃ labels key, table.Registers key.tenant labels key.id ∧
    item ∈ Writer.postings labels key

/-- Postings register no series. -/
theorem registers_insertAll
    (posted : ∀ item ∈ items, ∃ labels key, item ∈ Writer.postings labels key) {tenant : Tenant}
    {labels : List Label} {id : UInt64} :
    (table.insertAll items).Registers tenant labels id ↔ table.Registers tenant labels id := by
  rw [Registers, mem_insertAll]
  apply or_iff_right
  intro added
  obtain ⟨others, key, inside⟩ := posted _ added
  obtain ⟨label, -, same⟩ := Writer.mem_postings.mp inside
  cases congrArg List.head? same

theorem Owes.registers_insertAll (owes : table.Owes items) {tenant : Tenant} {labels : List Label}
    {id : UInt64} :
    (table.insertAll items).Registers tenant labels id ↔ table.Registers tenant labels id := by
  apply Table.registers_insertAll
  intro item inside
  obtain ⟨others, key, -, posted⟩ := owes item inside
  exact ⟨others, key, posted⟩

/-- A table with as many items more registers the same series. -/
theorem Owes.registers_iff (owes : table.Owes items) {other : Table}
    (apart : ∀ item, item ∈ other.items ↔ item ∈ table.items ∨ item ∈ items) {tenant : Tenant}
    {labels : List Label} {id : UInt64} :
    other.Registers tenant labels id ↔ table.Registers tenant labels id := by
  rw [← owes.registers_insertAll, Registers, Registers, mem_insertAll, apart, or_comm]

theorem Registry.insertAll (registry : table.Registry) (owes : table.Owes items) :
    (table.insertAll items).Registry := by
  have grown : ∀ item ∈ table.items, item ∈ (table.insertAll items).items := fun item held =>
    mem_insertAll.mpr (.inr held)
  constructor
  · intro item held
    rcases mem_insertAll.mp held with added | old
    · obtain ⟨labels, key, registered, inside⟩ := owes item added
      exact .posting (grown _ registered) inside
    · exact (registry.written item old).mono grown
  · intro tenant labels id other left right
    exact registry.once (owes.registers_insertAll.mp left) (owes.registers_insertAll.mp right)
  · intro tenant labels owner others id left right
    exact registry.apart (owes.registers_insertAll.mp left) (owes.registers_insertAll.mp right)
  · intro tenant labels id held
    obtain ⟨record, encoded, inside⟩ := registry.recorded (owes.registers_insertAll.mp held)
    exact ⟨record, encoded, grown _ inside⟩

end Postings

end Table

namespace Writer

variable {writer : Writer} {store : Store} {table : Table} {items : List Bytes} {tenant : Tenant}
  {row : Row} {key : PostingKey}

theorem Sound.insertAll (sound : writer.Sound table) (owes : table.Owes items) :
    writer.Sound (table.insertAll items) := by
  constructor
  · exact sound.registry.insertAll owes
  · intro tenant labels id held
    exact owes.registers_insertAll.mpr (sound.known held)
  · intro tenant labels id held
    exact sound.ahead (owes.registers_insertAll.mp held)
  · intro key held
    obtain ⟨labels, registered, inside⟩ := sound.recent held
    exact ⟨labels, owes.registers_insertAll.mpr registered,
      fun item owed => Table.mem_insertAll.mpr (.inr (inside item owed))⟩

/-! ## Remembering postings -/

theorem mem_of_mem_remember {keys : List PostingKey}
    (inside : (key, ()) ∈ (writer.remember keys).recent.entries) :
    key ∈ keys ∨ (key, ()) ∈ writer.recent.entries := by
  unfold remember at inside
  dsimp only at inside
  generalize writer.recent = recent at inside ⊢
  induction keys generalizing recent with
  | nil => exact .inr inside
  | cons first keys ih =>
      rcases ih _ inside with later | before
      · exact .inl (.tail _ later)
      · rcases RecentMap.mem_of_mem_put before with same | old
        · exact .inl ((Prod.mk.inj same).1 ▸ .head _)
        · exact .inr old

theorem Sound.remember (sound : writer.Sound table) {keys : List PostingKey}
    (posted : ∀ key ∈ keys, ∃ labels, table.Registers key.tenant labels key.id ∧
      ∀ item ∈ postings labels key, item ∈ table.items) :
    (writer.remember keys).Sound table :=
  { sound with
    recent := fun held => (mem_of_mem_remember held).elim (posted _) sound.recent }

/-- Postings that were written lately are in the table. -/
theorem wasWritten_keeps (sound : writer.Sound table) (key : PostingKey) :
    ∃ found after, writer.wasWritten key = (found, after) ∧ after.Sound table ∧
      after.bucketWidth = writer.bucketWidth ∧ after.nextId = writer.nextId ∧
      (found = true → ∀ labels, table.Registers key.tenant labels key.id →
        ∀ item ∈ postings labels key, item ∈ table.items) := by
  refine ⟨_, _, rfl, { sound with
    recent := fun held => sound.recent (RecentMap.mem_of_mem_use held) }, rfl, rfl, ?_⟩
  intro found labels registered
  obtain ⟨⟨⟩, used⟩ := Option.isSome_iff_exists.mp found
  obtain ⟨others, otherRegistered, inside⟩ := sound.recent (RecentMap.mem_use used)
  obtain ⟨-, rfl⟩ := sound.registry.apart registered otherRegistered
  exact inside

/-! ## Postings to be written -/

/-- What a call may do that indexes rows of a tenant: its rows are indexed, no item is lost, and
the new postings are those of its rows. -/
structure Indexing (tenant : Tenant) (rows : List Row) (before after : State) : Prop where
  sound : after.1.Sound after.2.table
  width : after.1.bucketWidth = before.1.bucketWidth
  kept : ∀ item ∈ before.2.table.items, item ∈ after.2.table.items
  indexed : ∀ row ∈ rows, row.metric ≠ "" →
    after.2.table.Indexes before.1.bucketWidth tenant row
  postings : ∀ {owner label content bucket ids},
    Key.posting owner label content bucket ids ∈ after.2.table.items →
      Key.posting owner label content bucket ids ∈ before.2.table.items ∨
        ∃ row ∈ rows, after.2.table.Belongs before.1.bucketWidth tenant row
          (Key.posting owner label content bucket ids)

theorem Extends.indexing {before after : State} (extends_ : Extends before after)
    (sound : after.1.Sound after.2.table) (tenant : Tenant) : Indexing tenant [] before after :=
  ⟨sound, extends_.width, extends_.kept, fun _ impossible => absurd impossible List.not_mem_nil,
    fun held => .inl (extends_.postings held)⟩

/-- The items to be written for the keys complete the rows, and all of them are postings of the
rows. -/
structure Completes (table : Table) (width : UInt64) (tenant : Tenant) (rows : List Row)
    (items : List Bytes) (fresh : List PostingKey) : Prop where
  indexed : ∀ row ∈ rows, row.metric ≠ "" → ∃ id,
    table.Registers tenant row.canonicalLabels id ∧
      ∀ item ∈ postings row.canonicalLabels ⟨tenant, Key.bucketStart row.time width, id⟩,
        item ∈ table.items ∨ item ∈ items
  belongs : ∀ item ∈ items, ∃ row ∈ rows, table.Belongs width tenant row item
  posted : ∀ key ∈ fresh, ∃ labels, table.Registers key.tenant labels key.id ∧
    ∀ item ∈ postings labels key, item ∈ items

namespace Completes

variable {width : UInt64} {rows : List Row} {fresh : List PostingKey} {id : UInt64}

theorem nothing (table : Table) (width : UInt64) (tenant : Tenant) :
    Completes table width tenant [] [] [] :=
  ⟨fun _ impossible => absurd impossible List.not_mem_nil,
    fun _ impossible => absurd impossible List.not_mem_nil,
    fun _ impossible => absurd impossible List.not_mem_nil⟩

theorem mono {other : Table} (inside : ∀ item ∈ table.items, item ∈ other.items)
    (completes : Completes table width tenant rows items fresh) :
    Completes other width tenant rows items fresh := by
  constructor
  · intro row listed measured
    obtain ⟨id, registered, posted⟩ := completes.indexed row listed measured
    exact ⟨id, inside _ registered, fun item owed => (posted item owed).imp_left (inside item)⟩
  · intro item owed
    obtain ⟨row, listed, belongs⟩ := completes.belongs item owed
    exact ⟨row, listed, belongs.mono inside⟩
  · intro key listed
    obtain ⟨labels, registered, posted⟩ := completes.posted key listed
    exact ⟨labels, inside _ registered, posted⟩

/-- Nothing has to be written for a row without a metric, or whose postings are there or among
those to be written. -/
theorem skip (completes : Completes table width tenant rows items fresh)
    (held : row.metric ≠ "" → ∃ id, table.Registers tenant row.canonicalLabels id ∧
      ∀ item ∈ postings row.canonicalLabels ⟨tenant, Key.bucketStart row.time width, id⟩,
        item ∈ table.items ∨ item ∈ items) :
    Completes table width tenant (rows ++ [row]) items fresh := by
  constructor
  · intro other listed measured
    rcases List.mem_append.mp listed with old | new
    · exact completes.indexed other old measured
    · rw [List.mem_singleton.mp new] at measured ⊢
      exact held measured
  · intro item owed
    obtain ⟨other, listed, belongs⟩ := completes.belongs item owed
    exact ⟨other, List.mem_append_left _ listed, belongs⟩
  · exact completes.posted

theorem add (completes : Completes table width tenant rows items fresh)
    (measured : row.metric ≠ "") (registered : table.Registers tenant row.canonicalLabels id) :
    Completes table width tenant (rows ++ [row])
      (items ++ postings row.canonicalLabels ⟨tenant, Key.bucketStart row.time width, id⟩)
      (fresh ++ [⟨tenant, Key.bucketStart row.time width, id⟩]) := by
  constructor
  · intro other listed measured
    rcases List.mem_append.mp listed with old | new
    · obtain ⟨other, registered, posted⟩ := completes.indexed other old measured
      exact ⟨other, registered, fun item owed =>
        (posted item owed).imp_right (List.mem_append_left _)⟩
    · rw [List.mem_singleton.mp new]
      exact ⟨id, registered, fun item owed => .inr (List.mem_append_right _ owed)⟩
  · intro item owed
    rcases List.mem_append.mp owed with old | new
    · obtain ⟨other, listed, belongs⟩ := completes.belongs item old
      exact ⟨other, List.mem_append_left _ listed, belongs⟩
    · exact ⟨row, List.mem_append_right _ (.head _), measured, id, registered, new⟩
  · intro key listed
    rcases List.mem_append.mp listed with old | new
    · obtain ⟨labels, registered, posted⟩ := completes.posted key old
      exact ⟨labels, registered, fun item owed => List.mem_append_left _ (posted item owed)⟩
    · rw [List.mem_singleton.mp new]
      exact ⟨_, registered, fun item owed => List.mem_append_right _ owed⟩

theorem owes (completes : Completes table width tenant rows items fresh) : table.Owes items := by
  intro item owed
  obtain ⟨row, -, -, id, registered, inside⟩ := completes.belongs item owed
  exact ⟨_, ⟨tenant, _, id⟩, registered, inside⟩

/-- Once the items are written the rows are indexed, and the keys can be remembered, in any order.
-/
theorem indexing {before : State} {between : Writer} {store left : Store}
    {keys : List PostingKey} (among : ∀ key ∈ keys, key ∈ fresh)
    (completes : Completes store.table before.1.bucketWidth tenant rows items fresh)
    (sound : between.Sound store.table) (extends_ : Extends before (between, store))
    (written : left.table = store.table.insertAll items) :
    Indexing tenant rows before (between.remember keys, left) := by
  have members : ∀ item, item ∈ left.table.items ↔ item ∈ items ∨ item ∈ store.table.items := by
    intro item
    rw [written, Table.mem_insertAll]
  have kept : ∀ item ∈ store.table.items, item ∈ left.table.items := fun item held =>
    (members item).mpr (.inr held)
  have added : ∀ item ∈ items, item ∈ left.table.items := fun item owed =>
    (members item).mpr (.inl owed)
  have grown : between.Sound left.table := by
    rw [written]
    exact sound.insertAll completes.owes
  constructor
  · apply grown.remember
    intro key listed
    obtain ⟨labels, registered, posted⟩ := completes.posted key (among key listed)
    exact ⟨labels, kept _ registered, fun item inside => added item (posted item inside)⟩
  · exact extends_.width
  · intro item held
    exact kept item (extends_.kept item held)
  · intro row listed measured
    obtain ⟨id, registered, posted⟩ := completes.indexed row listed measured
    exact ⟨id, kept _ registered, fun item owed => (posted item owed).elim (kept item) (added item)⟩
  · intro owner label content bucket ids held
    rcases (members _).mp held with new | old
    · obtain ⟨row, listed, belongs⟩ := completes.belongs _ new
      exact .inr ⟨row, listed, belongs.mono kept⟩
    · exact .inl (extends_.postings old)

end Completes

/-! ## Indexing a row -/

/-- The rows that a call has indexed: all if it succeeds, none if it fails. -/
def covered {α : Type} (answer : Except StoreError α) (rows : List Row) : List Row :=
  match answer with
  | .ok _ => rows
  | .error _ => []

theorem indexRow_nextId (measured : row.metric ≠ "") (state : State) :
    (indexRow tenant row state).2.1.nextId =
      (identify tenant row.canonicalLabels state).2.1.nextId := by
  unfold indexRow
  rw [if_neg (by simpa using measured)]
  split
  · next identified => rw [identified]
  · next id writer store identified =>
      rw [identified]
      dsimp only [wasWritten]
      split
      · next used =>
          have counter := congrArg nextId (Prod.mk.inj used).2.symm
          exact counter
      · next used =>
          have counter := congrArg nextId (Prod.mk.inj used).2.symm
          split <;> exact counter

/-- Indexing a row succeeds with the identifier of its series and leaves it indexed, or fails and
writes no postings. -/
theorem indexRow_keeps (sound : writer.Sound store.table) (tenant : Tenant) (row : Row)
    (steady : writer.nextId ≤ (indexRow tenant row (writer, store)).2.1.nextId) :
    ∃ given after left, indexRow tenant row (writer, store) = (given, after, left) ∧
      Indexing tenant (covered given [row]) (writer, store) (after, left) ∧
      ∀ id, given = .ok id →
        row.metric ≠ "" ∧ left.table.Registers tenant row.canonicalLabels id := by
  by_cases measured : row.metric = ""
  · rw [indexRow, if_pos (by simpa using measured)]
    exact ⟨_, _, _, rfl, (extends_of_table rfl rfl).indexing sound tenant, nofun⟩
  rw [indexRow_nextId measured] at steady
  rw [indexRow, if_neg (by simpa using measured)]
  obtain ⟨given, between, middle, identified, betweenSound, first, gives⟩ :=
    identify_keeps sound tenant row.canonicalLabels steady
  rw [identified]
  cases given with
  | error error => exact ⟨_, _, _, rfl, first.indexing betweenSound tenant, nofun⟩
  | ok id =>
      have registered := gives id rfl
      have widths : between.bucketWidth = writer.bucketWidth := first.width
      obtain ⟨found, after, looked, afterSound, width, -, posted⟩ := wasWritten_keeps betweenSound
        ⟨tenant, Key.bucketStart row.time writer.bucketWidth, id⟩
      have second : Extends (writer, store) (after, middle) :=
        first.trans (extends_of_table width rfl)
      have nothing := Completes.nothing middle.table writer.bucketWidth tenant
      dsimp only
      rw [widths, looked]
      cases found with
      | true =>
          refine ⟨_, _, _, rfl, ?_, fun _ same => Except.ok.inj same ▸ ⟨measured, registered⟩⟩
          have skipped : Completes middle.table writer.bucketWidth tenant [row] [] [] :=
            nothing.skip fun _ =>
              ⟨id, registered, fun item owed => .inl (posted rfl _ registered item owed)⟩
          exact skipped.indexing (fun _ listed => listed) afterSound second rfl
      | false =>
          have completes := nothing.add measured registered
          dsimp only
          obtain ⟨error, left, failed, same⟩ | ⟨left, written, table⟩ := middle.add_cases
            (postings row.canonicalLabels
              ⟨tenant, Key.bucketStart row.time writer.bucketWidth, id⟩)
          · rw [failed]
            have third : Extends (writer, store) (after, left) :=
              first.trans (extends_of_table width same)
            exact ⟨_, _, _, rfl, third.indexing (same ▸ afterSound) tenant, nofun⟩
          · rw [written]
            have indexing := completes.indexing (fun _ listed => listed) afterSound second table
            refine ⟨_, _, _, rfl, indexing, fun _ same => Except.ok.inj same ▸ ⟨measured, ?_⟩⟩
            rw [table]
            exact Table.mem_insertAll.mpr (.inr registered)

end Writer

end SeriesIndex
