import SeriesIndex.Proofs.Writer.Registry

/-!
# Identifying a series

What a writer remembers about series and postings is so in its table, and its next identifier is
above all that are registered. Looking a series up keeps that so, and so does registering one, as
long as the counter of identifiers does not wrap; this holds whichever reads and writes fail.
-/

namespace SeriesIndex.Writer

open Bytes

/-- What a writer remembers is so in the table, and the identifiers from the next one on are
free. -/
structure Sound (writer : Writer) (table : Table) : Prop where
  registry : table.Registry
  known : ∀ {tenant labels id}, (seriesKey tenant labels, id) ∈ writer.known.entries →
    table.Registers tenant labels id
  ahead : ∀ {tenant labels id}, table.Registers tenant labels id → id < writer.nextId
  recent : ∀ {key}, (key, ()) ∈ writer.recent.entries → ∃ labels,
    table.Registers key.tenant labels key.id ∧ ∀ item ∈ postings labels key, item ∈ table.items

/-- Beside what was there a state has new series at most, and no new postings. -/
structure Extends (before after : State) : Prop where
  width : after.1.bucketWidth = before.1.bucketWidth
  kept : ∀ item ∈ before.2.table.items, item ∈ after.2.table.items
  postings : ∀ {tenant label content bucket ids},
    Key.posting tenant label content bucket ids ∈ after.2.table.items →
      Key.posting tenant label content bucket ids ∈ before.2.table.items

theorem Extends.trans {first second third : State} (left : Extends first second)
    (right : Extends second third) : Extends first third :=
  ⟨right.width.trans left.width, fun item held => right.kept item (left.kept item held),
    fun held => left.postings (right.postings held)⟩

theorem extends_of_table {before after : State}
    (width : after.1.bucketWidth = before.1.bucketWidth)
    (same : after.2.table = before.2.table) : Extends before after :=
  ⟨width, fun _ held => same ▸ held, fun held => same ▸ held⟩

variable {writer : Writer} {store : Store} {table : Table} {tenant : Tenant} {labels : List Label}
  {id : UInt64}

theorem sound_starting (firstId bucketWidth : UInt64) (capacity : Nat) (registry : table.Registry)
    (ahead : ∀ {tenant labels id}, table.Registers tenant labels id → id < firstId) :
    (starting firstId bucketWidth capacity).Sound table :=
  ⟨registry, fun held => absurd held List.not_mem_nil, ahead,
    fun held => absurd held List.not_mem_nil⟩

/-- A first writer has nothing to remember of an empty table. -/
theorem sound_starting_empty (firstId bucketWidth : UInt64) (capacity : Nat)
    (empty : table = .empty) : (starting firstId bucketWidth capacity).Sound table := by
  rw [empty]
  apply sound_starting firstId bucketWidth capacity Table.registry_empty
  intro tenant labels id registered
  exact absurd registered List.not_mem_nil

/-! ## Looking a series up -/

/-- What a writer knows of series is so in the table. -/
structure Recalls (writer : Writer) (table : Table) : Prop where
  registry : table.Registry
  known : ∀ {tenant labels id}, (seriesKey tenant labels, id) ∈ writer.known.entries →
    table.Registers tenant labels id

theorem Sound.recalls (sound : writer.Sound table) : writer.Recalls table :=
  ⟨sound.registry, sound.known⟩

theorem Recalls.use_known (recalls : writer.Recalls table) (key : Bytes) :
    { writer with known := (writer.known.use key).2 }.Recalls table :=
  ⟨recalls.registry, fun held => recalls.known (RecentMap.mem_of_mem_use held)⟩

theorem Recalls.put_known (recalls : writer.Recalls table)
    (registered : table.Registers tenant labels id) :
    { writer with known := writer.known.put (seriesKey tenant labels) id }.Recalls table := by
  refine ⟨recalls.registry, fun {owner others other} held => ?_⟩
  rcases RecentMap.mem_of_mem_put held with same | old
  · obtain ⟨keys, rfl⟩ := Prod.mk.inj same
    have whole := congrArg (· ++ ofWord64 other) keys
    obtain ⟨rfl, rfl, -⟩ := seriesKey_append_inj whole
    exact registered
  · exact recalls.known old

theorem Sound.put_known (sound : writer.Sound table)
    (registered : table.Registers tenant labels id) :
    { writer with known := writer.known.put (seriesKey tenant labels) id }.Sound table :=
  { sound with known := (sound.recalls.put_known registered).known }

/-- Looking up finds the identifier that is registered, or none if none is, unless a read fails. It
changes nothing but what the writer knows, which stays so, and the number of reads. -/
theorem seriesId_recalls (recalls : writer.Recalls store.table) (tenant : Tenant)
    (labels : List Label) :
    ∃ found known reads, seriesId tenant labels (writer, store) =
        (found, { writer with known := known }, { store with reads := reads }) ∧
      { writer with known := known }.Recalls store.table ∧ store.reads ≤ reads ∧
      (∀ id, found = .ok (some id) → store.table.Registers tenant labels id) ∧
      (found = .ok none → ∀ id, ¬ store.table.Registers tenant labels id) ∧
      ∀ error, found = .error error → store.medium.read store.reads = some error := by
  unfold seriesId lookUp
  dsimp only
  split
  · next id known used =>
      refine ⟨_, known, store.reads, rfl, ?_, Nat.le_refl _, ?_, nofun, nofun⟩
      · have usedRecalls := recalls.use_known (seriesKey tenant labels)
        rwa [used] at usedRecalls
      · rintro _ ⟨⟩
        exact recalls.known (RecentMap.mem_use (by rw [used]))
  · cases read : store.medium.read store.reads with
    | some error =>
        rw [Store.firstWithPrefix_of_fault read]
        refine ⟨_, writer.known, _, rfl, recalls, Nat.le_succ _, nofun, nofun, ?_⟩
        rintro _ ⟨⟩
        rfl
    | none =>
        rw [Store.firstWithPrefix_of_read read]
        cases first : store.table.first? (seriesKey tenant labels) with
        | none =>
            exact ⟨_, writer.known, _, rfl, recalls, Nat.le_succ _, nofun,
              fun _ => Table.not_registers_of_first? first, nofun⟩
        | some item =>
            obtain ⟨id, taken, registered⟩ :=
              Table.registers_of_first? recalls.registry.written first
            dsimp only
            rw [taken]
            refine ⟨_, _, _, rfl, recalls.put_known registered, Nat.le_succ _, ?_, nofun, nofun⟩
            rintro _ ⟨⟩
            exact registered

/-- Looking a series up keeps what is remembered sound. -/
theorem seriesId_keeps (sound : writer.Sound store.table) (tenant : Tenant)
    (labels : List Label) :
    ∃ found after left, seriesId tenant labels (writer, store) = (found, after, left) ∧
      after.Sound left.table ∧ left.table = store.table ∧ after.nextId = writer.nextId ∧
      after.bucketWidth = writer.bucketWidth ∧
      (∀ id, found = .ok (some id) → store.table.Registers tenant labels id) ∧
      (found = .ok none → ∀ id, ¬ store.table.Registers tenant labels id) ∧
      ∀ error, found = .error error → store.medium.read store.reads = some error := by
  obtain ⟨found, known, reads, looked, recalls, -, answers⟩ :=
    seriesId_recalls sound.recalls tenant labels
  have kept : { writer with known := known }.Sound store.table :=
    { sound with known := recalls.known }
  exact ⟨found, _, _, looked, kept, rfl, rfl, rfl, answers⟩

/-- On a store that can be read a series has the identifier that it is registered under. -/
theorem seriesId_eq_iff (sound : writer.Sound store.table) (readable : store.Readable) :
    (seriesId tenant labels (writer, store)).1 = .ok (some id) ↔
      store.table.Registers tenant labels id := by
  obtain ⟨found, after, left, looked, -, -, -, -, registered, absent, failed⟩ :=
    seriesId_keeps sound tenant labels
  rw [looked]
  constructor
  · exact registered id
  · intro held
    match found with
    | .ok (some other) => rw [sound.registry.once (registered other rfl) held]
    | .ok none => exact absurd held (absent rfl id)
    | .error error => cases (readable store.reads).symm.trans (failed error rfl)

/-! ## Registering a series -/

theorem register_nextId (tenant : Tenant) (labels : List Label) (state : State) :
    (register tenant labels state).2.1.nextId = state.1.nextId + 1 := by
  unfold register
  dsimp only
  repeat' split
  all_goals rfl

/-- Identifiers may be left out. -/
theorem Sound.skip (sound : writer.Sound table) {next : UInt64} (above : writer.nextId ≤ next) :
    { writer with nextId := next }.Sound table :=
  { sound with ahead := fun held => UInt64.lt_of_lt_of_le (sound.ahead held) above }

theorem Sound.register (sound : writer.Sound table) {record : Bytes}
    (absent : ∀ id, ¬ table.Registers tenant labels id)
    (encoded : LabelRecord.encode labels = .ok record)
    (steady : writer.nextId ≤ writer.nextId + 1) :
    { writer with
      nextId := writer.nextId + 1
      known := writer.known.put (seriesKey tenant labels) writer.nextId }.Sound
        (table.register tenant labels writer.nextId record) := by
  have free : ∀ owner others, ¬ table.Registers owner others writer.nextId :=
    fun _ _ held => UInt64.lt_irrefl _ (sound.ahead held)
  have registry := sound.registry.register absent free encoded
  have grown : { writer with nextId := writer.nextId + 1 }.Sound
      (table.register tenant labels writer.nextId record) := by
    constructor
    · exact registry
    · intro owner others other held
      exact Table.registers_register.mpr (.inl (sound.known held))
    · intro owner others other held
      rcases Table.registers_register.mp held with old | ⟨-, -, rfl⟩
      · exact UInt64.lt_of_lt_of_le (sound.ahead old) steady
      · exact UInt64.lt_of_le_of_ne steady (by simp)
    · intro key held
      obtain ⟨others, registered, inside⟩ := sound.recent held
      exact ⟨others, Table.registers_register.mpr (.inl registered),
        fun item posted => Table.mem_register.mpr (.inl (inside item posted))⟩
  exact grown.put_known (Table.registers_register.mpr (.inr ⟨rfl, rfl, rfl⟩))

/-- Registering a series that has no identifier gives it one, or changes no item. -/
theorem register_keeps (sound : writer.Sound store.table)
    (absent : ∀ id, ¬ store.table.Registers tenant labels id)
    (steady : writer.nextId ≤ writer.nextId + 1) :
    ∃ given after left, register tenant labels (writer, store) = (given, after, left) ∧
      after.Sound left.table ∧ Extends (writer, store) (after, left) ∧
      ∀ id, given = .ok id → left.table.Registers tenant labels id := by
  unfold Writer.register
  dsimp only
  cases encoded : LabelRecord.encode labels with
  | error fault =>
      exact ⟨_, _, _, rfl, sound.skip steady, extends_of_table rfl rfl, nofun⟩
  | ok record =>
      obtain ⟨error, left, failed, same⟩ | ⟨left, written, table⟩ := store.add_cases
        [seriesKey tenant labels ++ ofWord64 writer.nextId,
          Key.labels tenant writer.nextId ++ record]
      · dsimp only
        rw [failed]
        exact ⟨_, _, _, rfl, same ▸ sound.skip steady, extends_of_table rfl same, nofun⟩
      · have whole : left.table = store.table.register tenant labels writer.nextId record := table
        dsimp only
        rw [written]
        refine ⟨_, _, _, rfl, whole ▸ sound.register absent encoded steady, ⟨rfl, ?_, ?_⟩, ?_⟩
        · intro item held
          exact whole ▸ Table.mem_register.mpr (.inl held)
        · intro owner label content bucket ids held
          rcases Table.mem_register.mp (whole ▸ held) with old | same | same
          · exact old
          · cases congrArg List.head? same
          · cases congrArg List.head? same
        · rintro _ ⟨⟩
          exact whole ▸ Table.registers_register.mpr (.inr ⟨rfl, rfl, rfl⟩)

/-! ## Identifying -/

/-- Identifying a series gives the identifier registered for it, then or before. -/
theorem identify_keeps (sound : writer.Sound store.table) (tenant : Tenant) (labels : List Label)
    (steady : writer.nextId ≤ (identify tenant labels (writer, store)).2.1.nextId) :
    ∃ given after left, identify tenant labels (writer, store) = (given, after, left) ∧
      after.Sound left.table ∧ Extends (writer, store) (after, left) ∧
      ∀ id, given = .ok id → left.table.Registers tenant labels id := by
  unfold identify at steady ⊢
  obtain ⟨found, once, left, looked, onceSound, same, counter, width, registered, -, -⟩ :=
    seriesId_keeps sound tenant labels
  rw [looked] at steady ⊢
  have first : Extends (writer, store) (once, left) := extends_of_table width same
  match found with
  | .error error => exact ⟨_, _, _, rfl, onceSound, first, nofun⟩
  | .ok (some id) =>
      refine ⟨_, _, _, rfl, onceSound, first, ?_⟩
      rintro _ ⟨⟩
      rw [same]
      exact registered id rfl
  | .ok none =>
      dsimp only at steady ⊢
      obtain ⟨found, twice, right, looked, twiceSound, again, recounted, width, registered,
        absent, -⟩ := seriesId_keeps onceSound tenant labels
      rw [looked] at steady ⊢
      have second : Extends (writer, store) (twice, right) :=
        first.trans (extends_of_table width again)
      match found with
      | .error error => exact ⟨_, _, _, rfl, twiceSound, second, nofun⟩
      | .ok (some id) =>
          refine ⟨_, _, _, rfl, twiceSound, second, ?_⟩
          rintro _ ⟨⟩
          rw [again]
          exact registered id rfl
      | .ok none =>
          dsimp only at steady ⊢
          rw [register_nextId, ← counter, ← recounted] at steady
          obtain ⟨given, after, last, done, afterSound, third, gives⟩ :=
            register_keeps twiceSound (again ▸ absent rfl) steady
          exact ⟨_, _, _, done, afterSound, second.trans third, gives⟩

end SeriesIndex.Writer
