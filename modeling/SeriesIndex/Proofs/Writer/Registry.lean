import Mathlib.Data.List.Basic
import SeriesIndex.Proofs.Key
import SeriesIndex.Proofs.LabelRecord
import SeriesIndex.Proofs.RecentMap
import SeriesIndex.Proofs.Table
import SeriesIndex.Writer

/-!
# The registry of series

A table that only writers have written to registers a series under one identifier and an
identifier for one series, since no series key is the start of another. A writer keeps that so: it
gives an identifier that is registered or one above all that are.
-/

namespace SeriesIndex

open Bytes

namespace Label

theorem toBytes_injective : Function.Injective toBytes := by
  rintro ⟨name, value⟩ ⟨other, text⟩ same
  obtain ⟨names, values⟩ := Prod.mk.inj same
  exact congrArg₂ Label.mk (ofText_injective names) (ofText_injective values)

end Label

namespace Writer

theorem seriesKey_append_inj {tenant owner : Tenant} {labels others : List Label}
    {more rest : Bytes} (same : seriesKey tenant labels ++ more = seriesKey owner others ++ rest) :
    tenant = owner ∧ labels = others ∧ more = rest := by
  obtain ⟨tenants, maps, rests⟩ := Key.series_append_inj same
  exact ⟨tenants, List.map_injective_iff.mpr Label.toBytes_injective maps, rests⟩

theorem mem_postings {labels : List Label} {key : PostingKey} {item : Bytes} :
    item ∈ postings labels key ↔ ∃ label ∈ labels, item =
      Key.posting key.tenant label.toBytes.1 label.toBytes.2 key.bucket [key.id] := by
  simp [postings, eq_comm]

end Writer

namespace Table

/-- The table has the identifier for the series with these labels. -/
def Registers (table : Table) (tenant : Tenant) (labels : List Label) (id : UInt64) : Prop :=
  Writer.seriesKey tenant labels ++ ofWord64 id ∈ table.items

/-- What a writer puts into a table: series, their label records and their postings. -/
inductive Written (table : Table) : Bytes → Prop where
  | series {tenant : Tenant} {labels : List Label} {id : UInt64}
      (registered : table.Registers tenant labels id) :
      Written table (Writer.seriesKey tenant labels ++ ofWord64 id)
  | record {tenant : Tenant} {labels : List Label} {id : UInt64} {record : Bytes}
      (registered : table.Registers tenant labels id)
      (encoded : LabelRecord.encode labels = .ok record) :
      Written table (Key.labels tenant id ++ record)
  | posting {labels : List Label} {key : PostingKey} {item : Bytes}
      (registered : table.Registers key.tenant labels key.id)
      (inside : item ∈ Writer.postings labels key) : Written table item

/-- Writers alone have written to the table, and each series has one identifier, each identifier
one series. -/
structure Registry (table : Table) : Prop where
  written : ∀ item ∈ table.items, table.Written item
  once : ∀ {tenant labels id other}, table.Registers tenant labels id →
    table.Registers tenant labels other → id = other
  apart : ∀ {tenant labels owner others id}, table.Registers tenant labels id →
    table.Registers owner others id → tenant = owner ∧ labels = others
  recorded : ∀ {tenant labels id}, table.Registers tenant labels id →
    ∃ record, LabelRecord.encode labels = .ok record ∧ Key.labels tenant id ++ record ∈ table.items

theorem registry_empty : Registry empty :=
  ⟨fun _ held => absurd held List.not_mem_nil, fun held => absurd held List.not_mem_nil,
    fun held => absurd held List.not_mem_nil, fun held => absurd held List.not_mem_nil⟩

/-- The labels of a series that is registered are recorded, so they are small. -/
theorem Registry.small {table : Table} {tenant : Tenant} {labels : List Label} {id : UInt64}
    (registry : table.Registry) (registered : table.Registers tenant labels id) :
    LabelRecord.Small labels := by
  obtain ⟨record, encoded, -⟩ := registry.recorded registered
  exact (LabelRecord.encode_ok_iff.mp encoded).2.1

section Items

variable {table : Table} {tenant : Tenant} {labels : List Label} {id : UInt64} {item : Bytes}

theorem Written.mono {other : Table} (inside : ∀ item ∈ table.items, item ∈ other.items)
    (written : table.Written item) : other.Written item := by
  cases written with
  | series registered => exact .series (inside _ registered)
  | record registered encoded => exact .record (inside _ registered) encoded
  | posting registered member => exact .posting (inside _ registered) member

/-- The series key is the start of its own item only. -/
theorem Written.of_seriesKey (written : table.Written item)
    (begins : Writer.seriesKey tenant labels <+: item) :
    ∃ id, item = Writer.seriesKey tenant labels ++ ofWord64 id ∧
      table.Registers tenant labels id := by
  obtain ⟨more, rfl⟩ := begins
  generalize whole : Writer.seriesKey tenant labels ++ more = item at written
  cases written with
  | series registered =>
      obtain ⟨rfl, rfl, rfl⟩ := Writer.seriesKey_append_inj whole
      exact ⟨_, rfl, registered⟩
  | record registered encoded => cases congrArg List.head? whole
  | posting registered inside =>
      obtain ⟨label, _, rfl⟩ := Writer.mem_postings.mp inside
      cases congrArg List.head? whole

/-- The key of a label record is the start of records of the series with that identifier only. -/
theorem Written.of_labelsKey (written : table.Written item)
    (begins : Key.labels tenant id <+: item) :
    ∃ labels record, item = Key.labels tenant id ++ record ∧ table.Registers tenant labels id ∧
      LabelRecord.encode labels = .ok record := by
  obtain ⟨more, rfl⟩ := begins
  generalize whole : Key.labels tenant id ++ more = item at written
  cases written with
  | series registered => cases congrArg List.head? whole
  | record registered encoded =>
      obtain ⟨rfl, rfl, rfl⟩ := Key.labels_append_inj whole
      exact ⟨_, _, rfl, registered, encoded⟩
  | posting registered inside =>
      obtain ⟨label, _, rfl⟩ := Writer.mem_postings.mp inside
      cases congrArg List.head? whole

/-- A posting is of registered series that have its label. -/
theorem Registry.of_posting (registry : table.Registry) {label content : Bytes} {bucket : UInt64}
    {ids : List UInt64} (held : Key.posting tenant label content bucket ids ∈ table.items)
    (inside : id ∈ ids) :
    ∃ labels, table.Registers tenant labels id ∧ ∃ own ∈ labels,
      label = ofText own.name ∧ content = ofText own.value := by
  generalize whole : Key.posting tenant label content bucket ids = item at held
  cases registry.written item held with
  | series registered => cases congrArg List.head? whole
  | record registered encoded => cases congrArg List.head? whole
  | posting registered listed =>
      obtain ⟨own, mine, rfl⟩ := Writer.mem_postings.mp listed
      obtain ⟨rfl, rfl, rfl, -, rfl⟩ := Key.posting_inj whole
      rw [List.mem_singleton.mp inside]
      exact ⟨_, registered, own, mine, rfl, rfl⟩

/-- The first item with a series key is that of the series. -/
theorem registers_of_first? (written : ∀ item ∈ table.items, table.Written item)
    (found : table.first? (Writer.seriesKey tenant labels) = some item) :
    ∃ id, Key.takeWord (item.drop (Writer.seriesKey tenant labels).length) = .ok id ∧
      table.Registers tenant labels id := by
  obtain ⟨inside, begins⟩ := first?_some found
  obtain ⟨id, rfl, registered⟩ := (written _ inside).of_seriesKey begins
  rw [List.drop_left]
  exact ⟨id, Key.takeWord_ofWord64 id, registered⟩

/-- The first item with the key of a label record is the record of the series, if there is one. -/
theorem Registry.first?_labels (registry : table.Registry) (tenant : Tenant) (id : UInt64) :
    (∃ labels record, table.Registers tenant labels id ∧ LabelRecord.encode labels = .ok record ∧
      table.first? (Key.labels tenant id) = some (Key.labels tenant id ++ record)) ∨
    (∀ labels, ¬ table.Registers tenant labels id) ∧
      table.first? (Key.labels tenant id) = none := by
  cases found : table.first? (Key.labels tenant id) with
  | some item =>
      obtain ⟨inside, begins⟩ := first?_some found
      obtain ⟨labels, record, rfl, registered, encoded⟩ :=
        (registry.written _ inside).of_labelsKey begins
      exact .inl ⟨labels, record, registered, encoded, rfl⟩
  | none =>
      refine .inr ⟨?_, rfl⟩
      intro labels registered
      obtain ⟨record, -, inside⟩ := registry.recorded registered
      exact first?_none found _ inside (List.prefix_append _ _)

theorem not_registers_of_first? (none : table.first? (Writer.seriesKey tenant labels) = none)
    (id : UInt64) : ¬ table.Registers tenant labels id := fun registered =>
  first?_none none _ registered (List.prefix_append _ _)

end Items

/-! ## Registering a series -/

section Register

variable {table : Table} {tenant : Tenant} {labels : List Label} {id : UInt64} {record : Bytes}

/-- The table with a series and its label record. -/
def register (table : Table) (tenant : Tenant) (labels : List Label) (id : UInt64)
    (record : Bytes) : Table :=
  table.insertAll [Writer.seriesKey tenant labels ++ ofWord64 id, Key.labels tenant id ++ record]

theorem mem_register {item : Bytes} : item ∈ (table.register tenant labels id record).items ↔
    item ∈ table.items ∨ item = Writer.seriesKey tenant labels ++ ofWord64 id ∨
      item = Key.labels tenant id ++ record := by
  rw [register, mem_insertAll, or_comm]
  simp

/-- Nothing but the one series is registered. -/
theorem registers_register {owner : Tenant} {others : List Label} {other : UInt64} :
    (table.register tenant labels id record).Registers owner others other ↔
      table.Registers owner others other ∨ (owner = tenant ∧ others = labels ∧ other = id) := by
  rw [Registers, mem_register]
  refine or_congr_right ⟨?_, ?_⟩
  · rintro (same | same)
    · obtain ⟨tenants, labels, ids⟩ := Writer.seriesKey_append_inj same
      exact ⟨tenants, labels, ofWord64_injective ids⟩
    · cases congrArg List.head? same
  · rintro ⟨rfl, rfl, rfl⟩
    exact .inl rfl

/-- A series that has no identifier can get one that no series has. -/
theorem Registry.register (registry : table.Registry)
    (absent : ∀ other, ¬ table.Registers tenant labels other)
    (free : ∀ owner others, ¬ table.Registers owner others id)
    (encoded : LabelRecord.encode labels = .ok record) :
    (table.register tenant labels id record).Registry := by
  have added : (table.register tenant labels id record).Registers tenant labels id :=
    registers_register.mpr (.inr ⟨rfl, rfl, rfl⟩)
  constructor
  · intro item held
    rcases mem_register.mp held with old | rfl | rfl
    · exact (registry.written item old).mono fun _ => mem_register.mpr ∘ .inl
    · exact .series added
    · exact .record added encoded
  · intro owner others first second left right
    rcases registers_register.mp left with old | ⟨rfl, rfl, rfl⟩ <;>
      rcases registers_register.mp right with other | ⟨same, shared, rfl⟩
    · exact registry.once old other
    · subst same shared
      exact absurd old (absent _)
    · exact absurd other (absent _)
    · rfl
  · intro owner others heir others' shared left right
    rcases registers_register.mp left with old | ⟨rfl, rfl, rfl⟩ <;>
      rcases registers_register.mp right with other | ⟨rfl, rfl, same⟩
    · exact registry.apart old other
    · exact absurd (same ▸ old) (free _ _)
    · exact absurd other (free _ _)
    · exact ⟨rfl, rfl⟩
  · intro owner others other held
    rcases registers_register.mp held with old | ⟨rfl, rfl, rfl⟩
    · obtain ⟨record, encoded, inside⟩ := registry.recorded old
      exact ⟨record, encoded, mem_register.mpr (.inl inside)⟩
    · exact ⟨record, encoded, mem_register.mpr (.inr (.inr rfl))⟩

end Register

end Table

end SeriesIndex
