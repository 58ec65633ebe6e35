import SeriesIndex.Proofs.Key
import SeriesIndex.Proofs.Table

/-!
# Series keys

The key of a series ends where its labels end, so whatever follows it, it starts with no other
series key. In a table that holds each series once, the first item with the key of a series is
therefore the item of that series, among items of other kinds that may be any bytes.
-/

namespace SeriesIndex

open Bytes Key

variable {tenant owner : Tenant} {labels others : List (Bytes × Bytes)} {item rest : Bytes}

/-- With what follows it, the key of a series starts with its own key only. -/
theorem Key.series_prefix_iff :
    series tenant labels <+: series owner others ++ rest ↔ tenant = owner ∧ labels = others := by
  constructor
  · rintro ⟨more, whole⟩
    obtain ⟨tenants, labels, -⟩ := series_append_inj whole
    exact ⟨tenants, labels⟩
  · rintro ⟨rfl, rfl⟩
    exact List.prefix_append _ _

theorem Key.head?_of_seriesStart (begins : series tenant labels <+: item) :
    item.head? = some Space.series.code := by
  obtain ⟨more, rfl⟩ := begins
  rfl

/-! ## Tables of series -/

/-- The table has the item of each series once, and no other items that start as those of series
do. -/
structure Table.SeriesOnce (table : Table) : Prop where
  formed : ∀ item ∈ table.items, item.head? = some Space.series.code →
    ∃ tenant labels id, item = series tenant labels ++ ofWord64 id
  once : ∀ {tenant labels id other}, series tenant labels ++ ofWord64 id ∈ table.items →
    series tenant labels ++ ofWord64 other ∈ table.items → id = other

namespace Table.SeriesOnce

variable {table : Table}

/-- What starts with a series key is the item of that series. -/
theorem of_seriesStart (single : table.SeriesOnce) (inside : item ∈ table.items)
    (begins : series tenant labels <+: item) :
    ∃ id, item = series tenant labels ++ ofWord64 id := by
  obtain ⟨owner, others, id, rfl⟩ := single.formed item inside (head?_of_seriesStart begins)
  obtain ⟨rfl, rfl⟩ := series_prefix_iff.mp begins
  exact ⟨id, rfl⟩

/-- The first item with a series key is the one item of that series. -/
theorem first?_iff (single : table.SeriesOnce) :
    table.first? (series tenant labels) = some item ↔
      item ∈ table.items ∧ ∃ id, item = series tenant labels ++ ofWord64 id := by
  constructor
  · intro found
    obtain ⟨inside, begins⟩ := first?_some found
    exact ⟨inside, single.of_seriesStart inside begins⟩
  · rintro ⟨inside, id, rfl⟩
    cases found : table.first? (series tenant labels) with
    | none => exact absurd (List.prefix_append _ _) (first?_none found _ inside)
    | some first =>
        obtain ⟨held, begins⟩ := first?_some found
        obtain ⟨other, rfl⟩ := single.of_seriesStart held begins
        rw [single.once held inside]

end Table.SeriesOnce

/-- A series key is the start of the key of no other series, whatever comes behind it. So, in a
store that has each series once, the key of a series finds the item of that series, and nothing if
it has none, unless the read fails. -/
theorem Key.series_prefixFree :
    (∀ tenant labels owner others rest,
        startsWith (series owner others ++ rest) (series tenant labels) = true ↔
          tenant = owner ∧ labels = others) ∧
      ∀ store : Store, store.table.SeriesOnce → ∀ tenant labels,
        match (store.firstWithPrefix (series tenant labels)).1 with
        | .ok found => ∀ item, found = some item ↔
            item ∈ store.table.items ∧ ∃ id, item = series tenant labels ++ ofWord64 id
        | .error error => store.medium.read store.reads = some error := by
  constructor
  · intro tenant labels owner others rest
    exact startsWith_iff.trans series_prefix_iff
  · intro store single tenant labels
    cases fault : store.medium.read store.reads with
    | some error => rw [Store.firstWithPrefix_of_fault fault]
    | none =>
        rw [Store.firstWithPrefix_of_read fault]
        exact fun item => single.first?_iff

namespace Key

def sampleShort : List (Bytes × Bytes) := [([0x61], [0x62])]

def sampleLong : List (Bytes × Bytes) := [([0x61], [0x62]), ([], [1])]

/-- A series under an identifier whose bytes could be another label, a longer series and items of
other kinds. -/
def sampleTable : Table :=
  Table.empty.insertAll [series ⟨1, 2⟩ sampleShort ++ ofWord64 0x6302640101000000,
    series ⟨1, 2⟩ sampleLong ++ ofWord64 2, [7, 8, 8], [9]]

theorem mem_sampleTable : item ∈ sampleTable.items ↔
    item = series ⟨1, 2⟩ sampleShort ++ ofWord64 0x6302640101000000 ∨
      item = series ⟨1, 2⟩ sampleLong ++ ofWord64 2 ∨ item = [7, 8, 8] ∨ item = [9] := by
  simp [sampleTable, Table.mem_insertAll, Table.empty]

theorem sampleTable_seriesOnce : sampleTable.SeriesOnce where
  formed := by
    intro item inside first
    rcases mem_sampleTable.mp inside with rfl | rfl | rfl | rfl
    · exact ⟨_, _, _, rfl⟩
    · exact ⟨_, _, _, rfl⟩
    · cases first
    · cases first
  once := by
    intro tenant labels id other left right
    rcases mem_sampleTable.mp left with one | one | one | one
    · obtain ⟨rfl, rfl, ids⟩ := series_append_inj one
      rcases mem_sampleTable.mp right with two | two | two | two
      · exact ofWord64_injective (ids.trans (series_append_inj two).2.2.symm)
      · cases (series_append_inj two).2.1
      · cases congrArg List.head? two
      · cases congrArg List.head? two
    · obtain ⟨rfl, rfl, ids⟩ := series_append_inj one
      rcases mem_sampleTable.mp right with two | two | two | two
      · cases (series_append_inj two).2.1
      · exact ofWord64_injective (ids.trans (series_append_inj two).2.2.symm)
      · cases congrArg List.head? two
      · cases congrArg List.head? two
    · cases congrArg List.head? one
    · cases congrArg List.head? one

theorem series_prefixFree_sample :
    sampleTable.SeriesOnce ∧
      ((Store.ofTable .memory sampleTable).firstWithPrefix (series ⟨1, 2⟩ sampleShort)).1 =
        .ok (some (series ⟨1, 2⟩ sampleShort ++ ofWord64 0x6302640101000000)) ∧
      ((Store.ofTable .memory sampleTable).firstWithPrefix (series ⟨1, 2⟩ [])).1 = .ok none := by
  have single := sampleTable_seriesOnce
  have finds := series_prefixFree.2 (Store.ofTable .memory sampleTable) single ⟨1, 2⟩
  refine ⟨single, ?_, ?_⟩
  · have here := finds sampleShort
    split at here
    · next found answer =>
        rw [answer, (here _).mpr ⟨mem_sampleTable.mpr (.inl rfl), _, rfl⟩]
    · cases here
  · have here := finds []
    split at here
    · next found answer =>
        cases found with
        | none => exact answer
        | some item =>
            obtain ⟨inside, id, rfl⟩ := (here item).mp rfl
            rcases mem_sampleTable.mp inside with same | same | same | same
            · cases (series_append_inj same).2.1
            · cases (series_append_inj same).2.1
            · cases congrArg List.head? same
            · cases congrArg List.head? same
    · cases here

end Key

end SeriesIndex
