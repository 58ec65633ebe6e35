import SeriesIndex.Ascending
import SeriesIndex.Bytes

/-!
# Tables

A table is a set of byte strings, its items, kept in ascending order. Items are added and never
removed, and a key finds the items from it on.
-/

namespace SeriesIndex

structure Table where
  items : List Bytes
  ascending : items.Pairwise (· < ·)

namespace Table

def empty : Table := ⟨[], .nil⟩

instance : Inhabited Table := ⟨empty⟩

def count (table : Table) : Nat := table.items.length

def insert (table : Table) (item : Bytes) : Table :=
  ⟨Ascending.insert item table.items, Ascending.insert_ascending table.ascending⟩

def insertAll (table : Table) (items : List Bytes) : Table := items.foldl insert table

/-- The items after a key, with the key itself if `inclusive`. -/
def itemsFrom (table : Table) (key : Bytes) (inclusive : Bool) : List Bytes :=
  table.items.dropWhile fun item => item < key || (!inclusive && item == key)

/-- Behind the last item of a part of the table comes the rest of it. -/
theorem itemsFrom_of_split {table : Table} {front page rest : List Bytes} {last : Bytes}
    (split : (front ++ page) ++ rest = table.items) (lastIs : page.getLast? = some last) :
    table.itemsFrom last false = rest := by
  have ascending := table.ascending
  rw [← split] at ascending
  have ⟨before, after, across⟩ := List.pairwise_append.mp ascending
  have lastIn : last ∈ front ++ page :=
    List.mem_append_right _ (List.mem_of_getLast? lastIs)
  unfold itemsFrom
  rw [← split, List.dropWhile_append_of_pos]
  · cases rest with
    | nil => rfl
    | cons item later =>
        have above : last < item := across last lastIn item List.mem_cons_self
        have notBelow : ¬ item < last := List.lt_asymm above
        have different : item ≠ last := fun same => List.lt_irrefl last (same ▸ above)
        simp [notBelow, different]
  · intro item inside
    obtain ⟨initial, shape⟩ := List.getLast?_eq_some_iff.mp lastIs
    rw [shape, ← List.append_assoc] at inside before
    cases List.mem_append.mp inside with
    | inl earlier =>
        have below := (List.pairwise_append.mp before).2.2 item earlier last
          List.mem_cons_self
        simp [below]
    | inr isLast =>
        have same := List.mem_singleton.mp isLast
        simp [same]

end Table

end SeriesIndex
