import Mathlib.Data.List.Induction
import Mathlib.Data.Set.Card
import SeriesIndex.IdentifierSet

/-!
# Identifier sets as finite sets

The operations of identifier sets by their members and sizes. Gathering puts identifiers into a set
in their order for as long as it is smaller than a limit, so what is gathered are the first of them,
each counted once.
-/

namespace SeriesIndex

theorem finite_word64 : Finite UInt64 :=
  .of_injective UInt64.toFin fun _ _ same => UInt64.toFin_inj.mp same

namespace IdentifierSet

/-! ## Members -/

instance (id : UInt64) (set : IdentifierSet) : Decidable (id ∈ set) :=
  inferInstanceAs (Decidable (id ∈ set.ids))

@[simp]
theorem not_mem_empty (id : UInt64) : id ∉ empty := List.not_mem_nil

theorem nodup (set : IdentifierSet) : set.ids.Nodup :=
  List.Pairwise.imp (fun less => UInt64.ne_of_lt less) set.ascending

@[ext]
theorem ext {left right : IdentifierSet} (same : ∀ id, id ∈ left ↔ id ∈ right) :
    left = right := by
  have perm : left.ids.Perm right.ids :=
    (List.perm_ext_iff_of_nodup left.nodup right.nodup).mpr same
  have lists : left.ids = right.ids :=
    perm.eq_of_pairwise (fun _ _ _ _ less greater => absurd greater (UInt64.lt_asymm less))
      left.ascending right.ascending
  cases left
  cases right
  cases lists
  rfl

@[simp]
theorem mem_insert {set : IdentifierSet} {id other : UInt64} :
    other ∈ set.insert id ↔ other = id ∨ other ∈ set := Ascending.mem_insert

@[simp]
theorem mem_insertAll {set : IdentifierSet} {ids : List UInt64} {id : UInt64} :
    id ∈ set.insertAll ids ↔ id ∈ set ∨ id ∈ ids := by
  unfold insertAll
  split
  · next empty => simp [List.isEmpty_iff.mp empty]
  · exact Ascending.mem_ofList.trans List.mem_append

@[simp]
theorem mem_ofList {ids : List UInt64} {id : UInt64} : id ∈ ofList ids ↔ id ∈ ids :=
  Ascending.mem_ofList

theorem mem_filter {set : IdentifierSet} {keep : UInt64 → Bool} {id : UInt64} :
    id ∈ set.filter keep ↔ id ∈ set ∧ keep id = true := List.mem_filter

@[simp]
theorem contains_eq_true {set : IdentifierSet} {id : UInt64} :
    set.contains id = true ↔ id ∈ set := List.contains_iff_mem

@[simp]
theorem mem_intersection {left right : IdentifierSet} {id : UInt64} :
    id ∈ left.intersection right ↔ id ∈ left ∧ id ∈ right := by
  rw [intersection, mem_filter, Std.HashSet.contains_ofList, List.contains_iff_mem]
  exact Iff.rfl

@[simp]
theorem mem_difference {left right : IdentifierSet} {id : UInt64} :
    id ∈ left.difference right ↔ id ∈ left ∧ id ∉ right := by
  rw [difference, mem_filter, Std.HashSet.contains_ofList, Bool.not_eq_true',
    ← Bool.not_eq_true, List.contains_iff_mem]
  exact Iff.rfl

theorem isEmpty_iff {set : IdentifierSet} : set.isEmpty = true ↔ ∀ id, id ∉ set :=
  List.isEmpty_iff.trans List.eq_nil_iff_forall_not_mem

/-! ## Sizes -/

theorem size_le_of_subset {left right : IdentifierSet} (inside : ∀ id ∈ left, id ∈ right) :
    left.size ≤ right.size := (List.subperm_of_subset left.nodup inside).length_le

/-- A part that is as large as the whole is the whole. -/
theorem mem_of_subset_of_size_le {left right : IdentifierSet}
    (inside : ∀ id ∈ left, id ∈ right) (large : right.size ≤ left.size) {id : UInt64}
    (found : id ∈ right) : id ∈ left :=
  ((List.subperm_of_subset left.nodup inside).perm_of_length_le large).mem_iff.mpr found

theorem size_insert_le (set : IdentifierSet) (id : UInt64) :
    (set.insert id).size ≤ set.size + 1 := by
  have inside : (set.insert id).ids ⊆ id :: set.ids := fun other found =>
    List.mem_cons.mpr (mem_insert.mp found)
  exact (List.subperm_of_subset (set.insert id).nodup inside).length_le

theorem size_ofList {ids : List UInt64} (once : ids.Nodup) : (ofList ids).size = ids.length :=
  ((List.perm_ext_iff_of_nodup (ofList ids).nodup once).mpr fun _ => mem_ofList).length_eq

/-- The size of a set is the number of those whom it holds. -/
theorem ncard_eq_size {set : IdentifierSet} {holds : UInt64 → Prop}
    (members : ∀ id, id ∈ set ↔ holds id) : {id | holds id}.ncard = set.size := by
  have coe : {id | holds id} = (set.ids.toFinset : Set UInt64) := by
    ext id
    rw [Set.mem_ofPred_eq, ← members, Finset.mem_coe, List.mem_toFinset]
    exact Iff.rfl
  rw [coe, Set.ncard_coe_finset, List.toFinset_card_of_nodup set.nodup]
  rfl

/-! ## Gathering up to a limit -/

/-- Adds identifiers in their order, each unless the set has reached the limit. -/
def gather (limit : Nat) (set : IdentifierSet) (ids : List UInt64) : IdentifierSet :=
  ids.foldl (fun set id => if set.size < limit then set.insert id else set) set

theorem gather_append (limit : Nat) (set : IdentifierSet) (ids others : List UInt64) :
    set.gather limit (ids ++ others) = (set.gather limit ids).gather limit others :=
  List.foldl_append

theorem gather_cons {limit : Nat} {set : IdentifierSet} (room : set.size < limit) (id : UInt64)
    (ids : List UInt64) : set.gather limit (id :: ids) = (set.insert id).gather limit ids := by
  rw [gather, List.foldl_cons, if_pos room]
  rfl

theorem gather_of_full {limit : Nat} {set : IdentifierSet} (full : limit ≤ set.size)
    (ids : List UInt64) : set.gather limit ids = set := by
  induction ids with
  | nil => rfl
  | cons id ids ih =>
      rw [gather, List.foldl_cons, if_neg (Nat.not_lt.mpr full)]
      exact ih

/-! ## The first identifiers of a list -/

/-- An identifier at the end counts unless it occurs before. -/
theorem eraseDups_concat (ids : List UInt64) (id : UInt64) :
    (ids ++ [id]).eraseDups = if id ∈ ids then ids.eraseDups else ids.eraseDups ++ [id] := by
  rw [List.eraseDups_append]
  split
  · next known => simp [List.removeAll, known]
  · next new => simp [List.removeAll, new, List.eraseDups_cons]

theorem nodup_eraseDups (ids : List UInt64) : ids.eraseDups.Nodup := by
  induction ids using List.reverseRecOn with
  | nil => exact List.nodup_nil
  | append_singleton ids id ih =>
      rw [eraseDups_concat]
      split
      · exact ih
      · next new =>
          refine List.nodup_append.mpr ⟨ih, List.nodup_singleton id, ?_⟩
          rintro other inside _ last rfl
          obtain rfl := List.mem_singleton.mp last
          exact new (List.mem_eraseDups.mp inside)

theorem size_take {ids : List UInt64} (once : ids.Nodup) (limit : Nat) :
    (ofList (ids.take limit)).size = min limit ids.length := by
  rw [size_ofList (once.sublist (List.take_sublist limit ids)), List.length_take]

/-- What is gathered under a limit are the first identifiers of the list, each counted once. -/
theorem gather_eq_take (limit : Nat) (ids : List UInt64) :
    empty.gather limit ids = ofList (ids.eraseDups.take limit) := by
  induction ids using List.reverseRecOn with
  | nil =>
      ext id
      simp [gather]
  | append_singleton ids id ih =>
      have step : empty.gather limit (ids ++ [id]) =
          if (empty.gather limit ids).size < limit then (empty.gather limit ids).insert id
          else empty.gather limit ids := by
        rw [gather_append]
        rfl
      rw [step, ih, size_take (nodup_eraseDups ids), eraseDups_concat]
      by_cases room : ids.eraseDups.length < limit
      · have whole := List.take_of_length_le (Nat.le_of_lt room)
        rw [if_pos (by omega)]
        ext other
        rw [mem_insert, mem_ofList, mem_ofList, whole]
        split
        · next known =>
            rw [whole, List.mem_eraseDups]
            exact or_iff_right_of_imp fun same => same ▸ known
        · next new =>
            rw [List.take_of_length_le (by simpa using room), List.mem_append,
              List.mem_singleton, or_comm]
      · rw [if_neg (by omega)]
        split
        · rfl
        · rw [List.take_append_of_le_length (Nat.le_of_not_lt room)]

theorem size_gather_le (limit : Nat) (ids : List UInt64) :
    (empty.gather limit ids).size ≤ limit := by
  rw [gather_eq_take, size_take (nodup_eraseDups ids)]
  exact Nat.min_le_left _ _

theorem mem_of_mem_gather {limit : Nat} {ids : List UInt64} {id : UInt64}
    (found : id ∈ empty.gather limit ids) : id ∈ ids := by
  rw [gather_eq_take, mem_ofList] at found
  exact List.mem_eraseDups.mp (List.mem_of_mem_take found)

section Wanted

variable {limit : Nat} {ids : List UInt64} {wanted : UInt64 → Prop}

theorem ncard_eq_length (members : ∀ id, id ∈ ids ↔ wanted id) :
    {id | wanted id}.ncard = ids.eraseDups.length := by
  have listed : ∀ id, id ∈ ofList ids.eraseDups ↔ wanted id := fun id =>
    mem_ofList.trans (List.mem_eraseDups.trans (members id))
  rw [ncard_eq_size listed, size_ofList (nodup_eraseDups ids)]

/-- As many identifiers are gathered as there are, or as the limit allows. -/
theorem size_gather (members : ∀ id, id ∈ ids ↔ wanted id) :
    (empty.gather limit ids).size = min limit {id | wanted id}.ncard := by
  rw [gather_eq_take, size_take (nodup_eraseDups ids), ncard_eq_length members]

/-- With a limit not below the number of identifiers wanted, all of them are gathered. -/
theorem mem_gather_of_ncard_le (members : ∀ id, id ∈ ids ↔ wanted id)
    (few : {id | wanted id}.ncard ≤ limit) {id : UInt64} :
    id ∈ empty.gather limit ids ↔ wanted id := by
  rw [ncard_eq_length members] at few
  rw [gather_eq_take, List.take_of_length_le few, mem_ofList, List.mem_eraseDups, members]

end Wanted

end IdentifierSet

end SeriesIndex
