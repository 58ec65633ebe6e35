import Mathlib.Data.Finset.Sort
import SeriesIndex.Proofs.IdentifierSet

/-!
# Histories of identifier sets

Whatever operations have made an identifier set, it is the finite set that the same operations make
of finite sets. Its list is that set in ascending order, so two histories lead to the same set
exactly if they lead to the same members.
-/

namespace SeriesIndex.IdentifierSet

/-! ## Operations on members -/

/-- The members as a finite set. -/
def toFinset (set : IdentifierSet) : Finset UInt64 := set.ids.toFinset

/-- The smallest members: those with fewer than `limit` members below them. -/
def smallest (limit : Nat) (members : Finset UInt64) : Finset UInt64 :=
  members.filter fun id => (members.filter (· < id)).card < limit

@[simp]
theorem mem_toFinset {set : IdentifierSet} {id : UInt64} : id ∈ set.toFinset ↔ id ∈ set :=
  List.mem_toFinset

theorem toFinset_injective : Function.Injective toFinset := by
  intro left right same
  ext id
  rw [← mem_toFinset, same, mem_toFinset]

@[simp]
theorem card_toFinset (set : IdentifierSet) : set.toFinset.card = set.size :=
  List.toFinset_card_of_nodup set.nodup

/-- The list of a set is its members in ascending order. -/
theorem ids_eq_sort (set : IdentifierSet) : set.ids = set.toFinset.sort (· ≤ ·) :=
  ((List.toFinset_sort (· ≤ ·) set.nodup).mpr (set.ascending.imp UInt64.le_of_lt)).symm

@[simp] theorem toFinset_empty : empty.toFinset = ∅ := rfl

@[simp]
theorem toFinset_ofList (ids : List UInt64) : (ofList ids).toFinset = ids.toFinset := by
  ext id
  simp

@[simp]
theorem toFinset_add (set : IdentifierSet) (id : UInt64) :
    (set.add id).2.toFinset = Insert.insert id set.toFinset := by
  ext other
  simp [add]

@[simp]
theorem toFinset_insertAll (set : IdentifierSet) (ids : List UInt64) :
    (set.insertAll ids).toFinset = set.toFinset ∪ ids.toFinset := by
  ext id
  simp

@[simp]
theorem toFinset_union (left right : IdentifierSet) :
    (left.union right).toFinset = left.toFinset ∪ right.toFinset :=
  toFinset_insertAll left right.ids

@[simp]
theorem toFinset_intersection (left right : IdentifierSet) :
    (left.intersection right).toFinset = left.toFinset ∩ right.toFinset := by
  ext id
  simp

@[simp]
theorem toFinset_difference (left right : IdentifierSet) :
    (left.difference right).toFinset = left.toFinset \ right.toFinset := by
  ext id
  simp

/-! ## The smallest members -/

section Positions

variable (set : IdentifierSet) {position other : Nat} (inside : position < set.ids.length)

theorem getElem_less_iff (present : other < set.ids.length) :
    set.ids[other] < set.ids[position] ↔ other < position := by
  have ordered := List.pairwise_iff_getElem.mp set.ascending
  constructor
  · intro less
    by_contra later
    rcases Nat.lt_or_eq_of_le (Nat.not_lt.mp later) with before | rfl
    · exact UInt64.lt_asymm less (ordered position other inside present before)
    · exact UInt64.lt_irrefl _ less
  · exact ordered other position present inside

/-- The members below one are those that stand before it. -/
theorem mem_take_iff_less {id : UInt64} :
    id ∈ set.ids.take position ↔ id ∈ set ∧ id < set.ids[position] := by
  rw [List.mem_take_iff_getElem]
  constructor
  · rintro ⟨other, earlier, rfl⟩
    obtain ⟨earlier, present⟩ := lt_min_iff.mp earlier
    exact ⟨List.getElem_mem present, (set.getElem_less_iff inside present).mpr earlier⟩
  · rintro ⟨found, less⟩
    obtain ⟨other, present, rfl⟩ := List.mem_iff_getElem.mp found
    exact ⟨other, lt_min ((set.getElem_less_iff inside present).mp less) present, rfl⟩

/-- As many members are below one as stand before it. -/
theorem card_below :
    (set.toFinset.filter (· < set.ids[position])).card = position := by
  have before : set.toFinset.filter (· < set.ids[position]) =
      (set.ids.take position).toFinset := by
    ext id
    rw [Finset.mem_filter, mem_toFinset, List.mem_toFinset, set.mem_take_iff_less inside]
  rw [before, List.toFinset_card_of_nodup (set.nodup.sublist (List.take_sublist _ _)),
    List.length_take, Nat.min_eq_left (Nat.le_of_lt inside)]

end Positions

/-- A set that is cut off keeps the members below the first one dropped, if any is dropped. -/
theorem truncate_eq_filter (set : IdentifierSet) (limit : Nat) :
    set.truncate limit =
      match set.ids[limit]? with
      | none => set
      | some dropped => set.filter (· < dropped) := by
  by_cases inside : limit < set.ids.length
  · rw [List.getElem?_eq_getElem inside]
    ext id
    rw [mem_filter, decide_eq_true_eq]
    exact set.mem_take_iff_less inside
  · rw [List.getElem?_eq_none (Nat.not_lt.mp inside)]
    ext id
    change id ∈ set.ids.take limit ↔ id ∈ set.ids
    rw [List.take_of_length_le (Nat.not_lt.mp inside)]

@[simp]
theorem toFinset_truncate (set : IdentifierSet) (limit : Nat) :
    (set.truncate limit).toFinset = smallest limit set.toFinset := by
  ext id
  rw [smallest, Finset.mem_filter, toFinset, List.mem_toFinset, truncate,
    List.mem_take_iff_getElem, toFinset, List.mem_toFinset]
  constructor
  · rintro ⟨position, within, rfl⟩
    obtain ⟨within, inside⟩ := lt_min_iff.mp within
    exact ⟨List.getElem_mem inside, (set.card_below inside).trans_lt within⟩
  · rintro ⟨found, few⟩
    obtain ⟨position, inside, rfl⟩ := List.mem_iff_getElem.mp found
    have within : position < limit := (set.card_below inside).symm.trans_lt few
    exact ⟨position, lt_min within inside, rfl⟩

/-! ## Histories -/

/-- What has been done to a set, starting with one that is new or made of a list. The sets that are
joined with it, or taken from it, have histories of their own. -/
inductive History where
  | empty
  | ofList (ids : List UInt64)
  | add (before : History) (id : UInt64)
  | insertAll (before : History) (ids : List UInt64)
  | union (before other : History)
  | intersection (before other : History)
  | difference (before other : History)
  | truncate (before : History) (limit : Nat)
  | clear (before : History)

namespace History

/-- The set that a history leads to. -/
def set : History → IdentifierSet
  | empty => .empty
  | ofList ids => .ofList ids
  | add before id => (before.set.add id).2
  | insertAll before ids => before.set.insertAll ids
  | union before other => before.set.union other.set
  | intersection before other => before.set.intersection other.set
  | difference before other => before.set.difference other.set
  | truncate before limit => before.set.truncate limit
  | clear _ => .empty

/-- What the same operations make of finite sets. -/
def members : History → Finset UInt64
  | empty => ∅
  | ofList ids => ids.toFinset
  | add before id => Insert.insert id before.members
  | insertAll before ids => before.members ∪ ids.toFinset
  | union before other => before.members ∪ other.members
  | intersection before other => before.members ∩ other.members
  | difference before other => before.members \ other.members
  | truncate before limit => smallest limit before.members
  | clear _ => ∅

theorem toFinset_set (history : History) : history.set.toFinset = history.members := by
  induction history with
  | empty => exact toFinset_empty
  | ofList ids => exact toFinset_ofList ids
  | add before id ih => rw [set, toFinset_add, ih, members]
  | insertAll before ids ih => rw [set, toFinset_insertAll, ih, members]
  | union before other ih ihOther => rw [set, toFinset_union, ih, ihOther, members]
  | intersection before other ih ihOther => rw [set, toFinset_intersection, ih, ihOther, members]
  | difference before other ih ihOther => rw [set, toFinset_difference, ih, ihOther, members]
  | truncate before limit ih => rw [set, toFinset_truncate, ih, members]
  | clear before => exact toFinset_empty

end History

/-- Whatever is done to a set, its list has exactly the members that the same operations leave in a
finite set, in ascending order; it has as many as the set says, the first of them are those that
stand first, what is cut off are those from the first one dropped on, an addition tells whether
there is a new member, and only the members make a difference between two sets. -/
theorem history_members (history : History) :
    history.set.ids = history.members.sort (· ≤ ·) ∧ history.set.ids.Pairwise (· < ·) ∧
      (∀ id, history.set.contains id = true ↔ id ∈ history.members) ∧
      history.set.size = history.members.card ∧
      (history.set.isEmpty = true ↔ history.members = ∅) ∧
      (∀ limit, history.set.first limit = history.set.ids.take (min limit history.set.size) ∧
        (history.set.first limit).length = min limit history.set.size) ∧
      (∀ limit, history.set.truncate limit =
        match history.set.ids[limit]? with
        | none => history.set
        | some dropped => history.set.filter (· < dropped)) ∧
      (∀ id, (history.set.add id).1 = true ↔ id ∉ history.members) ∧
      ∀ other : History, history.set = other.set ↔ history.members = other.members := by
  simp only [← History.toFinset_set]
  have contains : ∀ id, history.set.contains id = true ↔ id ∈ history.set.toFinset := fun id =>
    contains_eq_true.trans mem_toFinset.symm
  refine ⟨ids_eq_sort _, history.set.ascending, contains, (card_toFinset _).symm, ?_, ?_,
    truncate_eq_filter _, ?_, ?_⟩
  · rw [isEmpty_iff, Finset.eq_empty_iff_forall_notMem]
    simp only [mem_toFinset]
  · intro limit
    refine ⟨?_, by rw [first, List.length_take, size]⟩
    rw [first, size, ← List.take_eq_take_min]
  · intro id
    rw [add, Bool.not_eq_true', ← Bool.not_eq_true, contains]
  · exact fun other => toFinset_injective.eq_iff.symm

end SeriesIndex.IdentifierSet
