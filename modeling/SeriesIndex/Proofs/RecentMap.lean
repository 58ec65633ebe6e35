import Mathlib.Data.Finset.Card
import SeriesIndex.RecentMap

/-!
# Entries of recent maps

A recent map has no entry that was not put into it: a use moves one, which no other use notices, and
what is put in may only push others out. It holds the keys that were used last, as many as it has
room for. So a key is held exactly if fewer others than that were used since it was.
-/

namespace SeriesIndex.RecentMap

variable {κ ν : Type} [BEq κ] {map : RecentMap κ ν} {key : κ} {value : ν} {entry : κ × ν}

theorem use_of_missing (missing : map.peek? key = none) : (map.use key).2 = map := by
  rw [use, missing]

theorem use_of_held (held : map.peek? key = some value) :
    (map.use key).2 = { map with entries := (key, value) :: map.others key } := by
  rw [use, held]

variable [LawfulBEq κ]

theorem mem_others : entry ∈ map.others key ↔ entry ∈ map.entries ∧ entry.1 ≠ key := by
  simp [others]

theorem mem_of_peek? (found : map.peek? key = some value) : (key, value) ∈ map.entries := by
  obtain ⟨⟨other, _⟩, held, rfl⟩ := Option.map_eq_some_iff.mp found
  have same : other = key := by simpa using List.find?_some held
  exact same ▸ List.mem_of_find?_eq_some held

/-- What a use finds is there, and the entries stay the same. -/
theorem mem_use (found : (map.use key).1 = some value) : (key, value) ∈ map.entries := by
  unfold use at found
  split at found
  · cases found
  · next held =>
      cases found
      exact mem_of_peek? held

theorem mem_of_mem_use (inside : entry ∈ (map.use key).2.entries) : entry ∈ map.entries := by
  unfold use at inside
  split at inside
  · exact inside
  · next held =>
      rcases List.mem_cons.mp inside with rfl | other
      · exact mem_of_peek? held
      · exact (mem_others.mp other).1

theorem mem_of_mem_put (inside : entry ∈ (map.put key value).entries) :
    entry = (key, value) ∨ entry ∈ map.entries := by
  rcases List.mem_cons.mp (List.mem_of_mem_take inside) with same | other
  · exact .inl same
  · exact .inr (mem_others.mp other).1

theorem find?_others {used other : κ} (differs : other ≠ used) :
    (map.others used).find? (·.1 == other) = map.entries.find? (·.1 == other) := by
  rw [others, List.find?_filter]
  congr 1
  funext entry
  by_cases found : entry.1 = other
  · simp [found, differs]
  · simp [found]

/-- A use only moves an entry to the front, so each key keeps its value. -/
theorem peek?_use (map : RecentMap κ ν) (used key : κ) :
    (map.use used).2.peek? key = map.peek? key := by
  unfold use
  split
  · rfl
  · next value held =>
      by_cases same : used = key
      · subst same
        simp [peek?, ← held]
      · simp [peek?, same, find?_others (Ne.symm same)]

theorem peek?_put_self (room : 0 < map.capacity) : (map.put key value).peek? key = some value := by
  obtain ⟨rest, full⟩ := Nat.exists_eq_add_of_lt room
  simp [peek?, put, full]

/-- What is put in changes the value of no other key, though another may be pushed out. -/
theorem peek?_put_of_ne {other : κ} {kept : ν} (differs : other ≠ key)
    (held : (map.put key value).peek? other = some kept) : map.peek? other = some kept := by
  obtain ⟨entry, found, rfl⟩ := Option.map_eq_some_iff.mp held
  have listed := (List.take_prefix _ _).find?_eq_some found
  rw [List.find?_cons_of_neg (by simpa using Ne.symm differs), find?_others differs] at listed
  exact congrArg (Option.map (·.2)) listed

/-- The keys of the entries, the last used one first. -/
def keys (map : RecentMap κ ν) : List κ := map.entries.map (·.1)

theorem peek?_isSome : (map.peek? key).isSome = true ↔ key ∈ map.keys := by
  simp [peek?, keys]

/-! ## The order of use -/

theorem takeWhile_filter {α : Type} {p q : α → Bool} (kept : ∀ key, p key = false → q key = true)
    (keys : List α) : (keys.filter q).takeWhile p = (keys.takeWhile p).filter q := by
  induction keys with
  | nil => rfl
  | cons key rest ih =>
      cases passes : p key with
      | false => simp [passes, kept key passes]
      | true =>
          cases stays : q key with
          | false => simp [passes, stays, ih]
          | true => simp [passes, stays, ih]

section Order

variable {α : Type} [DecidableEq α]

/-- The keys that were used, the last one first. -/
def lastUses (uses : List α) : List α :=
  uses.foldl (fun keys used => used :: keys.filter (· ≠ used)) []

/-- The keys that were used after a key was used for the last time. -/
def usedSince (uses : List α) (key : α) : Finset α := (uses.reverse.takeWhile (· ≠ key)).toFinset

variable {uses keys : List α} {key : α}

theorem lastUses_concat (uses : List α) (used : α) :
    lastUses (uses ++ [used]) = used :: (lastUses uses).filter (· ≠ used) := List.foldl_append

theorem mem_lastUses : key ∈ lastUses uses ↔ key ∈ uses := by
  induction uses using List.reverseRecOn with
  | nil => exact Iff.rfl
  | append_singleton uses used ih =>
      rw [lastUses_concat, List.mem_cons, List.mem_filter, ih, List.mem_append,
        List.mem_singleton, decide_eq_true_eq]
      tauto

theorem nodup_lastUses (uses : List α) : (lastUses uses).Nodup := by
  induction uses using List.reverseRecOn with
  | nil => exact List.nodup_nil
  | append_singleton uses used ih =>
      rw [lastUses_concat]
      exact List.nodup_cons.mpr ⟨by simp, ih.filter _⟩

/-- The keys ahead of one are those used since. -/
theorem toFinset_takeWhile_lastUses (uses : List α) (key : α) :
    ((lastUses uses).takeWhile (· ≠ key)).toFinset = usedSince uses key := by
  induction uses using List.reverseRecOn with
  | nil => rfl
  | append_singleton uses used ih =>
      rw [lastUses_concat, usedSince, List.reverse_concat]
      by_cases same : used = key
      · simp [same]
      · rw [List.takeWhile_cons_of_pos (by simpa using same),
          List.takeWhile_cons_of_pos (by simpa using same),
          takeWhile_filter fun other differs => ?_, List.toFinset_cons, List.toFinset_cons,
          List.toFinset_filter, ih, usedSince]
        · ext other
          simp only [Finset.mem_insert, Finset.mem_filter]
          by_cases again : other = used
          · simp [again]
          · simp [again]
        · have isKey : other = key := by simpa using differs
          simpa [isKey] using Ne.symm same

theorem mem_take_iff {room : Nat} :
    key ∈ keys.take room ↔ key ∈ keys ∧ (keys.takeWhile (· ≠ key)).length < room := by
  induction keys generalizing room with
  | nil => simp
  | cons first rest ih =>
      cases room with
      | zero => simp
      | succ room =>
          by_cases same : first = key
          · simp [same]
          · rw [List.take_succ_cons, List.mem_cons, ih, List.mem_cons,
              List.takeWhile_cons_of_pos (by simpa using same), List.length_cons,
              Nat.succ_lt_succ_iff, or_iff_right (Ne.symm same), or_iff_right (Ne.symm same)]

/-- A key is among the last ones exactly if not so many others were used since. -/
theorem mem_take_lastUses {room : Nat} :
    key ∈ (lastUses uses).take room ↔ key ∈ uses ∧ (usedSince uses key).card < room := by
  have once : ((lastUses uses).takeWhile (· ≠ key)).Nodup :=
    (nodup_lastUses uses).sublist (List.takeWhile_sublist _)
  rw [mem_take_iff, mem_lastUses, ← toFinset_takeWhile_lastUses, List.toFinset_card_of_nodup once]

/-- Keys of another kind that stand for the same are used in the same order. -/
theorem usedSince_map {β : Type} [DecidableEq β] {f : α → β} (injective : Function.Injective f)
    (uses : List α) (key : α) : usedSince (uses.map f) (f key) = (usedSince uses key).image f := by
  have passes : (fun other => decide (other ≠ f key)) ∘ f = fun other => decide (other ≠ key) := by
    funext other
    simp [injective.eq_iff]
  rw [usedSince, ← List.map_reverse, List.takeWhile_map, passes, usedSince]
  ext other
  simp only [List.mem_toFinset, List.mem_map, Finset.mem_image]

/-- To drop one key and fill the room that is left gives the same whether what did not fit was there
or not. -/
theorem take_filter_take (once : keys.Nodup) (key : α) (room : Nat) :
    ((keys.take (room + 1)).filter (· ≠ key)).take room = (keys.filter (· ≠ key)).take room := by
  induction keys generalizing room with
  | nil => rfl
  | cons first rest ih =>
      obtain ⟨new, later⟩ := List.nodup_cons.mp once
      rw [List.take_succ_cons]
      by_cases same : first = key
      · have stays : ∀ other ∈ rest, decide (other ≠ key) = true := by
          rintro other inside
          simpa using fun isKey : other = key => new (same ▸ isKey ▸ inside)
        rw [List.filter_cons_of_neg (by simpa using same),
          List.filter_cons_of_neg (by simpa using same), List.filter_eq_self.mpr stays,
          List.filter_eq_self.mpr fun other inside => stays other (List.mem_of_mem_take inside),
          List.take_take, Nat.min_self]
      · rw [List.filter_cons_of_pos (by simpa using same),
          List.filter_cons_of_pos (by simpa using same)]
        cases room with
        | zero => rfl
        | succ room => rw [List.take_succ_cons, List.take_succ_cons, ih later]

theorem take_lastUses_concat (uses : List α) (key : α) (room : Nat) :
    (key :: ((lastUses uses).take room).filter (· ≠ key)).take room =
      (lastUses (uses ++ [key])).take room := by
  rw [lastUses_concat]
  cases room with
  | zero => rfl
  | succ room =>
      rw [List.take_succ_cons, List.take_succ_cons, take_filter_take (nodup_lastUses uses)]

end Order

section Held

variable [DecidableEq κ] {uses : List κ}

/-- The map holds the keys that were used last, as many as it has room for. -/
def HoldsLast (map : RecentMap κ ν) (uses : List κ) : Prop :=
  map.keys = (lastUses uses).take map.capacity

theorem keys_others (map : RecentMap κ ν) (key : κ) :
    (map.others key).map (·.1) = map.keys.filter (· ≠ key) := by
  rw [others, keys, List.filter_map]
  congr 2
  funext entry
  by_cases same : entry.1 = key
  · simp [same]
  · simp [same]

omit [BEq κ] [LawfulBEq κ] in
theorem holdsLast_empty (capacity : Nat) : (empty capacity : RecentMap κ ν).HoldsLast [] :=
  List.take_nil.symm

theorem HoldsLast.put (holds : map.HoldsLast uses) :
    (map.put key value).HoldsLast (uses ++ [key]) := by
  change ((_ :: map.others key).take map.capacity).map (·.1) = _
  rw [List.map_take, List.map_cons, keys_others, holds]
  exact take_lastUses_concat uses key map.capacity

theorem HoldsLast.use (holds : map.HoldsLast uses) (held : map.peek? key = some value) :
    (map.use key).2.HoldsLast (uses ++ [key]) := by
  have inside : key ∈ (lastUses uses).take map.capacity :=
    holds ▸ peek?_isSome.mp (Option.isSome_of_eq_some held)
  have fits : (key :: ((lastUses uses).take map.capacity).filter (· ≠ key)).length ≤
      map.capacity := by
    have fewer : (((lastUses uses).take map.capacity).filter (· ≠ key)).length <
        ((lastUses uses).take map.capacity).length :=
      List.length_filter_lt_length_iff_exists.mpr ⟨key, inside, by simp⟩
    exact Nat.lt_of_lt_of_le fewer (List.length_take_le _ _)
  rw [use_of_held held]
  change key :: (map.others key).map (·.1) = _
  rw [keys_others, holds, ← take_lastUses_concat, List.take_of_length_le fits]

/-- A key is held exactly if it was used and fewer others than there is room for were used since. -/
theorem HoldsLast.held_iff (holds : map.HoldsLast uses) :
    (map.peek? key).isSome = true ↔ key ∈ uses ∧ (usedSince uses key).card < map.capacity := by
  rw [peek?_isSome, holds, mem_take_lastUses]

omit [BEq κ] [LawfulBEq κ] in
theorem HoldsLast.size_le (holds : map.HoldsLast uses) : map.size ≤ map.capacity := by
  have length := congrArg List.length holds
  rw [keys, List.length_map] at length
  rw [size, length]
  exact List.length_take_le _ _

end Held

end SeriesIndex.RecentMap
