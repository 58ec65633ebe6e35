/-!
# Ascending lists

A finite set of an ordered type as the list of its members in strictly ascending order. Each
operation says which members its result has, and that the result is ascending again.
-/

namespace SeriesIndex.Ascending

variable {α : Type} [LT α] [DecidableLT α] [DecidableEq α]

/-- The list without a member that equals the next one. -/
def dedup (items : List α) : List α :=
  items.foldr (fun item rest => if rest.head? = some item then rest else item :: rest) []

/-- The members of any list, in ascending order. -/
def ofList (items : List α) : List α :=
  dedup (items.mergeSort fun left right => !decide (right < left))

/-- Puts an item in its place unless it is there. -/
def insert (item : α) (items : List α) : List α :=
  let rest := items.dropWhile (· < item)
  if rest.head? = some item then items else items.takeWhile (· < item) ++ item :: rest

omit [LT α] [DecidableLT α] in
theorem dedup_cons (item : α) (items : List α) :
    dedup (item :: items) =
      if (dedup items).head? = some item then dedup items else item :: dedup items := rfl

omit [LT α] [DecidableLT α] in
theorem mem_dedup {item : α} {items : List α} : item ∈ dedup items ↔ item ∈ items := by
  induction items with
  | nil => exact Iff.rfl
  | cons first rest ih =>
      rw [dedup_cons]
      split
      · next same =>
          have inside : first ∈ dedup rest := List.mem_of_mem_head? same
          constructor
          · exact fun found => List.mem_cons_of_mem first (ih.mp found)
          · intro found
            cases List.mem_cons.mp found with
            | inl equal => exact equal ▸ inside
            | inr later => exact ih.mpr later
      · rw [List.mem_cons, List.mem_cons, ih]

theorem mem_ofList {item : α} {items : List α} : item ∈ ofList items ↔ item ∈ items :=
  mem_dedup.trans (List.mem_mergeSort)

section Order

variable [Std.Trichotomous (α := α) (· < ·)] [Trans (α := α) (· < ·) (· < ·) (· < ·)]

omit [DecidableLT α] [DecidableEq α] [Trans (α := α) (· < ·) (· < ·) (· < ·)] in
theorem eq_of_not_less {left right : α} (forward : ¬ left < right) (backward : ¬ right < left) :
    left = right := Std.Trichotomous.trichotomous left right forward backward

omit [DecidableLT α] in
theorem dedup_ascending {items : List α}
    (sorted : items.Pairwise fun left right => ¬ right < left) :
    (dedup items).Pairwise (· < ·) := by
  induction items with
  | nil => exact .nil
  | cons first rest ih =>
      have ⟨above, tail⟩ := List.pairwise_cons.mp sorted
      rw [dedup_cons]
      split
      · exact ih tail
      · next different =>
          refine List.pairwise_cons.mpr ⟨fun other found => ?_, ih tail⟩
          have atLeast : ∀ item ∈ dedup rest, ¬ item < first := fun item inside =>
            above item (mem_dedup.mp inside)
          cases shape : dedup rest with
          | nil => rw [shape] at found; exact absurd found List.not_mem_nil
          | cons next later =>
              have inside : next ∈ dedup rest := shape ▸ List.mem_cons_self
              have firstLess : first < next := Classical.byContradiction fun notLess =>
                different (by rw [shape, eq_of_not_less notLess (atLeast next inside)]; rfl)
              have chain := ih tail
              rw [shape] at chain found
              cases List.mem_cons.mp found with
              | inl same => exact same ▸ firstLess
              | inr inLater =>
                  exact Trans.trans firstLess ((List.pairwise_cons.mp chain).1 other inLater)

theorem ofList_ascending [Std.Asymm (α := α) (· < ·)] (items : List α) :
    (ofList items).Pairwise (· < ·) := by
  refine dedup_ascending ?_
  have sorted := @List.pairwise_mergeSort α (fun left right : α => !decide (right < left))
    (fun a b c ab bc => by
      simp only [Bool.not_eq_true', decide_eq_false_iff_not] at *
      intro less
      by_cases same : b = c
      · exact ab (same ▸ less)
      · by_cases below : b < c
        · exact ab (Trans.trans below less)
        · exact same (eq_of_not_less below bc))
    (fun a b => by
      by_cases less : b < a
      · simp [Std.Asymm.asymm _ _ less]
      · simp [less])
    items
  exact sorted.imp fun h => by simpa using h

theorem insert_ascending {item : α} {items : List α} (ascending : items.Pairwise (· < ·)) :
    (insert item items).Pairwise (· < ·) := by
  unfold insert
  dsimp only
  split
  · exact ascending
  · next different =>
      have whole := List.takeWhile_append_dropWhile (p := fun other => decide (other < item))
        (l := items)
      rw [← whole] at ascending
      have ⟨front, back, across⟩ := List.pairwise_append.mp ascending
      have below : ∀ other ∈ items.takeWhile (· < item), other < item := fun other found => by
        simpa using List.all_eq_true.mp List.all_takeWhile other found
      refine List.pairwise_append.mpr ⟨front, List.pairwise_cons.mpr ⟨?_, back⟩, ?_⟩
      · intro other found
        cases shape : items.dropWhile (· < item) with
        | nil => rw [shape] at found; exact absurd found List.not_mem_nil
        | cons next later =>
            rw [shape] at found back different
            have notLess : ¬ next < item := by
              have := List.head?_dropWhile_not (fun other => decide (other < item)) items
              rw [shape] at this
              simpa using this
            have less : item < next := Classical.byContradiction fun notAbove =>
              different (by rw [eq_of_not_less notLess notAbove]; rfl)
            cases List.mem_cons.mp found with
            | inl same => exact same ▸ less
            | inr inLater =>
                exact Trans.trans less ((List.pairwise_cons.mp back).1 other inLater)
      · intro other found later inRest
        cases List.mem_cons.mp inRest with
        | inl same => exact same ▸ below other found
        | inr inside => exact across other found later inside

end Order

theorem mem_insert {item other : α} {items : List α} :
    other ∈ insert item items ↔ other = item ∨ other ∈ items := by
  unfold insert
  dsimp only
  split
  · next same =>
      have inside : item ∈ items :=
        (List.dropWhile_sublist _).subset (List.mem_of_mem_head? same)
      exact ⟨.inr, fun found => found.elim (· ▸ inside) id⟩
  · conv => rhs; rw [← List.takeWhile_append_dropWhile (p := fun other => decide (other < item))
      (l := items)]
    simp only [List.mem_append, List.mem_cons]
    exact ⟨fun h => h.elim (.inr ∘ .inl) (·.elim .inl (.inr ∘ .inr)),
      fun h => h.elim (.inr ∘ .inl) (·.elim .inl (.inr ∘ .inr))⟩

end SeriesIndex.Ascending
