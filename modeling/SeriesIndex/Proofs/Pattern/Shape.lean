import SeriesIndex.Proofs.Pattern.Literals

/-!
# Whole values

An expression spans a value if it leads from the start of the value to its end. That is what the
expression asks for when it is put between the two, and then the shape found for it holds: the value
is one of the few, or has the common start.
-/

namespace SeriesIndex.Pattern

/-- The expression leads from the start of the value to its end. -/
def Expr.Spans (expr : Expr) (value : Bytes) : Prop :=
  ∃ last ∈ expr.ends [Place.start value], last.after = []

/-- The expression between the start and the end of a text. -/
def Expr.whole (expr : Expr) : Expr := .ofConcat [.look .textStart, expr, .look .textEnd]

namespace Place

theorem before_ne_nil_of_mem_onward {index : Nat} {before text : Bytes} {place : Place}
    (inside : place ∈ onward index before text) (further : before ≠ []) : place.before ≠ [] := by
  induction text generalizing index before with
  | nil =>
      rw [onward, List.mem_singleton] at inside
      exact inside ▸ further
  | cons byte rest ih =>
      rcases List.mem_cons.mp inside with rfl | later
      · exact further
      · exact ih later (List.cons_ne_nil byte before)

/-- Of all places of a text only the first is its start. -/
theorem filter_textStart (text : Bytes) :
    (all text).filter (·.satisfies .textStart) = [start text] := by
  cases text with
  | nil => rfl
  | cons byte rest =>
      rw [all, onward, List.filter_cons_of_pos rfl, List.filter_eq_nil_iff.mpr]
      · rfl
      · intro place inside
        simpa [satisfies] using
          before_ne_nil_of_mem_onward inside (List.cons_ne_nil byte [])

end Place

namespace Expr

theorem ends_whole (expr : Expr) (value : Bytes) :
    expr.whole.ends (Place.all value) =
      (expr.ends [Place.start value]).filter (·.satisfies .textEnd) := by
  rw [whole, ends_ofConcat]
  show (expr.ends ((Place.all value).filter (·.satisfies .textStart))).filter _ = _
  rw [Place.filter_textStart]

theorem occursIn_whole {expr : Expr} {value : Bytes} :
    expr.whole.occursIn value = true ↔ expr.Spans value := by
  rw [occursIn, ends_whole, Spans]
  simp only [Bool.not_eq_true', List.isEmpty_eq_false_iff_exists_mem, List.mem_filter]
  exact exists_congr fun last => and_congr_right fun _ => List.isEmpty_iff

/-- What is taken on the way from the start of a value to its end is the value. -/
theorem Spans.leads {expr : Expr} {value : Bytes} {takes : Bytes → Prop}
    (leads : Place.Leads expr.ends takes) (spans : expr.Spans value) : takes value := by
  obtain ⟨last, reached, done⟩ := spans
  obtain ⟨place, inside, taken, passes, possible⟩ := leads _ last reached
  rw [List.mem_singleton.mp inside, Place.Passes, done, List.append_nil] at passes
  have same : value = taken := passes
  exact same ▸ possible

theorem Spans.mem_fewValues {expr : Expr} {value : Bytes} {values : List Bytes}
    (spans : expr.Spans value) (few : expr.fewValues? = some values) : value ∈ values := by
  rw [fewValues?] at few
  split at few
  · next starts known =>
      split at few
      · next whole =>
          cases few
          obtain ⟨start, inside, fits⟩ := spans.leads expr.leads_starts starts known
          have closed : start.exact = true :=
            List.all_eq_true.mp (Bool.and_eq_true_iff.mp whole).1 start inside
          rw [Start.Fits, if_pos closed] at fits
          exact List.mem_map.mpr ⟨start, inside, fits.symm⟩
      · cases few
  · cases few

theorem Spans.leading {expr : Expr} {value literal : Bytes} (spans : expr.Spans value)
    (leading : expr.leading? = some literal) : literal <+: value := by
  unfold leading? at leading
  split at leading
  · next rest =>
      cases leading
      obtain ⟨last, reached, -⟩ := spans
      obtain ⟨middle, between, -⟩ := Expr.leads_all rest _ last reached
      obtain ⟨place, inside, taken⟩ := List.mem_filterMap.mp between
      rw [List.mem_singleton.mp inside] at taken
      exact ⟨middle.after, (Place.take?_passes taken).symm⟩
  · cases leading

/-- A value that the expression spans is one of those of a finite shape. -/
theorem Spans.of_finite {expr : Expr} {value : Bytes} {values : List Bytes}
    (spans : expr.Spans value) (shape : expr.shape = .finite values) : value ∈ values := by
  rw [Expr.shape] at shape
  split at shape
  · next few =>
      cases shape
      exact spans.mem_fewValues few
  · cases shape
  · cases shape

/-- A value that the expression spans has the start of its shape. -/
theorem Spans.of_startsWith {expr : Expr} {value literal : Bytes} (spans : expr.Spans value)
    (shape : expr.shape = .startsWith literal) : literal <+: value := by
  rw [Expr.shape] at shape
  split at shape
  · cases shape
  · next leading =>
      cases shape
      exact spans.leading leading
  · cases shape

end Expr

end SeriesIndex.Pattern
