import Mathlib.Data.List.Nodup
import SeriesIndex.Row

/-!
# Canonical labels

The canonical labels of a row have each name once, and with a metric none of their values is empty.
So a name has one value in them, and the empty one stands for no label.
-/

namespace SeriesIndex

namespace Label

/-- The value that labels have for a name; it is empty if they do not have the name. -/
def valueOf (labels : List Label) (name : String) : String :=
  ((labels.find? (·.name == name)).map (·.value)).getD ""

/-- Each name occurs once, with a value. -/
structure Canonical (labels : List Label) : Prop where
  once : (labels.map (·.name)).Nodup
  filled : ∀ label ∈ labels, label.value ≠ ""

theorem valueOf_of_missing {labels : List Label} {name : String}
    (missing : ∀ label ∈ labels, label.name ≠ name) : valueOf labels name = "" := by
  rw [valueOf, List.find?_eq_none.mpr fun label inside => by simpa using missing label inside]
  rfl

theorem Canonical.valueOf_mem {labels : List Label} (canonical : Canonical labels) {label : Label}
    (inside : label ∈ labels) : valueOf labels label.name = label.value := by
  have present : (labels.find? (·.name == label.name)).isSome :=
    List.find?_isSome.mpr ⟨label, inside, by simp⟩
  obtain ⟨other, found⟩ := Option.isSome_iff_exists.mp present
  have names : other.name = label.name := by simpa using List.find?_some found
  have same : other = label :=
    List.inj_on_of_nodup_map canonical.once (List.mem_of_find?_eq_some found) inside names
  rw [valueOf, found, same]
  rfl

/-- A label is there exactly if its value is the one of its name. -/
theorem Canonical.valueOf_eq_iff {labels : List Label} (canonical : Canonical labels)
    {name text : String} (filled : text ≠ "") :
    valueOf labels name = text ↔ ⟨name, text⟩ ∈ labels := by
  constructor
  · rintro rfl
    by_cases present : ∃ label ∈ labels, label.name = name
    · obtain ⟨label, inside, rfl⟩ := present
      rw [canonical.valueOf_mem inside]
      exact inside
    · push Not at present
      exact absurd (valueOf_of_missing present) filled
  · exact fun inside => canonical.valueOf_mem inside

end Label

namespace Row

/-! ## Canonical labels -/

theorem lastOfEach_sublist (labels : List Label) : (lastOfEach labels).Sublist labels := by
  induction labels with
  | nil => exact .slnil
  | cons label rest ih =>
      rw [lastOfEach]
      split
      · exact ih.cons label
      · exact ih.cons_cons label

theorem lastOfEach_once (labels : List Label) : ((lastOfEach labels).map (·.name)).Nodup := by
  induction labels with
  | nil => exact List.nodup_nil
  | cons label rest ih =>
      rw [lastOfEach]
      split
      · exact ih
      · next replaced =>
          refine List.nodup_cons.mpr ⟨fun again => replaced ?_, ih⟩
          obtain ⟨other, inside, same⟩ := List.mem_map.mp again
          exact List.any_eq_true.mpr
            ⟨other, (lastOfEach_sublist rest).subset inside, by simpa using same⟩

/-- The labels of the row that are taken over besides the metric have values and other names. -/
theorem names_of_mem {row : Row} {label : Label}
    (inside : label ∈ lastOfEach (row.labels.filter names)) :
    label.value ≠ "" ∧ label.name ≠ Key.metricName := by
  have named := (List.mem_filter.mp ((lastOfEach_sublist _).subset inside)).2
  simpa [names] using named

theorem canonicalLabels_canonical {row : Row} (measured : row.metric ≠ "") :
    Label.Canonical row.canonicalLabels := by
  have sorted := List.mergeSort_perm (lastOfEach (row.labels.filter names)) Label.notAfter
  constructor
  · refine List.nodup_cons.mpr ⟨?_, ?_⟩
    · intro again
      obtain ⟨label, inside, same⟩ := List.mem_map.mp again
      exact (names_of_mem (sorted.mem_iff.mp inside)).2 same
    · exact (sorted.map _).nodup_iff.mpr (lastOfEach_once _)
  · intro label inside
    rcases List.mem_cons.mp inside with rfl | other
    · exact measured
    · exact (names_of_mem (sorted.mem_iff.mp other)).1

end Row

end SeriesIndex
