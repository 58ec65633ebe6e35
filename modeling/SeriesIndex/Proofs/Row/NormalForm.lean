import SeriesIndex.Proofs.Bytes
import SeriesIndex.Proofs.Row

/-!
# The normal form of rows

The canonical labels of a row tell its metric and the values that it gives to names, and nothing
else: neither the order of its labels nor those that do not count. The names are in strict order
behind the metric, so rows that tell the same have the same canonical labels.
-/

namespace SeriesIndex

namespace Label

/-- The names ascend byte by byte. -/
def Ascending (labels : List Label) : Prop :=
  labels.Pairwise fun left right => Bytes.ofText left.name < Bytes.ofText right.name

theorem notAfter_iff {left right : Label} :
    left.notAfter right = true ↔ Bytes.ofText left.name ≤ Bytes.ofText right.name := by
  simp [notAfter]

theorem notAfter_sorted (labels : List Label) :
    (labels.mergeSort notAfter).Pairwise (notAfter · · = true) := by
  apply List.pairwise_mergeSort
  · intro first second third left right
    exact notAfter_iff.mpr (List.le_trans (notAfter_iff.mp left) (notAfter_iff.mp right))
  · intro first second
    rw [Bool.or_eq_true, notAfter_iff, notAfter_iff]
    exact List.le_total _ _

/-- Names that are not the same ascend as soon as they are in order. -/
theorem ascending_mergeSort {labels : List Label} (once : (labels.map (·.name)).Nodup) :
    Ascending (labels.mergeSort notAfter) := by
  have apart : (labels.mergeSort notAfter).Pairwise fun left right => left.name ≠ right.name :=
    List.pairwise_map.mp (((List.mergeSort_perm labels notAfter).map _).nodup_iff.mpr once)
  refine ((notAfter_sorted labels).and apart).imp fun ⟨ordered, different⟩ => ?_
  rcases List.le_iff_lt_or_eq.mp (notAfter_iff.mp ordered) with less | same
  · exact less
  · exact absurd (Bytes.ofText_injective same) different

theorem Ascending.nodup {labels : List Label} (ascending : Ascending labels) : labels.Nodup := by
  apply ascending.imp
  rintro label _ less rfl
  exact List.lt_irrefl _ less

/-- Labels in strict order are the same list if they have the same members. -/
theorem Ascending.ext {left right : List Label} (leftAscending : Ascending left)
    (rightAscending : Ascending right) (same : ∀ label, label ∈ left ↔ label ∈ right) :
    left = right := by
  have perm := (List.perm_ext_iff_of_nodup leftAscending.nodup rightAscending.nodup).mpr same
  refine perm.eq_of_pairwise ?_ leftAscending rightAscending
  exact fun _ _ _ _ less greater => absurd greater (List.lt_asymm less)

end Label

namespace Row

/-- The row gives the value to the name: it has a label with the two, and behind it none with the
name has a value. The name of the metric is given no value, and no name the empty one. -/
structure Gives (row : Row) (name value : String) : Prop where
  named : name ≠ Key.metricName
  filled : value ≠ ""
  last : ∃ before after, row.labels = before ++ ⟨name, value⟩ :: after ∧
    ∀ label ∈ after, label.name = name → label.value = ""

theorem names_iff {label : Label} :
    names label = true ↔ label.value ≠ "" ∧ label.name ≠ Key.metricName := by
  simp [names]

/-- The labels that stay are those behind which their name does not occur again. -/
theorem mem_lastOfEach {labels : List Label} {label : Label} :
    label ∈ lastOfEach labels ↔ ∃ before after, labels = before ++ label :: after ∧
      ∀ later ∈ after, later.name ≠ label.name := by
  induction labels with
  | nil => simp [lastOfEach]
  | cons first rest ih =>
      have behind : label ∈ lastOfEach rest → ∃ before after, first :: rest =
          before ++ label :: after ∧ ∀ later ∈ after, later.name ≠ label.name := by
        intro inside
        obtain ⟨before, after, rfl, alone⟩ := ih.mp inside
        exact ⟨first :: before, after, rfl, alone⟩
      rw [lastOfEach]
      constructor
      · intro inside
        split at inside
        · exact behind inside
        · next alone =>
            rcases List.mem_cons.mp inside with rfl | later
            · exact ⟨[], rest, rfl, by simpa using alone⟩
            · exact behind later
      · rintro ⟨before, after, shape, alone⟩
        cases before with
        | nil =>
            cases shape
            rw [if_neg (by simpa using alone)]
            exact List.mem_cons_self
        | cons other before =>
            cases shape
            have later := ih.mpr ⟨before, after, rfl, alone⟩
            split
            · exact later
            · exact .tail _ later

/-- Besides the metric those labels are taken over that give their value to their name. -/
theorem mem_named_iff {row : Row} {label : Label} :
    label ∈ lastOfEach (row.labels.filter names) ↔ row.Gives label.name label.value := by
  rw [mem_lastOfEach]
  constructor
  · rintro ⟨before, after, shape, alone⟩
    obtain ⟨front, back, whole, rfl, later⟩ := List.filter_eq_append_iff.mp shape
    obtain ⟨middle, rest, rfl, skipped, counts, rfl⟩ := List.filter_eq_cons_iff.mp later
    obtain ⟨filled, named⟩ := names_iff.mp counts
    refine ⟨named, filled, front ++ middle, rest, by simp [whole], fun other inside same => ?_⟩
    by_contra present
    have kept : names other = true := names_iff.mpr ⟨present, same ▸ named⟩
    exact alone other (List.mem_filter.mpr ⟨inside, kept⟩) same
  · rintro ⟨named, filled, before, after, shape, empty⟩
    refine ⟨before.filter names, after.filter names, ?_, fun other inside same => ?_⟩
    · rw [shape, List.filter_append, List.filter_cons_of_pos (names_iff.mpr ⟨filled, named⟩)]
    · obtain ⟨listed, counts⟩ := List.mem_filter.mp inside
      exact (names_iff.mp counts).1 (empty other listed same)

/-- The canonical labels behind the metric. -/
def namedLabels (row : Row) : List Label :=
  (lastOfEach (row.labels.filter names)).mergeSort Label.notAfter

theorem canonicalLabels_eq (row : Row) :
    row.canonicalLabels = ⟨Key.metricName, row.metric⟩ :: row.namedLabels := rfl

theorem namedLabels_ascending (row : Row) : Label.Ascending row.namedLabels :=
  Label.ascending_mergeSort (lastOfEach_once _)

theorem mem_namedLabels {row : Row} {label : Label} :
    label ∈ row.namedLabels ↔ row.Gives label.name label.value :=
  (List.mergeSort_perm _ _).mem_iff.trans mem_named_iff

theorem namedLabels_eq_iff {row other : Row} :
    row.namedLabels = other.namedLabels ↔
      ∀ name value, row.Gives name value ↔ other.Gives name value := by
  constructor
  · intro same name value
    have here := @mem_namedLabels row ⟨name, value⟩
    rw [same] at here
    exact here.symm.trans mem_namedLabels
  · intro same
    refine row.namedLabels_ascending.ext other.namedLabels_ascending fun label => ?_
    rw [mem_namedLabels, mem_namedLabels, same]

/-- The canonical labels are the metric under its name and behind it, in strict order of the names,
one label for each name that the row gives a value to. So they are the same for two rows exactly if
the metrics are and if the rows give the same values to the same names. -/
theorem canonicalLabels_normal (row : Row) :
    (∃ rest, row.canonicalLabels = ⟨Key.metricName, row.metric⟩ :: rest ∧ Label.Ascending rest ∧
      ∀ label, label ∈ rest ↔ row.Gives label.name label.value) ∧
    ∀ other : Row, row.canonicalLabels = other.canonicalLabels ↔ row.metric = other.metric ∧
      ∀ name value, row.Gives name value ↔ other.Gives name value := by
  constructor
  · exact ⟨row.namedLabels, row.canonicalLabels_eq, row.namedLabels_ascending,
      fun _ => mem_namedLabels⟩
  · intro other
    rw [canonicalLabels_eq, canonicalLabels_eq, List.cons.injEq, Label.mk.injEq,
      namedLabels_eq_iff, eq_self, true_and]

/-- The order of labels does not count, nor do labels without a value or for the metric's name. -/
example : canonicalLabels ⟨"m", [⟨"b", "2"⟩, ⟨"a", "1"⟩, ⟨"a", ""⟩], 5, "1"⟩ =
    canonicalLabels ⟨"m", [⟨"__name__", "n"⟩, ⟨"a", "0"⟩, ⟨"a", "1"⟩, ⟨"b", "2"⟩], 6, ""⟩ := by
  cbv

end Row

end SeriesIndex
