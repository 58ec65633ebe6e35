import SeriesIndex.Proofs.Key

/-!
# Windows of the key space

A scan looks at the items between two keys, or at those with a given start. Between two keys of a
value that end in times lie the postings of that value, and of no other, with a bucket from the
first time on and before the last; under the key of a label and the escaped start of a value lie the
postings of that label whose value has that start. The bytes of tenants, labels and values do not
matter, be they separators, escapes or the start of one another.
-/

namespace SeriesIndex.Key

open Bytes

variable {tenant owner : Tenant} {label other content text : Bytes} {bucket first last : UInt64}
  {ids : List UInt64}

/-- The key of a value and a time, from which the postings of the value are looked for or up to
which. -/
def windowKey (tenant : Tenant) (label content : Bytes) (time : UInt64) : Bytes :=
  namePrefix tenant label ++ escape content ++ [valueEnd] ++ ofWord64 time

theorem windowKey_eq (tenant : Tenant) (label content : Bytes) (time : UInt64) :
    windowKey tenant label content time =
      namePrefix tenant label ++ value content ++ ofWord64 time := by
  simp [windowKey, value]

/-- A posting starts with its own value only. -/
theorem value_prefix_posting_iff :
    namePrefix owner other ++ value text <+: posting tenant label content bucket ids ↔
      tenant = owner ∧ label = other ∧ content = text := by
  constructor
  · rintro ⟨more, whole⟩
    simp only [posting, List.append_assoc] at whole
    obtain ⟨owners, labels, rests⟩ := namePrefix_append_inj whole
    exact ⟨owners.symm, labels.symm, (value_append_inj rests).1.symm⟩
  · rintro ⟨rfl, rfl, rfl⟩
    rw [posting, List.append_assoc _ (ofWord64 bucket)]
    exact List.prefix_append _ _

/-- The postings between two keys of a value are those of the value with a bucket between the two
times, the last one excluded. -/
theorem between_iff (some : ids ≠ []) :
    (windowKey owner other text first ≤ posting tenant label content bucket ids ∧
        posting tenant label content bucket ids ≤ windowKey owner other text last) ↔
      tenant = owner ∧ label = other ∧ content = text ∧ first ≤ bucket ∧ bucket < last := by
  have filled := flatMap_ofWord64_ne_nil some
  have parts : posting tenant label content bucket ids =
      namePrefix tenant label ++ value content ++ (ofWord64 bucket ++ ids.flatMap ofWord64) := by
    rw [posting, List.append_assoc _ (ofWord64 bucket)]
  rw [windowKey_eq, windowKey_eq]
  constructor
  · rintro ⟨above, below⟩
    obtain ⟨rfl, rfl, rfl⟩ := value_prefix_posting_iff.mp (prefix_of_between above below)
    rw [parts, ← List.not_lt] at above below
    rw [below_window_iff] at above
    rw [above_window_iff _ filled] at below
    exact ⟨rfl, rfl, rfl, UInt64.not_lt.mp above, UInt64.not_le.mp below⟩
  · rintro ⟨rfl, rfl, rfl, reached, before⟩
    rw [parts, ← List.not_lt, ← List.not_lt, below_window_iff, above_window_iff _ filled]
    exact ⟨UInt64.not_lt.mpr reached, UInt64.not_le.mpr before⟩

/-- The postings under the key of a label and the escaped start of a value are those of the label
whose value has that start. -/
theorem start_prefix_posting_iff (start : Bytes) :
    namePrefix owner other ++ escape start <+: posting tenant label content bucket ids ↔
      tenant = owner ∧ label = other ∧ start <+: content := by
  rw [posting_eq]
  constructor
  · rintro ⟨more, whole⟩
    rw [List.append_assoc] at whole
    obtain ⟨owners, labels, rests⟩ := namePrefix_append_inj whole
    exact ⟨owners.symm, labels.symm, (escape_prefix_iff closes_valueEnd _ _ _).mp ⟨more, rests⟩⟩
  · rintro ⟨rfl, rfl, begins⟩
    refine (List.prefix_append_right_inj _).mpr ?_
    exact (escape_prefix_iff closes_valueEnd _ _ _).mpr begins

/-- Of all postings, whatever their tenants, labels and values, exactly the intended ones lie
between the two keys that a scan of one value goes by, and exactly the intended ones start with the
key of a scan of all values with a given start. -/
theorem windows_select (tenant : Tenant) (label content : Bytes) (bucket : UInt64)
    (some : ids ≠ []) (owner : Tenant) (other : Bytes) :
    (∀ text first last,
      (windowKey owner other text first ≤ posting tenant label content bucket ids ∧
          posting tenant label content bucket ids ≤ windowKey owner other text last) ↔
        tenant = owner ∧ label = other ∧ content = text ∧ first ≤ bucket ∧ bucket < last) ∧
      ∀ start, startsWith (posting tenant label content bucket ids)
          (namePrefix owner other ++ escape start) = true ↔
        tenant = owner ∧ label = other ∧ start <+: content :=
  ⟨fun _ _ _ => between_iff some,
    fun start => startsWith_iff.trans (start_prefix_posting_iff start)⟩

/-- A value of the three bytes that are escaped: its window has the posting in the first bucket and
not the one in the last, that of its first byte has neither, and a scan of the values that begin
with its first two bytes meets it. -/
theorem windows_select_sample :
    ([7] : List UInt64) ≠ [] ∧
      (windowKey ⟨1, 2⟩ [0x61] [0, 1, 2] 5 ≤ posting ⟨1, 2⟩ [0x61] [0, 1, 2] 5 [7] ∧
        posting ⟨1, 2⟩ [0x61] [0, 1, 2] 5 [7] ≤ windowKey ⟨1, 2⟩ [0x61] [0, 1, 2] 9) ∧
      ¬ (windowKey ⟨1, 2⟩ [0x61] [0, 1, 2] 5 ≤ posting ⟨1, 2⟩ [0x61] [0, 1, 2] 9 [7] ∧
        posting ⟨1, 2⟩ [0x61] [0, 1, 2] 9 [7] ≤ windowKey ⟨1, 2⟩ [0x61] [0, 1, 2] 9) ∧
      ¬ (windowKey ⟨1, 2⟩ [0x61] [0] 5 ≤ posting ⟨1, 2⟩ [0x61] [0, 1, 2] 5 [7] ∧
        posting ⟨1, 2⟩ [0x61] [0, 1, 2] 5 [7] ≤ windowKey ⟨1, 2⟩ [0x61] [0] 9) ∧
      startsWith (posting ⟨1, 2⟩ [0x61] [0, 1, 2] 5 [7])
        (namePrefix ⟨1, 2⟩ [0x61] ++ escape [0, 1]) = true := by
  have some : ([7] : List UInt64) ≠ [] := List.cons_ne_nil _ _
  obtain ⟨first, starts⟩ :=
    windows_select ⟨1, 2⟩ [0x61] [0, 1, 2] 5 some ⟨1, 2⟩ [0x61]
  obtain ⟨last, -⟩ := windows_select ⟨1, 2⟩ [0x61] [0, 1, 2] 9 some ⟨1, 2⟩ [0x61]
  refine ⟨some, ?_, ?_, ?_, ?_⟩
  · exact (first _ 5 9).mpr ⟨rfl, rfl, rfl, by decide, by decide⟩
  · intro between
    obtain ⟨-, -, -, -, before⟩ := (last _ 5 9).mp between
    exact absurd before (by decide)
  · intro between
    obtain ⟨-, -, same, -⟩ := (first _ 5 9).mp between
    exact absurd same (by decide)
  · exact (starts [0, 1]).mpr ⟨rfl, rfl, by decide⟩

end SeriesIndex.Key
