import SeriesIndex.Proofs.Line.Grammar

/-!
# What becomes of each line

A line of a text stands for a row, or it is a remark, or it cannot be read. Which of them it is does
not depend on the lines around it.
-/

namespace SeriesIndex.Line

section Lines

variable {line : List Char} {default : UInt64} {made : Row}

/-- A line is a remark if its first character that is no blank is a number sign, or if it has no
such character. -/
def isRemark (line : List Char) : Bool := (skipBlanks (chomp line)).head?.all (· == '#')

theorem parse_eq_none_iff : parse line default = .ok none ↔ isRemark line = true := by
  have read (text : List Char) : (row text default).map some ≠ .ok none := by
    cases row text default with
    | error error => nofun
    | ok made => nofun
  rw [parse, isRemark]
  split
  · next blank => simp [blank]
  · next sign => simp [sign]
  · next filled other =>
      refine iff_of_false (read _) fun remark => ?_
      cases start : skipBlanks (chomp line) with
      | nil => exact filled start
      | cons char rest =>
          rw [start] at remark
          obtain rfl : char = '#' := by simpa using remark
          exact other rest start

/-- A row that is read has a metric. -/
theorem measured_of_parse (read : parse line default = .ok (some made)) : made.metric ≠ "" := by
  rw [parse] at read
  split at read
  · cases read
  · cases read
  · cases taken : row (skipBlanks (chomp line)) default with
    | error error =>
        rw [taken] at read
        cases read
    | ok made =>
        rw [taken] at read
        cases read
        obtain ⟨metric, _, _, _, _, _, _, ⟨filled, -⟩, -, -, -, rfl, -⟩ := row_some taken
        simpa using filled

end Lines

/-! ## Texts -/

theorem split_ne_nil (text : List Char) : split text ≠ [] := by
  cases text with
  | nil => exact List.cons_ne_nil _ _
  | cons char rest =>
      rw [split]
      split
      · exact List.cons_ne_nil _ _
      · split
        · exact List.cons_ne_nil _ _
        · exact List.cons_ne_nil _ _

/-- There is one more line than there are line feeds. -/
theorem length_split (text : List Char) : (split text).length = text.count '\n' + 1 := by
  induction text with
  | nil => rfl
  | cons char rest ih =>
      rw [split]
      split
      · next feed => rw [List.length_cons, ih, feed, List.count_cons_self]
      · next other =>
          rw [List.count_cons_of_ne other, ← ih]
          cases lines : split rest with
          | nil => exact absurd lines (split_ne_nil rest)
          | cons first others => rfl

/-- Lines and line feeds make up a text. -/
theorem length_flatten_split (text : List Char) :
    (split text).flatten.length + text.count '\n' = text.length := by
  induction text with
  | nil => rfl
  | cons char rest ih =>
      rw [split]
      split
      · next feed =>
          rw [feed, List.flatten_cons, List.nil_append, List.count_cons_self, List.length_cons]
          omega
      · next other =>
          rw [List.count_cons_of_ne other, List.length_cons]
          cases lines : split rest with
          | nil => exact absurd lines (split_ne_nil rest)
          | cons first others =>
              rw [lines, List.flatten_cons, List.length_append] at ih
              dsimp only
              rw [List.flatten_cons, List.length_append, List.length_cons]
              omega

/-- A line feed ends the line that it stands in. -/
theorem split_feed (front back : List Char) :
    split (front ++ '\n' :: back) = split front ++ split back := by
  induction front with
  | nil => simp [split]
  | cons char rest ih =>
      rw [List.cons_append, split, split, ih]
      split
      · rfl
      · cases lines : split rest with
        | nil => exact absurd lines (split_ne_nil rest)
        | cons first others => rfl

section Texts

variable (default : UInt64)

/-- The lines of two parts are read as each part is. -/
theorem parseAll_feed (front back : List Char) :
    parseAll (front ++ '\n' :: back) default =
      ⟨(parseAll front default).rows ++ (parseAll back default).rows,
        (parseAll front default).invalid + (parseAll back default).invalid⟩ := by
  simp only [parseAll, split_feed, List.map_append, List.filterMap_append, List.countP_append]

/-- Lines that cannot be read add no rows. -/
theorem parseAll_rows (text : List Char) :
    (parseAll text default).rows =
      ((split text).filter fun line => (parse line default).isOk).filterMap
        fun line => (parse line default).toOption.join := by
  rw [parseAll]
  dsimp only
  rw [List.filterMap_map, List.filterMap_filter]
  refine List.filterMap_congr fun line _ => ?_
  cases read : parse line default with
  | error error => simp [read, Except.toOption, Except.isOk, Except.toBool]
  | ok found => simp [read, Except.isOk, Except.toBool]

theorem parseAll_measured (text : List Char) :
    ∀ made ∈ (parseAll text default).rows, made.metric ≠ "" := by
  intro made inside
  obtain ⟨result, listed, same⟩ := List.mem_filterMap.mp inside
  obtain ⟨line, -, rfl⟩ := List.mem_map.mp listed
  cases read : parse line default with
  | error error => rw [read] at same; cases same
  | ok found =>
      rw [read] at same
      obtain rfl : found = some made := same
      exact measured_of_parse read

/-- Every line is accounted for. -/
theorem parseAll_accounts (text : List Char) :
    (parseAll text default).rows.length + (parseAll text default).invalid +
      (split text).countP isRemark = text.count '\n' + 1 := by
  rw [← length_split, parseAll]
  dsimp only
  induction split text with
  | nil => rfl
  | cons line rest ih =>
      rw [List.length_cons, ← ih, List.map_cons, List.countP_cons, List.countP_cons]
      have remark := @parse_eq_none_iff line default
      cases read : parse line default with
      | error error =>
          have other : isRemark line = false := by simpa [read] using remark
          simp [Except.toOption, Except.isOk, Except.toBool, other]
          omega
      | ok found =>
          cases found with
          | none =>
              have same : isRemark line = true := remark.mp read
              simp [Except.toOption, Except.isOk, Except.toBool, same]
              omega
          | some made =>
              have other : isRemark line = false := by simpa [read] using remark
              simp [Except.toOption, Except.isOk, Except.toBool, other]
              omega

/-- A row takes up a character at least, and so does what parts it from the next one. -/
theorem length_rows_le (text : List Char) :
    2 * (parseAll text default).rows.length ≤ text.length + 1 := by
  have accounts := parseAll_accounts default text
  have whole := length_flatten_split text
  have filled : (parseAll text default).rows.length ≤ (split text).flatten.length := by
    rw [parseAll]
    dsimp only
    induction split text with
    | nil => exact Nat.le_refl 0
    | cons line rest ih =>
        rw [List.flatten_cons, List.length_append, List.map_cons, List.filterMap_cons]
        split
        · omega
        · next made given =>
            have some_ : line ≠ [] := by
              rintro rfl
              have nothing : parse [] default = .ok none := parse_eq_none_iff.mpr rfl
              rw [nothing] at given
              cases given
            have long := List.length_pos_iff.mpr some_
            rw [List.length_cons]
            omega
  omega

end Texts

end SeriesIndex.Line
