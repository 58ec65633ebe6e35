import Mathlib.Data.List.TakeDrop
import SeriesIndex.Key.Layout
import SeriesIndex.Proofs.Bytes

/-!
# Keys read back

No separator occurs inside an escaped field, so a field that a separator closes is told apart from
every other, whatever follows. From this each item shows its parts: a posting its tenant, label,
value, bucket and identifiers, and a series key its tenant and labels.
-/

namespace SeriesIndex.Key

open Bytes

/-! ## Escaped fields -/

/-- The separators close fields. -/
def Closes (separator : UInt8) : Prop := separator = valueEnd ∨ separator = nameEnd

theorem closes_valueEnd : Closes valueEnd := .inl rfl

theorem closes_nameEnd : Closes nameEnd := .inr rfl

theorem small_cases {byte : UInt8} (small : byte ≤ nameEnd) : byte = 0 ∨ byte = 1 ∨ byte = 2 := by
  have bound : byte.toNat ≤ 2 := UInt8.le_iff_toNat_le.mp small
  rw [← UInt8.toNat_inj, ← UInt8.toNat_inj, ← UInt8.toNat_inj]
  change byte.toNat = 0 ∨ byte.toNat = 1 ∨ byte.toNat = 2
  omega

theorem escapeByte_of_large {byte : UInt8} (large : ¬ byte ≤ nameEnd) :
    escapeByte byte = [byte] := if_neg large

theorem not_mem_escapeByte {separator : UInt8} (closes : Closes separator) (byte : UInt8) :
    separator ∉ escapeByte byte := by
  by_cases small : byte ≤ nameEnd
  · rcases small_cases small with rfl | rfl | rfl <;> rcases closes with rfl | rfl <;> decide
  · rw [escapeByte_of_large small, List.mem_singleton]
    rintro rfl
    rcases closes with rfl | rfl <;> exact small (by decide)

theorem not_mem_escape {separator : UInt8} (closes : Closes separator) (field : Bytes) :
    separator ∉ escape field := by
  intro found
  obtain ⟨byte, _, inside⟩ := List.mem_flatMap.mp found
  exact not_mem_escapeByte closes byte inside

theorem escapeByte_append_inj {left right : UInt8} {more others : Bytes}
    (same : escapeByte left ++ more = escapeByte right ++ others) :
    left = right ∧ more = others := by
  by_cases leftSmall : left ≤ nameEnd
  · by_cases rightSmall : right ≤ nameEnd
    · rcases small_cases leftSmall with rfl | rfl | rfl <;>
        rcases small_cases rightSmall with rfl | rfl | rfl <;>
        simp_all [escapeByte, nameEnd, escapeMark, escapeBase]
    · rw [escapeByte_of_large rightSmall, escapeByte, if_pos leftSmall] at same
      have mark : escapeMark = right := (List.cons.inj same).1
      exact absurd (mark ▸ (by decide)) rightSmall
  · rw [escapeByte_of_large leftSmall, List.singleton_append] at same
    by_cases rightSmall : right ≤ nameEnd
    · rw [escapeByte, if_pos rightSmall] at same
      have mark : left = escapeMark := (List.cons.inj same).1
      exact absurd (mark ▸ (by decide)) leftSmall
    · rw [escapeByte_of_large rightSmall, List.singleton_append] at same
      exact List.cons.inj same

/-- A closed field starts with another field exactly if it does so unescaped. -/
theorem escape_prefix_iff {separator : UInt8} (closes : Closes separator)
    (start field rest : Bytes) :
    escape start <+: escape field ++ separator :: rest ↔ start <+: field := by
  induction start generalizing field with
  | nil => simp [escape]
  | cons byte start ih =>
      cases field with
      | nil =>
          refine ⟨fun ⟨more, whole⟩ => ?_, fun impossible => by simp at impossible⟩
          have inside : separator ∈ escapeByte byte := by
            cases shape : escapeByte byte with
            | nil => exact absurd shape (by unfold escapeByte; split <;> simp)
            | cons first tail =>
                rw [escape, List.flatMap_cons, shape] at whole
                exact (List.cons.inj whole).1 ▸ List.mem_cons_self
          exact absurd inside (not_mem_escapeByte closes byte)
      | cons first field =>
          simp only [escape, List.flatMap_cons, List.append_assoc]
          constructor
          · rintro ⟨more, whole⟩
            rw [List.append_assoc] at whole
            obtain ⟨rfl, tails⟩ := escapeByte_append_inj whole
            exact (List.prefix_cons_inj byte).mpr ((ih field).mp ⟨more, tails⟩)
          · intro inside
            obtain ⟨rfl, tails⟩ := List.cons_prefix_cons.mp inside
            exact (List.prefix_append_right_inj (escapeByte byte)).mpr ((ih field).mpr tails)

/-! ## Reading fields back -/

theorem unescape_escapeByte (byte : UInt8) (rest : Bytes) :
    unescape (escapeByte byte ++ rest) = (unescape rest).map (byte :: ·) := by
  by_cases small : byte ≤ nameEnd
  · rcases small_cases small with rfl | rfl | rfl <;> rfl
  · rw [escapeByte_of_large small]
    have notMark : byte ≠ escapeMark := fun same => small (same ▸ by decide)
    rw [List.singleton_append, unescape.eq_def]
    exact if_neg notMark

theorem unescape_escape (field : Bytes) : unescape (escape field) = .ok field := by
  induction field with
  | nil => rfl
  | cons byte field ih =>
      rw [escape, List.flatMap_cons, unescape_escapeByte]
      rw [escape] at ih
      rw [ih]
      rfl

theorem takeField_escape {separator : UInt8} (closes : Closes separator)
    (field tail : Bytes) :
    takeField separator (escape field ++ separator :: tail) = .ok (field, tail) := by
  have other : ∀ byte ∈ escape field, decide (byte ≠ separator) = true := fun byte inside =>
    decide_eq_true fun same => not_mem_escape closes field (same ▸ inside)
  have cut : (escape field ++ separator :: tail).span (fun byte => decide (byte ≠ separator)) =
      (escape field, separator :: tail) := by
    rw [List.span_eq_takeWhile_dropWhile, List.takeWhile_append_of_pos other,
      List.dropWhile_append_of_pos other]
    simp
  rw [takeField, cut]
  dsimp only
  rw [unescape_escape]
  rfl

theorem escape_append_inj {separator : UInt8} (closes : Closes separator)
    {left right more others : Bytes}
    (same : escape left ++ separator :: more = escape right ++ separator :: others) :
    left = right ∧ more = others := by
  have read := takeField_escape closes left more
  rw [same, takeField_escape closes right others] at read
  cases read
  exact ⟨rfl, rfl⟩

theorem name_append_inj {left right more others : Bytes}
    (same : name left ++ more = name right ++ others) : left = right ∧ more = others := by
  simp only [name, List.append_assoc, List.singleton_append] at same
  exact escape_append_inj closes_nameEnd same

theorem value_append_inj {left right more others : Bytes}
    (same : value left ++ more = value right ++ others) : left = right ∧ more = others := by
  simp only [value, List.append_assoc, List.singleton_append] at same
  exact escape_append_inj closes_valueEnd same

/-! ## Tenants -/

@[simp]
theorem scope_length (space : Space) (tenant : Tenant) : (scope space tenant).length = 9 := by
  simp [scope]

theorem scope_append_inj {space other : Space} {tenant owner : Tenant} {more others : Bytes}
    (same : scope space tenant ++ more = scope other owner ++ others) :
    space = other ∧ tenant = owner ∧ more = others := by
  obtain ⟨starts, rests⟩ := List.append_inj same (by simp)
  obtain ⟨codes, words⟩ := List.cons.inj starts
  obtain ⟨accounts, projects⟩ := List.append_inj words (by simp)
  have spaces : space = other := by cases space <;> cases other <;> first | rfl | cases codes
  refine ⟨spaces, ?_, rests⟩
  have first : tenant.account = owner.account := ofWord32_injective accounts
  have second : tenant.project = owner.project := ofWord32_injective projects
  cases tenant
  cases owner
  simp_all

theorem namePrefix_append_inj {tenant owner : Tenant} {label other more others : Bytes}
    (same : namePrefix tenant label ++ more = namePrefix owner other ++ others) :
    tenant = owner ∧ label = other ∧ more = others := by
  simp only [namePrefix, List.append_assoc] at same
  obtain ⟨_, tenants, rests⟩ := scope_append_inj same
  obtain ⟨labels, rests⟩ := name_append_inj rests
  exact ⟨tenants, labels, rests⟩

/-! ## Postings -/

theorem words_append (id : UInt64) (rest : Bytes) :
    words (ofWord64 id ++ rest) = id :: words rest := by
  have length : (ofWord64 id).length = 8 := ofWord64_length id
  have word : toWord64 (ofWord64 id) = id := toWord64_ofWord64 id
  match shape : ofWord64 id, length with
  | [a, b, c, d, e, f, g, h], _ =>
      rw [shape] at word
      change toWord64 [a, b, c, d, e, f, g, h] :: words rest = id :: words rest
      rw [word]

theorem words_flatMap (ids : List UInt64) : words (ids.flatMap ofWord64) = ids := by
  induction ids with
  | nil => rfl
  | cons id ids ih => rw [List.flatMap_cons, words_append, ih]

theorem flatMap_ofWord64_length (ids : List UInt64) :
    (ids.flatMap ofWord64).length = 8 * ids.length := by
  induction ids with
  | nil => rfl
  | cons id ids ih => simp [ih, Nat.mul_add, Nat.add_comm]

theorem flatMap_ofWord64_ne_nil {ids : List UInt64} (some : ids ≠ []) :
    ids.flatMap ofWord64 ≠ [] := by
  have length := flatMap_ofWord64_length ids
  have positive : 0 < ids.length := List.length_pos_iff.mpr some
  exact List.length_pos_iff.mp (by omega)

theorem takeIds_flatMap {ids : List UInt64} (some : ids ≠ []) :
    takeIds (ids.flatMap ofWord64) = .ok ids := by
  have filled : (ids.flatMap ofWord64).isEmpty = false :=
    List.isEmpty_eq_false_iff.mpr (flatMap_ofWord64_ne_nil some)
  rw [takeIds, filled, flatMap_ofWord64_length, words_flatMap]
  simp

/-- What follows the value of a posting gives its bucket and its identifiers. -/
theorem takePosting_append (bucket : UInt64) {ids : List UInt64} (some : ids ≠ []) :
    takePosting (ofWord64 bucket ++ ids.flatMap ofWord64) = .ok (bucket, ids) := by
  have front : (ofWord64 bucket ++ ids.flatMap ofWord64).take 8 = ofWord64 bucket :=
    List.take_left' (ofWord64_length bucket)
  have back : (ofWord64 bucket ++ ids.flatMap ofWord64).drop 8 = ids.flatMap ofWord64 :=
    List.drop_left' (ofWord64_length bucket)
  have word : takeWord (ofWord64 bucket ++ ids.flatMap ofWord64) = .ok bucket := by
    rw [takeWord, front, toWord64_ofWord64, if_neg (by simp)]
  rw [takePosting, word, back, takeIds_flatMap some]
  rfl

theorem posting_eq (tenant : Tenant) (label content : Bytes) (bucket : UInt64)
    (ids : List UInt64) :
    posting tenant label content bucket ids =
      namePrefix tenant label ++ (escape content ++ valueEnd ::
        (ofWord64 bucket ++ ids.flatMap ofWord64)) := by
  simp [posting, value]

theorem posting_inj {tenant owner : Tenant} {label other content text : Bytes}
    {bucket time : UInt64} {ids others : List UInt64}
    (same : posting tenant label content bucket ids = posting owner other text time others) :
    tenant = owner ∧ label = other ∧ content = text ∧ bucket = time ∧ ids = others := by
  rw [posting_eq, posting_eq] at same
  obtain ⟨tenants, labels, rests⟩ := namePrefix_append_inj same
  obtain ⟨contents, rests⟩ := escape_append_inj closes_valueEnd rests
  obtain ⟨buckets, idBytes⟩ := List.append_inj rests (by simp)
  refine ⟨tenants, labels, contents, ofWord64_injective buckets, ?_⟩
  rw [← words_flatMap ids, idBytes, words_flatMap]

/-- A posting starts with the key of its own tenant and label only. -/
theorem namePrefix_prefix_posting_iff {tenant owner : Tenant} {label other content : Bytes}
    {bucket : UInt64} {ids : List UInt64} :
    namePrefix tenant label <+: posting owner other content bucket ids ↔
      tenant = owner ∧ label = other := by
  rw [posting_eq]
  constructor
  · rintro ⟨more, whole⟩
    obtain ⟨tenants, labels, _⟩ := namePrefix_append_inj whole
    exact ⟨tenants, labels⟩
  · rintro ⟨rfl, rfl⟩
    exact List.prefix_append _ _

/-! ## Windows of buckets -/

/-- A key that ends in a time lies above the posting of an earlier bucket only. -/
theorem below_window_iff (stem rest : Bytes) {bucket first : UInt64} :
    stem ++ (ofWord64 bucket ++ rest) < stem ++ ofWord64 first ↔ bucket < first := by
  have widths : (ofWord64 bucket).length = (ofWord64 first).length := by simp
  have short := append_lt_append_iff widths rest []
  rw [List.append_nil] at short
  rw [append_lt_append_left_iff, short, ofWord64_lt_iff]
  exact ⟨fun below => below.elim (fun less => less) fun impossible =>
    absurd impossible.2 (List.not_lt_nil rest), .inl⟩

/-- A key that ends in a time lies below the postings of that bucket and of later ones. -/
theorem above_window_iff (stem : Bytes) {rest : Bytes} (some : rest ≠ []) {bucket last : UInt64} :
    stem ++ ofWord64 last < stem ++ (ofWord64 bucket ++ rest) ↔ last ≤ bucket := by
  have widths : (ofWord64 last).length = (ofWord64 bucket).length := by simp
  have short := append_lt_append_iff widths [] rest
  rw [List.append_nil] at short
  rw [append_lt_append_left_iff, short, ofWord64_lt_iff]
  constructor
  · rintro (less | ⟨same, _⟩)
    · exact UInt64.le_of_lt less
    · exact UInt64.le_of_eq (ofWord64_injective same)
  · intro atMost
    by_cases same : last = bucket
    · obtain ⟨byte, more, shape⟩ := List.exists_cons_of_ne_nil some
      exact .inr ⟨same ▸ rfl, shape ▸ List.nil_lt_cons byte more⟩
    · exact .inl (UInt64.lt_of_le_of_ne atMost same)

/-! ## Series and label records -/

/-- The end of a series key does not start a name. -/
theorem valueEnd_cons_ne_name (field more rest : Bytes) :
    valueEnd :: rest ≠ name field ++ more := by
  intro same
  have outside := not_mem_escape closes_valueEnd field
  rw [name] at same
  cases shape : escape field with
  | nil =>
      rw [shape] at same
      cases (List.cons.inj same).1
  | cons byte bytes =>
      rw [shape] at same outside
      exact outside ((List.cons.inj same).1 ▸ List.mem_cons_self)

/-- The labels of a series, each after the other up to the end. -/
theorem fields_append_inj {labels others : List (Bytes × Bytes)} {more rest : Bytes}
    (same : labels.flatMap (fun (label, content) => name label ++ value content) ++
        valueEnd :: more =
      others.flatMap (fun (label, content) => name label ++ value content) ++
        valueEnd :: rest) :
    labels = others ∧ more = rest := by
  induction labels generalizing others with
  | nil =>
      cases others with
      | nil => exact ⟨rfl, (List.cons.inj same).2⟩
      | cons other others =>
          rw [List.flatMap_cons, List.append_assoc, List.append_assoc] at same
          exact absurd same (valueEnd_cons_ne_name _ _ _)
  | cons label labels ih =>
      cases others with
      | nil =>
          rw [List.flatMap_cons, List.append_assoc, List.append_assoc] at same
          exact absurd same.symm (valueEnd_cons_ne_name _ _ _)
      | cons other others =>
          rw [List.flatMap_cons, List.flatMap_cons] at same
          simp only [List.append_assoc] at same
          obtain ⟨names, rests⟩ := name_append_inj same
          obtain ⟨contents, rests⟩ := value_append_inj rests
          obtain ⟨tails, ends⟩ := ih rests
          exact ⟨congrArg₂ _ (Prod.ext names contents) tails, ends⟩

theorem series_append_inj {tenant owner : Tenant} {labels others : List (Bytes × Bytes)}
    {more rest : Bytes} (same : series tenant labels ++ more = series owner others ++ rest) :
    tenant = owner ∧ labels = others ∧ more = rest := by
  simp only [series, List.append_assoc] at same
  obtain ⟨-, tenants, rests⟩ := scope_append_inj same
  exact ⟨tenants, fields_append_inj rests⟩

theorem labels_append_inj {tenant owner : Tenant} {id other : UInt64} {more rest : Bytes}
    (same : labels tenant id ++ more = labels owner other ++ rest) :
    tenant = owner ∧ id = other ∧ more = rest := by
  simp only [labels, List.append_assoc] at same
  obtain ⟨-, tenants, rests⟩ := scope_append_inj same
  obtain ⟨ids, rests⟩ := List.append_inj rests (by simp)
  exact ⟨tenants, ofWord64_injective ids, rests⟩

/-- An identifier is read off the end of a series item. -/
theorem takeWord_ofWord64 (id : UInt64) : takeWord (ofWord64 id) = .ok id := by
  rw [takeWord, if_neg (by simp), List.take_of_length_le (by simp), toWord64_ofWord64]

end SeriesIndex.Key
