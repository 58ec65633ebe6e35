import SeriesIndex.Pattern

/-!
# Where expressions lead

An expression leads from places only to places further on in the same text, and bringing a sequence
into its simple form does not change where it leads. A pattern between the start and the end of a
value accepts the value if its expression leads from one to the other.
-/

namespace SeriesIndex.Pattern

/-! ## Further places -/

/-- The bytes taken on the way from one place to another. -/
def Place.Passes (place : Place) (taken : Bytes) (last : Place) : Prop :=
  place.after = taken ++ last.after

namespace Place

theorem Passes.refl (place : Place) : place.Passes [] place := rfl

theorem Passes.trans {first middle last : Place} {taken more : Bytes}
    (front : first.Passes taken middle) (back : middle.Passes more last) :
    first.Passes (taken ++ more) last := by
  rw [Passes, front, back, List.append_assoc]

theorem advance_passes {width : Nat} {place last : Place}
    (advanced : place.advance width = some last) :
    place.Passes (place.after.take width) last := by
  induction width generalizing place with
  | zero =>
      cases advanced
      rfl
  | succ width ih =>
      obtain ⟨index, before, after⟩ := place
      cases after with
      | nil => cases advanced
      | cons byte rest =>
          exact congrArg (byte :: ·) (ih advanced)

theorem take?_passes {bytes : Bytes} {place last : Place}
    (taken : place.take? bytes = some last) : place.Passes bytes last := by
  rw [take?] at taken
  split at taken
  · next begins =>
      have passed := advance_passes taken
      rwa [List.prefix_iff_eq_take.mp (List.isPrefixOf_iff_prefix.mp begins) |>.symm] at passed
  · cases taken

theorem advance_add (front back : Nat) (place : Place) :
    place.advance (front + back) = (place.advance front).bind (·.advance back) := by
  induction front generalizing place with
  | zero => rw [Nat.zero_add]; rfl
  | succ front ih =>
      obtain ⟨index, before, after⟩ := place
      rw [Nat.succ_add]
      cases after with
      | nil => rfl
      | cons byte rest => exact ih _

/-- Taking two byte strings one after the other is taking them as one. -/
theorem take?_append (bytes more : Bytes) (place : Place) :
    place.take? (bytes ++ more) = (place.take? bytes).bind (·.take? more) := by
  by_cases begins : bytes <+: place.after
  · obtain ⟨after, split⟩ := begins
    cases advanced : place.advance bytes.length with
    | none =>
        have short : place.advance (bytes ++ more).length = none := by
          rw [List.length_append, advance_add, advanced]
          rfl
        rw [take?, take?, short, advanced]
        simp
    | some middle =>
        have rest : middle.after = after := by
          have passed := advance_passes advanced
          rw [← split, List.take_left, Passes, ← split] at passed
          exact (List.append_cancel_left passed).symm
        have whole : place.advance (bytes ++ more).length = middle.advance more.length := by
          rw [List.length_append, advance_add, advanced]
          rfl
        rw [take?, take?, whole, advanced, ← split]
        simp [take?, rest]
  · have longer : ¬ bytes ++ more <+: place.after := fun begins' =>
      begins ((List.prefix_append bytes more).trans begins')
    rw [take?, take?, if_neg (by simpa using longer), if_neg (by simpa using begins)]
    rfl

/-! ## Steps -/

/-- A step leads only to places behind some of the given ones, with bytes between them that it can
take. -/
def Leads (step : List Place → List Place) (takes : Bytes → Prop) : Prop :=
  ∀ places, ∀ last ∈ step places, ∃ place ∈ places, ∃ taken, place.Passes taken last ∧ takes taken

theorem mem_of_mem_join {left right : List Place} {place : Place}
    (inside : place ∈ join left right) : place ∈ left ∨ place ∈ right :=
  (List.mem_append.mp inside).imp_right fun kept => (List.mem_filter.mp kept).1

theorem mem_of_mem_distinct {places : List Place} {place : Place}
    (inside : place ∈ distinct places) : place ∈ places := by
  have general : ∀ seen, place ∈ places.foldl (fun seen place => join seen [place]) seen →
      place ∈ seen ∨ place ∈ places := by
    clear inside
    induction places with
    | nil => exact fun seen inside => .inl inside
    | cons first rest ih =>
        intro seen inside
        rcases ih _ inside with before | later
        · rcases mem_of_mem_join before with old | new
          · exact .inl old
          · exact .inr (List.mem_cons.mpr (.inl (List.mem_singleton.mp new)))
        · exact .inr (List.mem_cons_of_mem first later)
  exact (general [] inside).resolve_left List.not_mem_nil

section Repeating

variable {step : List Place → List Place} {takes : Bytes → Prop} {places : List Place}
  {last : Place}

theorem Leads.exactly (leads : Leads step takes) {count : Nat}
    (reached : last ∈ exactly step count places) :
    ∃ place ∈ places, ∃ pieces : List Bytes, (∀ piece ∈ pieces, takes piece) ∧
      pieces.length = count ∧ place.Passes pieces.flatten last := by
  induction count generalizing places with
  | zero => exact ⟨last, reached, [], by simp, rfl, .refl last⟩
  | succ count ih =>
      rw [Place.exactly] at reached
      split at reached
      · exact absurd reached List.not_mem_nil
      · obtain ⟨middle, between, pieces, each, length, back⟩ := ih reached
        obtain ⟨place, inside, taken, front, takes⟩ := leads places middle between
        exact ⟨place, inside, taken :: pieces, List.forall_mem_cons.mpr ⟨takes, each⟩,
          congrArg Nat.succ length, front.trans back⟩

theorem Leads.upTo (leads : Leads step takes) {count : Nat} {seen newest : List Place}
    (reached : last ∈ upTo step count seen newest) :
    last ∈ seen ∨ ∃ place ∈ newest, ∃ pieces : List Bytes, (∀ piece ∈ pieces, takes piece) ∧
      pieces.length ≤ count ∧ place.Passes pieces.flatten last := by
  induction count generalizing seen newest with
  | zero => exact .inl reached
  | succ count ih =>
      rw [Place.upTo] at reached
      split at reached
      · exact .inl reached
      · -- a place found by one more step is behind one of the newest
        have further : ∀ {middle : Place} {pieces : List Bytes}, (∀ piece ∈ pieces, takes piece) →
            pieces.length ≤ count → middle.Passes pieces.flatten last →
            middle ∈ (step newest).filter (fun place => !seen.any (·.index == place.index)) →
            ∃ place ∈ newest, ∃ pieces : List Bytes, (∀ piece ∈ pieces, takes piece) ∧
              pieces.length ≤ count + 1 ∧ place.Passes pieces.flatten last := by
          intro middle pieces each length back found
          obtain ⟨place, inside, taken, front, takes⟩ :=
            leads newest middle (List.mem_filter.mp found).1
          exact ⟨place, inside, taken :: pieces, List.forall_mem_cons.mpr ⟨takes, each⟩,
            Nat.succ_le_succ length, front.trans back⟩
        rcases ih reached with known | ⟨middle, found, pieces, each, length, back⟩
        · rcases List.mem_append.mp known with old | found
          · exact .inl old
          · have none_ : ∀ piece ∈ ([] : List Bytes), takes piece := by simp
            exact .inr (further none_ (Nat.zero_le count) (.refl last) found)
        · exact .inr (further each length back found)

/-- A repetition takes as many pieces as the counts allow. -/
theorem Leads.repeatStep (leads : Leads step takes) {counts : Counts}
    (reached : last ∈ repeatStep counts step places) :
    ∃ place ∈ places, ∃ pieces : List Bytes, (∀ piece ∈ pieces, takes piece) ∧
      counts.least ≤ pieces.length ∧
      (∀ bound, counts.most = some bound → pieces.length ≤ max counts.least bound) ∧
      place.Passes pieces.flatten last := by
  -- the pieces of the least number of steps, and those of the steps after them
  have split : ∀ {more : Nat}, last ∈ Place.upTo step more
        (Place.exactly step counts.least places) (Place.exactly step counts.least places) →
      ∃ place ∈ places, ∃ pieces : List Bytes, (∀ piece ∈ pieces, takes piece) ∧
        counts.least ≤ pieces.length ∧ pieces.length ≤ counts.least + more ∧
        place.Passes pieces.flatten last := by
    intro more within
    rcases leads.upTo within with early | ⟨middle, between, rest, eachRest, few, back⟩
    · obtain ⟨place, inside, pieces, each, length, passes⟩ := leads.exactly early
      exact ⟨place, inside, pieces, each, by omega, by omega, passes⟩
    · obtain ⟨place, inside, pieces, each, length, front⟩ := leads.exactly between
      refine ⟨place, inside, pieces ++ rest, ?_, ?_, ?_, ?_⟩
      · exact List.forall_mem_append.mpr ⟨each, eachRest⟩
      · rw [List.length_append]; omega
      · rw [List.length_append]; omega
      · rw [List.flatten_append]; exact front.trans back
  rw [Place.repeatStep] at reached
  cases most : counts.most with
  | none =>
      rw [most] at reached
      obtain ⟨place, inside, pieces, each, least, -, passes⟩ := split reached
      refine ⟨place, inside, pieces, each, least, ?_, passes⟩
      rintro _ ⟨⟩
  | some bound =>
      rw [most] at reached
      obtain ⟨place, inside, pieces, each, least, few, passes⟩ := split reached
      refine ⟨place, inside, pieces, each, least, ?_, passes⟩
      rintro _ ⟨⟩
      omega

end Repeating

end Place

/-! ## Sequences -/

namespace Expr

theorem endsOfAll_append (left right : List Expr) (places : List Place) :
    endsOfAll (left ++ right) places = endsOfAll right (endsOfAll left places) := by
  induction left generalizing places with
  | nil => rfl
  | cons part rest ih => exact ih _

theorem endsOfAll_flatParts (parts : List Expr) (places : List Place) :
    endsOfAll (flatParts parts) places = endsOfAll parts places := by
  induction parts generalizing places with
  | nil => rfl
  | cons part rest ih =>
      rw [flatParts, List.flatMap_cons, endsOfAll_append]
      refine (ih _).trans ?_
      cases part <;> rfl

theorem endsOfAll_joinLiterals (parts : List Expr) (places : List Place) :
    endsOfAll (joinLiterals parts) places = endsOfAll parts places := by
  induction parts using joinLiterals.induct generalizing places with
  | case1 => rfl
  | case2 rest ih => exact ih places
  | case3 bytes rest more later joined ih =>
      rw [joinLiterals, joined]
      refine Eq.trans ?_ (ih _)
      rw [joined]
      show endsOfAll later (places.filterMap (Place.take? (bytes ++ more))) =
        endsOfAll later ((places.filterMap (Place.take? bytes)).filterMap (Place.take? more))
      rw [List.filterMap_filterMap]
      exact congrArg (fun take => endsOfAll later (places.filterMap take))
        (funext (Place.take?_append bytes more))
  | case4 bytes rest other ih =>
      rw [joinLiterals]
      split
      · next more later joined => exact absurd joined (other more later)
      · exact ih _
  | case5 part rest empty literal ih =>
      rw [joinLiterals]
      · exact ih _
      · exact empty
      · exact literal

/-- The simple form of a sequence leads where its parts lead one after another. -/
theorem ends_ofConcat (parts : List Expr) (places : List Place) :
    (ofConcat parts).ends places = endsOfAll parts places := by
  rw [← endsOfAll_flatParts, ← endsOfAll_joinLiterals, ofConcat]
  split
  · next joined => rw [joined]; rfl
  · next joined => rw [joined]; rfl
  · rfl

end Expr

end SeriesIndex.Pattern
