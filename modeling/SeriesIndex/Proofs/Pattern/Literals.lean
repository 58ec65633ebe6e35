import SeriesIndex.Proofs.Pattern.Ends
import SeriesIndex.Proofs.Utf8

/-!
# What the starts of matches tell

Every match of an expression fits one of the starts found for it: it is the literal if that is
exact, and begins with it otherwise. Giving up, cutting literals off and merging them keep this.
-/

namespace SeriesIndex.Pattern

open Unicode

/-! ## Starts that describe a match -/

/-- The bytes are the literal if it is exact, and begin with it otherwise. -/
def Start.Fits (start : Start) (taken : Bytes) : Prop :=
  if start.exact then taken = start.bytes else start.bytes <+: taken

theorem Start.Fits.begins {start : Start} {taken : Bytes} (fits : start.Fits taken) :
    start.bytes <+: taken := by
  rw [Start.Fits] at fits
  split at fits
  · exact fits ▸ List.prefix_rfl
  · exact fits

theorem Start.Fits.of_inexact {start : Start} {taken : Bytes} (inexact : start.exact = false)
    (begins : start.bytes <+: taken) : start.Fits taken := by
  rwa [Start.Fits, if_neg (by simp [inexact])]

namespace Starts

/-- The bytes fit one of the starts, if any are known. -/
def Describe (starts : Starts) (taken : Bytes) : Prop :=
  ∀ known, starts = some known → ∃ start ∈ known, start.Fits taken

section Combining

variable {starts first second : Starts} {taken more : Bytes}

theorem describe_none (taken : Bytes) : Describe none taken :=
  fun _ impossible => nomatch impossible

theorem describe_some {known : List Start} :
    Describe (some known) taken ↔ ∃ start ∈ known, start.Fits taken :=
  ⟨fun describes => describes known rfl, fun found _ same => Option.some.inj same ▸ found⟩

theorem describe_exactly (bytes : Bytes) : (exactly bytes).Describe bytes :=
  describe_some.mpr ⟨⟨bytes, true⟩, List.mem_singleton_self _, rfl⟩

/-- Inexact starts describe all that goes on behind a match. -/
theorem Describe.makeInexact (describes : starts.Describe taken) (more : Bytes) :
    starts.makeInexact.Describe (taken ++ more) := by
  rintro known same
  obtain ⟨before, rfl, rfl⟩ := Option.map_eq_some_iff.mp same
  obtain ⟨start, inside, fits⟩ := describes before rfl
  exact ⟨_, List.mem_map_of_mem inside,
    .of_inexact rfl (fits.begins.trans (List.prefix_append taken more))⟩

theorem Describe.of_isInexact (describes : starts.Describe taken)
    (inexact : starts.isInexact = true) (more : Bytes) : starts.Describe (taken ++ more) := by
  rintro known rfl
  obtain ⟨start, inside, fits⟩ := describes known rfl
  have open_ : start.exact = false := by
    simpa using List.all_eq_true.mp inexact start inside
  exact ⟨start, inside, .of_inexact open_ (fits.begins.trans (List.prefix_append taken more))⟩

theorem Describe.keepFirst (describes : starts.Describe taken) (length : Nat) :
    (keepFirst length starts).Describe taken := by
  rintro known same
  obtain ⟨before, rfl, rfl⟩ := Option.map_eq_some_iff.mp same
  obtain ⟨start, inside, fits⟩ := describes before rfl
  refine ⟨_, List.mem_map_of_mem inside, ?_⟩
  split
  · exact fits
  · exact .of_inexact rfl ((List.take_prefix _ _).trans fits.begins)

/-- A start is merged with the one behind it if they have the same text. -/
theorem mergeNeighbours_cons (start : Start) (rest : List Start) :
    mergeNeighbours (start :: rest) =
      match mergeNeighbours rest with
      | next :: later =>
          if start.bytes = next.bytes then ⟨start.bytes, start.exact && next.exact⟩ :: later
          else start :: next :: later
      | [] => [start] := by
  rw [mergeNeighbours, List.foldr_cons, ← mergeNeighbours]
  cases mergeNeighbours rest <;> rfl

theorem fits_mergeNeighbours {known : List Start} (found : ∃ start ∈ known, start.Fits taken) :
    ∃ start ∈ mergeNeighbours known, start.Fits taken := by
  induction known with
  | nil => simp at found
  | cons start rest ih =>
      have split : start.Fits taken ∨ ∃ other ∈ mergeNeighbours rest, other.Fits taken := by
        obtain ⟨other, inside, fits⟩ := found
        rcases List.mem_cons.mp inside with rfl | later
        · exact .inl fits
        · exact .inr (ih ⟨other, later, fits⟩)
      rw [mergeNeighbours_cons]
      cases merged : mergeNeighbours rest with
      | nil => simpa [merged] using split
      | cons next later =>
          rw [merged] at split
          dsimp only
          split
          · next same =>
              -- the merged start fits whatever either of the two fits
              have joint : start.Fits taken ∨ next.Fits taken →
                  (Start.mk start.bytes (start.exact && next.exact)).Fits taken := by
                rintro fits
                rw [Start.Fits]
                split
                · next both =>
                    obtain ⟨left, right⟩ := Bool.and_eq_true_iff.mp both
                    rcases fits with fits | fits
                    · rwa [Start.Fits, if_pos left] at fits
                    · rwa [Start.Fits, if_pos right, ← same] at fits
                · rcases fits with fits | fits
                  · exact fits.begins
                  · exact same ▸ fits.begins
              rcases split with fits | ⟨other, inside, fits⟩
              · exact ⟨_, List.mem_cons_self, joint (.inl fits)⟩
              · rcases List.mem_cons.mp inside with rfl | further
                · exact ⟨_, List.mem_cons_self, joint (.inr fits)⟩
                · exact ⟨other, List.mem_cons_of_mem _ further, fits⟩
          · rcases split with fits | ⟨other, inside, fits⟩
            · exact ⟨start, List.mem_cons_self, fits⟩
            · exact ⟨other, List.mem_cons_of_mem _ inside, fits⟩

theorem cross_none_right (left : List Start) :
    cross (some left) none =
      keepFirst maxLength
        (if left.any (·.bytes.isEmpty) then none else Starts.makeInexact (some left)) := rfl

theorem cross_some (left right : List Start) :
    cross (some left) (some right) =
      if maxTotal < left.length * right.length then cross (some left) none
      else keepFirst maxLength (some (mergeNeighbours (left.flatMap fun start =>
        if start.exact then right.map fun next => ⟨start.bytes ++ next.bytes, next.exact⟩
        else [start]))) := by
  by_cases large : maxTotal < left.length * right.length
  · rw [if_pos large]
    simp only [cross, if_pos large]
  · rw [if_neg large]
    simp only [cross, if_neg large]

theorem Describe.cross_none_right {left : List Start} (front : Describe (some left) taken)
    (more : Bytes) : (cross (some left) none).Describe (taken ++ more) := by
  rw [Starts.cross_none_right]
  refine Describe.keepFirst ?_ maxLength
  split
  · exact describe_none _
  · exact front.makeInexact more

/-- A match of the first followed by one of the second is described by the crossed starts. -/
theorem Describe.cross (front : first.Describe taken) (back : second.Describe more) :
    (cross first second).Describe (taken ++ more) := by
  cases first with
  | none => exact describe_none _
  | some left =>
      cases second with
      | none => exact front.cross_none_right more
      | some right =>
          rw [cross_some]
          split
          · exact front.cross_none_right more
          · obtain ⟨start, inside, fits⟩ := front left rfl
            obtain ⟨next, further, goes⟩ := back right rfl
            refine Describe.keepFirst (describe_some.mpr (fits_mergeNeighbours ?_)) maxLength
            by_cases closed : start.exact = true
            · rw [Start.Fits, if_pos closed] at fits
              refine ⟨⟨start.bytes ++ next.bytes, next.exact⟩,
                List.mem_flatMap.mpr ⟨start, inside, ?_⟩, ?_⟩
              · rw [if_pos closed]
                exact List.mem_map_of_mem further
              · rw [fits]
                rw [Start.Fits] at goes ⊢
                split
                · next whole => rw [if_pos whole] at goes; rw [goes]
                · next whole =>
                    rw [if_neg whole] at goes
                    exact (List.prefix_append_right_inj _).mpr goes
            · refine ⟨start, List.mem_flatMap.mpr ⟨start, inside, ?_⟩, ?_⟩
              · rw [if_neg closed]
                exact List.mem_singleton_self start
              · exact .of_inexact (by simpa using closed)
                  (fits.begins.trans (List.prefix_append taken more))

/-- The literals of two lists, where both are known. -/
theorem Describe.joined : first.Describe taken ∨ second.Describe taken →
    Describe (match first, second with
      | some left, some right => some (mergeNeighbours (left ++ right))
      | _, _ => none) taken := by
  intro either
  cases first with
  | none => exact describe_none taken
  | some left =>
      cases second with
      | none => exact describe_none taken
      | some right =>
          refine describe_some.mpr (fits_mergeNeighbours ?_)
          rcases either with describes | describes
          · obtain ⟨start, inside, fits⟩ := describes left rfl
            exact ⟨start, List.mem_append_left right inside, fits⟩
          · obtain ⟨start, inside, fits⟩ := describes right rfl
            exact ⟨start, List.mem_append_right left inside, fits⟩

theorem Describe.mergeNeighbours (describes : starts.Describe taken) :
    Describe (starts.map mergeNeighbours) taken := by
  rintro known same
  obtain ⟨before, rfl, rfl⟩ := Option.map_eq_some_iff.mp same
  exact fits_mergeNeighbours (describes before rfl)

/-- A match of either is described by the united starts. -/
theorem Describe.union (either : first.Describe taken ∨ second.Describe taken) :
    (union first second).Describe taken := by
  refine Describe.keepFirst (Describe.joined ?_) maxLength
  -- what is united is either as it was, cut to short literals, or given up
  split
  · split
    · dsimp only
      split
      · exact .inr (describe_none taken)
      · exact either.imp (·.keepFirst 4 |>.mergeNeighbours) (·.keepFirst 4 |>.mergeNeighbours)
    · exact either
  · exact either

/-! ## Repetitions -/

theorem Describe.power {pieces : List Bytes} (before : first.Describe taken)
    (each : ∀ piece ∈ pieces, starts.Describe piece) :
    (power starts pieces.length first).Describe (taken ++ pieces.flatten) := by
  induction pieces generalizing first taken with
  | nil => simpa [Starts.power] using before
  | cons piece rest ih =>
      obtain ⟨here, later⟩ := List.forall_mem_cons.mp each
      rw [List.length_cons, Starts.power, List.flatten_cons]
      split
      · next inexact => exact before.of_isInexact inexact _
      · rw [← List.append_assoc]
        exact ih (before.cross here) later

/-- So many matches one after another as the counts allow are described by the repeated starts. -/
theorem Describe.ofRepeated {counts : Counts} {pieces : List Bytes}
    (each : ∀ piece ∈ pieces, starts.Describe piece) (least : counts.least ≤ pieces.length)
    (most : ∀ bound, counts.most = some bound → pieces.length ≤ max counts.least bound) :
    (ofRepeated counts starts).Describe pieces.flatten := by
  rw [Starts.ofRepeated]
  split
  · next none_ =>
      -- without a match the empty text is left, else the first one tells
      have either : (if counts.most = some 1 then starts else starts.makeInexact).Describe
          pieces.flatten ∨ (exactly []).Describe pieces.flatten := by
        cases pieces with
        | nil => exact .inr (describe_exactly [])
        | cons piece rest =>
            refine .inl ?_
            have here := each piece List.mem_cons_self
            split
            · next once =>
                have few := most 1 once
                rw [none_, List.length_cons] at few
                have alone : rest = [] := List.length_eq_zero_iff.mp (by omega)
                simpa [alone] using here
            · exact here.makeInexact rest.flatten
      dsimp only
      split
      · exact .union either
      · exact .union either.symm
  · -- as many matches as are written out, and those behind them
    have written : ∀ count ≤ pieces.length,
        (Starts.power starts count (exactly [])).Describe (pieces.take count).flatten := by
      intro count few
      have front : ∀ piece ∈ pieces.take count, starts.Describe piece := fun piece inside =>
        each piece (List.mem_of_mem_take inside)
      have powered := (describe_exactly []).power front
      rwa [List.length_take_of_le few, List.nil_append] at powered
    dsimp only
    split
    · next fixed =>
        obtain ⟨same, small⟩ : counts.most = some counts.least ∧ counts.least ≤ maxRepeat := by
          simpa using fixed
        have exact_ : pieces.length = counts.least := by
          have bound := most counts.least same
          omega
        have all := written (min counts.least maxRepeat) (by omega)
        rw [Nat.min_eq_left small, ← exact_, List.take_length] at all
        rwa [Nat.min_eq_left small, ← exact_]
    · have front := (written (min counts.least maxRepeat) (by omega)).makeInexact
        (pieces.drop (min counts.least maxRepeat)).flatten
      rwa [← List.flatten_append, List.take_append_drop] at front

end Combining

/-! ## Classes -/

theorem mem_toList {set : CharSet} {code : Nat} (inside : set.contains code = true) :
    code ∈ set.toList := by
  obtain ⟨range, known, within⟩ := List.any_eq_true.mp inside
  obtain ⟨low, high⟩ : range.first ≤ code ∧ code ≤ range.last := by
    simpa [CharRange.contains] using within
  refine List.mem_flatMap.mpr ⟨range, known, List.mem_map.mpr ⟨code - range.first, ?_, by omega⟩⟩
  rw [List.mem_range, CharRange.size]
  omega

theorem describe_char {set : CharSet} {code : Nat} (inside : set.contains code = true) :
    (ofClass (.chars set)).Describe (String.utf8EncodeChar (Char.ofNat code)) := by
  rw [ofClass]
  split
  · exact describe_none _
  · exact describe_some.mpr ⟨_, List.mem_map_of_mem (mem_toList inside), rfl⟩

theorem describe_byte {set : CharSet} {code : Nat} (inside : set.contains code = true) :
    (ofClass (.bytes set)).Describe [UInt8.ofNat code] := by
  rw [ofClass]
  split
  · exact describe_none _
  · exact describe_some.mpr ⟨_, List.mem_map_of_mem (mem_toList inside), rfl⟩

/-- The literal of a member is what was taken. -/
theorem ofClass_describe {members : Class} {place last : Place}
    (member : place.member? members = some last) :
    ∃ taken, place.Passes taken last ∧ (ofClass members).Describe taken := by
  cases members with
  | chars set =>
      rw [Place.member?] at member
      split at member
      · next char width read =>
          split at member
          · next inside =>
              refine ⟨_, Place.advance_passes member, ?_⟩
              have described := describe_char inside
              rwa [Char.ofNat_toNat, ← Text.Utf8.char?_take read] at described
          · cases member
      · cases member
  | bytes set =>
      rw [Place.member?] at member
      split at member
      · next byte rest front =>
          split at member
          · next inside =>
              refine ⟨_, Place.advance_passes member, ?_⟩
              have described := describe_byte inside
              rw [UInt8.ofNat_toNat] at described
              rwa [front]
          · cases member
      · cases member

end Starts

/-! ## Expressions -/

open Starts

/-- Further branches keep what the starts before them describe. -/
theorem Expr.describe_startsOfAny {before : Starts} {taken : Bytes}
    (describes : before.Describe taken) (branches : List Expr) :
    (startsOfAny before branches).Describe taken := by
  induction branches generalizing before with
  | nil => exact describes
  | cons branch rest ih =>
      rw [startsOfAny]
      split
      · exact describe_none taken
      · exact ih (.union (.inl describes))

mutual

/-- An expression leads only to places behind a match that its starts describe. -/
theorem Expr.leads_starts (expr : Expr) : Place.Leads expr.ends expr.starts.Describe := by
  cases expr with
  | empty =>
      exact fun places last inside => ⟨last, inside, [], .refl last, describe_exactly []⟩
  | literal bytes =>
      intro places last reached
      obtain ⟨place, inside, taken⟩ := List.mem_filterMap.mp reached
      exact ⟨place, inside, bytes, Place.take?_passes taken,
        (describe_exactly bytes).keepFirst maxLength⟩
  | class_ members =>
      intro places last reached
      obtain ⟨place, inside, member⟩ := List.mem_filterMap.mp reached
      obtain ⟨taken, passes, describes⟩ := ofClass_describe member
      exact ⟨place, inside, taken, passes, describes.keepFirst maxLength⟩
  | look wanted =>
      intro places last reached
      exact ⟨last, (List.mem_filter.mp reached).1, [], .refl last, describe_exactly []⟩
  | repeated counts operand =>
      intro places last reached
      obtain ⟨place, inside, pieces, each, least, most, passes⟩ :=
        (Expr.leads_starts operand).repeatStep reached
      exact ⟨place, inside, _, passes, .ofRepeated each least most⟩
  | capture index body => exact Expr.leads_starts body
  | concat parts =>
      intro places last reached
      obtain ⟨place, inside, taken, passes, describes⟩ := Expr.leads_all parts places last reached
      exact ⟨place, inside, taken, passes, describes (describe_exactly [])⟩
  | alternation branches =>
      intro places last reached
      obtain ⟨place, inside, taken, passes, describes⟩ :=
        Expr.leads_any branches places last (Place.mem_of_mem_distinct reached)
      exact ⟨place, inside, taken, passes, describes (some [])⟩

theorem Expr.leads_all (parts : List Expr) :
    Place.Leads (endsOfAll parts) fun taken => ∀ {first : Starts} {before : Bytes},
      first.Describe before → (startsOfAll first parts).Describe (before ++ taken) := by
  cases parts with
  | nil =>
      refine fun places last inside => ⟨last, inside, [], .refl last, fun describes => ?_⟩
      simpa [startsOfAll] using describes
  | cons part rest =>
      intro places last reached
      obtain ⟨middle, between, more, back, goes⟩ :=
        Expr.leads_all rest (part.ends places) last reached
      obtain ⟨place, inside, taken, front, describes⟩ :=
        Expr.leads_starts part places middle between
      refine ⟨place, inside, taken ++ more, front.trans back, fun before => ?_⟩
      rw [startsOfAll]
      split
      · next inexact => exact before.of_isInexact inexact _
      · rw [← List.append_assoc]
        exact goes (before.cross describes)

theorem Expr.leads_any (branches : List Expr) :
    Place.Leads (endsOfAny branches) fun taken => ∀ before,
      (startsOfAny before branches).Describe taken := by
  cases branches with
  | nil => exact fun places last impossible => absurd impossible List.not_mem_nil
  | cons branch rest =>
      intro places last reached
      rcases List.mem_append.mp reached with here | later
      · obtain ⟨place, inside, taken, passes, describes⟩ :=
          Expr.leads_starts branch places last here
        refine ⟨place, inside, taken, passes, fun before => ?_⟩
        rw [startsOfAny]
        split
        · exact describe_none taken
        · exact describe_startsOfAny (.union (.inr describes)) rest
      · obtain ⟨place, inside, taken, passes, describes⟩ :=
          Expr.leads_any rest places last later
        refine ⟨place, inside, taken, passes, fun before => ?_⟩
        rw [startsOfAny]
        split
        · exact describe_none taken
        · exact describes _

end

end SeriesIndex.Pattern
