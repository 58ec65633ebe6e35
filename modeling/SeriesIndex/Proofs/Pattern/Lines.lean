import SeriesIndex.Proofs.Filter
import SeriesIndex.Proofs.Utf8

/-!
# Texts of members

A repeated class of characters spans a text exactly if every character of the text is a member. So
the pattern `.+` describes the texts of one line, that is those in which no line ends: a dot stands
for any character but a line feed.
-/

namespace SeriesIndex.Pattern

open Unicode Text.Utf8

namespace Place

/-! ## One character -/

theorem advance_of_length {width : Nat} {place : Place} (long : width ≤ place.after.length) :
    ∃ last, place.advance width = some last ∧ last.index = place.index + width := by
  induction width generalizing place with
  | zero => exact ⟨place, rfl, rfl⟩
  | succ width ih =>
      obtain ⟨index, before, after⟩ := place
      cases after with
      | nil => exact absurd long (Nat.not_succ_le_zero width)
      | cons byte rest =>
          have fewer : width ≤ rest.length := Nat.le_of_succ_le_succ long
          obtain ⟨last, advanced, number⟩ := @ih ⟨index + 1, byte :: before, rest⟩ fewer
          exact ⟨last, advanced, number.trans (Nat.add_right_comm index 1 width)⟩

variable {set : CharSet} {char : Char} {place last : Place} {rest : Bytes}

/-- A class takes the encoding of one of its members. -/
theorem member?_passes (taken : place.member? (.chars set) = some last) :
    ∃ char : Char, set.contains char.toNat = true ∧
      place.Passes (String.utf8EncodeChar char) last := by
  rw [member?] at taken
  split at taken
  · next char width read =>
      split at taken
      · next inside =>
          refine ⟨char, inside, ?_⟩
          rw [← char?_take read]
          exact advance_passes taken
      · cases taken
  · cases taken

theorem member?_encoded (next : place.after = String.utf8EncodeChar char ++ rest)
    (inside : set.contains char.toNat = true) :
    ∃ last, place.member? (.chars set) = some last ∧ last.after = rest ∧
      place.index < last.index := by
  have long : (String.utf8EncodeChar char).length ≤ place.after.length := by
    rw [next, List.length_append]
    exact Nat.le_add_right _ _
  have filled : 0 < (String.utf8EncodeChar char).length := by
    rw [String.length_utf8EncodeChar]
    exact Char.utf8Size_pos char
  obtain ⟨last, advanced, number⟩ := advance_of_length long
  have passes := advance_passes advanced
  rw [Passes, next, List.take_left] at passes
  refine ⟨last, ?_, (List.append_cancel_left passes).symm, by omega⟩
  rw [member?, next, char?_encoded]
  dsimp only
  rw [if_pos inside, advanced]

/-! ## Many characters -/

theorem leads_members (set : CharSet) :
    Leads (List.filterMap (member? (.chars set)))
      fun taken => ∃ char : Char, set.contains char.toNat = true ∧
        taken = String.utf8EncodeChar char := by
  intro places last reached
  obtain ⟨place, inside, taken⟩ := List.mem_filterMap.mp reached
  obtain ⟨char, member, passes⟩ := member?_passes taken
  exact ⟨place, inside, _, passes, char, member, rfl⟩

theorem mem_upTo_of_seen {step : List Place → List Place} {count : Nat} {seen newest : List Place}
    (inside : last ∈ seen) : last ∈ upTo step count seen newest := by
  induction count generalizing seen newest with
  | zero => exact inside
  | succ count ih =>
      rw [upTo]
      split
      · exact inside
      · exact ih (List.mem_append_left _ inside)

/-- Before members only there is a way to the end of the text, of one step for each. -/
theorem upTo_members {text : List Char} (members : ∀ char ∈ text, set.contains char.toNat = true)
    {count : Nat} (enough : text.length ≤ count)
    (ahead : place.after = text.flatMap String.utf8EncodeChar) {seen : List Place}
    (known : place ∈ seen) (earlier : ∀ other ∈ seen, other.index ≤ place.index) :
    ∃ last ∈ upTo (List.filterMap (member? (.chars set))) count seen [place], last.after = [] := by
  induction text generalizing place count seen with
  | nil => exact ⟨place, mem_upTo_of_seen known, ahead⟩
  | cons char text ih =>
      obtain ⟨here, later⟩ := List.forall_mem_cons.mp members
      obtain ⟨next, taken, behind, further⟩ := member?_encoded ahead here
      cases count with
      | zero => exact absurd enough (Nat.not_succ_le_zero _)
      | succ count =>
          have step : [place].filterMap (member? (.chars set)) = [next] := by
            rw [List.filterMap_cons_some taken, List.filterMap_nil]
          have new : ∀ other ∈ seen, other.index ≠ next.index := fun other old =>
            Nat.ne_of_lt (Nat.lt_of_le_of_lt (earlier other old) further)
          have fresh :
              [next].filter (fun place => !seen.any (·.index == place.index)) = [next] := by
            simpa using new
          rw [upTo, if_neg (by simp), step, fresh]
          refine ih later (Nat.le_of_succ_le_succ enough) behind
            (List.mem_append_right _ (List.mem_singleton_self next)) ?_
          intro other old
          rcases List.mem_append.mp old with old | last
          · exact Nat.le_of_lt (Nat.lt_of_le_of_lt (earlier other old) further)
          · exact Nat.le_of_eq (congrArg index (List.mem_singleton.mp last))

end Place

namespace Expr

theorem length_le_encoded (text : List Char) :
    text.length ≤ (text.flatMap String.utf8EncodeChar).length := by
  induction text with
  | nil => exact Nat.le_refl _
  | cons char text ih =>
      have filled : 0 < (String.utf8EncodeChar char).length := by
        rw [String.length_utf8EncodeChar]
        exact Char.utf8Size_pos char
      rw [List.flatMap_cons, List.length_append, List.length_cons]
      omega

/-- Pieces that are encodings of members are together the encoding of a text of members. -/
theorem text_of_pieces {set : CharSet} {pieces : List Bytes}
    (each : ∀ piece ∈ pieces, ∃ char : Char, set.contains char.toNat = true ∧
      piece = String.utf8EncodeChar char) :
    ∃ text : List Char, (∀ char ∈ text, set.contains char.toNat = true) ∧
      text.length = pieces.length ∧ pieces.flatten = text.flatMap String.utf8EncodeChar := by
  induction pieces with
  | nil => exact ⟨[], by simp, rfl, rfl⟩
  | cons piece pieces ih =>
      obtain ⟨⟨char, member, rfl⟩, rest⟩ := List.forall_mem_cons.mp each
      obtain ⟨text, members, length, whole⟩ := ih rest
      refine ⟨char :: text, List.forall_mem_cons.mpr ⟨member, members⟩, congrArg (· + 1) length, ?_⟩
      rw [List.flatten_cons, whole, List.flatMap_cons]

/-- One member or more span the texts that are not empty and hold nothing else. -/
theorem spans_members (set : CharSet) (greedy : Bool) (value : String) :
    (repeated ⟨1, none, greedy⟩ (.class_ (.chars set))).Spans (Bytes.ofText value) ↔
      value ≠ "" ∧ ∀ char ∈ value.toList, set.contains char.toNat = true := by
  rw [ofText_eq_encoded]
  constructor
  · intro spans
    obtain ⟨last, reached, ended⟩ := spans
    obtain ⟨place, first, pieces, each, least, -, passes⟩ :=
      (Place.leads_members set).repeatStep reached
    obtain ⟨text, members, length, whole⟩ := text_of_pieces each
    rw [List.mem_singleton.mp first, Place.Passes, ended, List.append_nil, whole] at passes
    have same : value.toList = text := encoded_injective passes
    refine ⟨?_, same ▸ members⟩
    rintro rfl
    rw [← length, ← same] at least
    exact absurd least (Nat.not_succ_le_zero 0)
  · rintro ⟨filled, members⟩
    cases shape : value.toList with
    | nil => exact absurd (String.toList_eq_nil_iff.mp shape) filled
    | cons char text =>
        rw [shape] at members
        obtain ⟨here, later⟩ := List.forall_mem_cons.mp members
        have ahead : (Place.start ((char :: text).flatMap String.utf8EncodeChar)).after =
            String.utf8EncodeChar char ++ text.flatMap String.utf8EncodeChar := rfl
        obtain ⟨next, taken, behind, -⟩ := Place.member?_encoded ahead here
        have step : [Place.start ((char :: text).flatMap String.utf8EncodeChar)].filterMap
            (Place.member? (.chars set)) = [next] := by
          rw [List.filterMap_cons_some taken, List.filterMap_nil]
        have enough : text.length ≤ Place.total [next] := by
          have := length_le_encoded text
          rw [Place.total, behind]
          omega
        obtain ⟨last, reached, ended⟩ := Place.upTo_members later enough behind
          (List.mem_singleton_self next) (by simp)
        refine ⟨last, ?_, ended⟩
        rw [ends, ends, Place.repeatStep, Place.exactly, Place.exactly, step]
        exact reached

end Expr

/-! ## One line -/

/-- Every character but the line feed. -/
def notLineFeed : CharSet := [⟨0, 9⟩, ⟨11, lastCodePoint⟩]

theorem notLineFeed_contains (char : Char) :
    notLineFeed.contains char.toNat = true ↔ char ≠ '\n' := by
  have valid : char.toNat < 0xD800 ∨ 0xDFFF < char.toNat ∧ char.toNat < 0x110000 := char.valid
  have last : char.toNat ≤ lastCodePoint := by
    rw [lastCodePoint]
    omega
  have feed : char = '\n' ↔ char.toNat = 10 := by rw [← Char.toNat_inj]; rfl
  rw [ne_eq, feed]
  simp only [notLineFeed, CharSet.contains, CharRange.contains, List.any_cons, List.any_nil,
    Bool.or_false, Bool.or_eq_true, Bool.and_eq_true, decide_eq_true_eq]
  omega

theorem parse_anyLine : Expr.parse true ".+".toList =
    .ok (.repeated ⟨1, none, true⟩ (.class_ (.chars notLineFeed))) :=
  rfl

/-- The pattern `.+` describes the texts that are not empty and hold no line feed. -/
theorem accepts_anyLine {pattern : Pattern} (compiled : compile false ".+" = .ok pattern)
    (value : String) :
    pattern.accepts (Bytes.ofText value) = true ↔ value ≠ "" ∧ '\n' ∉ value.toList := by
  rw [accepts_iff_spans compiled parse_anyLine, Expr.spans_members]
  simp only [notLineFeed_contains]
  refine and_congr_right fun _ => ⟨fun each inside => each _ inside rfl, ?_⟩
  rintro absent char inside rfl
  exact absent inside

theorem anyLine_rejects_empty {pattern : Pattern} (compiled : compile false ".+" = .ok pattern) :
    pattern.accepts [] = false :=
  Bool.eq_false_iff.mpr ((accepts_anyLine compiled "").not.mpr (by simp))

end SeriesIndex.Pattern
