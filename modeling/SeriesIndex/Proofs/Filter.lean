import SeriesIndex.Filter
import SeriesIndex.Proofs.Key
import SeriesIndex.Proofs.Outcome
import SeriesIndex.Proofs.Pattern.Anchored

/-!
# What filters want

A filter made of a matcher wants exactly the values that it should: the one given, those its pattern
accepts, or if it is inverted those its pattern rejects. Looking only at listed values or at those
with a common start misses none of them. Filters that a set takes for the same are the same.
-/

namespace SeriesIndex

namespace Pattern

/-- A pattern accepts what the expression of its text spans, if the text stands alone. -/
theorem accepts_iff_spans {text : String} {textOnly : Bool} {pattern : Pattern} {bare : Expr}
    (compiled : compile false text = .ok pattern)
    (read : Expr.parse textOnly text.toList = .ok bare) {value : Bytes} :
    pattern.accepts value = true ↔ bare.Spans value := by
  unfold compile at compiled
  split at compiled
  · cases compiled
  · next whole parsed =>
      split at compiled
      · cases compiled
        rw [accepts, Expr.parse_anchored read parsed]
        exact Expr.occursIn_whole
      · cases compiled

theorem mem_of_accepts {text : String} {pattern : Pattern} {values : List Bytes}
    (compiled : compile false text = .ok pattern)
    (shape : Shape.ofText text = .finite values) {value : Bytes}
    (accepted : pattern.accepts value = true) : value ∈ values := by
  unfold Shape.ofText at shape
  split at shape
  · next bare read => exact ((accepts_iff_spans compiled read).mp accepted).of_finite shape
  · cases shape

theorem startsWith_of_accepts {text : String} {pattern : Pattern} {literal : Bytes}
    (compiled : compile false text = .ok pattern)
    (shape : Shape.ofText text = .startsWith literal) {value : Bytes}
    (accepted : pattern.accepts value = true) : literal <+: value := by
  unfold Shape.ofText at shape
  split at shape
  · next bare read => exact ((accepts_iff_spans compiled read).mp accepted).of_startsWith shape
  · cases shape

end Pattern

/-- The value is one of those listed, or the pattern accepts it; an inverted filter wants the values
that its pattern does not accept. -/
def Filter.Wants (filter : Filter) (content : Bytes) : Prop :=
  match filter.selection with
  | .listed values => content ∈ values
  | .scanned _ pattern => pattern.accepts content = !filter.inverted

/-- The filter can be evaluated: it lists a value, or all values that it wants have the common start
that it looks at. -/
def Filter.Sound (filter : Filter) : Prop :=
  match filter.selection with
  | .listed values => values ≠ []
  | .scanned start _ => ∀ content, filter.Wants content → start <+: content

namespace Filter

/-- The filters that a matcher can be turned into: about a value or about a pattern. -/
inductive Made (tenant : Tenant) : Filter → Prop where
  | value (name text : String) (negative : Bool) : Made tenant (ofValue tenant name text negative)
  | pattern {name text : String} {negative : Bool} {filter : Filter}
      (compiled : ofPattern tenant name text negative = .ok filter) : Made tenant filter

theorem made_of_matcher {tenant : Tenant} {matcher : Matcher} {filter : Filter}
    (made : ofMatcher tenant matcher = .ok filter) : Made tenant filter := by
  unfold ofMatcher at made
  dsimp only at made
  split at made
  · exact .pattern made
  · split at made
    · exact .pattern made
    · cases made
      exact .value _ _ _

/-- What is selected for a pattern is all that it accepts. -/
theorem select_ok (tenant : Tenant) (name : String) {text : String} (negative : Bool)
    {pattern : Pattern} (compiled : Pattern.compile false text = .ok pattern) :
    let filter : Filter := ⟨tenant, name, text, true, negative, false, select text pattern⟩
    filter.Sound ∧ ∀ content, filter.Wants content ↔ pattern.accepts content = true := by
  unfold select
  split
  · next values shape =>
      dsimp only
      split
      · exact ⟨fun content _ => List.nil_prefix, fun content => Iff.rfl⟩
      · next some_ =>
          have members : ∀ content,
              content ∈ sortedValues (values.filter pattern.accepts) ↔
                pattern.accepts content = true := fun content =>
            Ascending.mem_ofList.trans (List.mem_filter.trans
              ⟨And.right, fun accepted =>
                ⟨Pattern.mem_of_accepts compiled shape accepted, accepted⟩⟩)
          refine ⟨?_, members⟩
          intro nothing
          apply some_
          apply List.isEmpty_iff.mpr
          apply List.eq_nil_iff_forall_not_mem.mpr
          intro content inside
          have listed := (members content).mpr (List.mem_filter.mp inside).2
          rw [nothing] at listed
          exact List.not_mem_nil listed
  · next literal shape =>
      exact ⟨fun content accepted => Pattern.startsWith_of_accepts compiled shape accepted,
        fun content => Iff.rfl⟩
  · exact ⟨fun content _ => List.nil_prefix, fun content => Iff.rfl⟩

/-- A filter of a pattern wants the values that differ from the empty one in whether the pattern
accepts them, and counts for the opposite if the pattern accepts the empty one. -/
theorem ofPattern_ok {tenant : Tenant} {name text : String} {negative : Bool} {filter : Filter}
    (made : ofPattern tenant name text negative = .ok filter) :
    ∃ pattern, Pattern.compile false text = .ok pattern ∧ filter.tenant = tenant ∧
      filter.name = name ∧ filter.text = text ∧ filter.isPattern = true ∧
      filter.inverted = pattern.accepts [] ∧ filter.negative = (negative != pattern.accepts []) ∧
      filter.Sound ∧ ∀ content, filter.Wants content ↔
        pattern.accepts content = !pattern.accepts [] := by
  unfold ofPattern at made
  split at made
  · cases made
  · next pattern compiled =>
      refine ⟨pattern, compiled, ?_⟩
      split at made
      · next empty =>
          cases made
          refine ⟨rfl, rfl, rfl, rfl, empty.symm, by simp [empty], ?_, ?_⟩
          · intro content _
            exact List.nil_prefix
          · intro content
            rw [empty]
            exact Iff.rfl
      · next rejects =>
          have rejects : pattern.accepts [] = false := by simpa using rejects
          cases made
          obtain ⟨sound, wants⟩ := select_ok tenant name negative compiled
          refine ⟨rfl, rfl, rfl, rfl, rejects.symm, by simp [rejects], sound, ?_⟩
          intro content
          rw [wants content, rejects]
          rfl

theorem ofPattern_of_compiled (tenant : Tenant) (name : String) {text : String}
    (negative : Bool) {pattern : Pattern} (compiled : Pattern.compile false text = .ok pattern) :
    ∃ filter, ofPattern tenant name text negative = .ok filter := by
  rw [ofPattern, compiled]
  dsimp only
  split
  · exact ⟨_, rfl⟩
  · exact ⟨_, rfl⟩

theorem ofValue_sound (tenant : Tenant) (name text : String) (negative : Bool) :
    (ofValue tenant name text negative).Sound :=
  List.cons_ne_nil _ _

namespace Made

variable {tenant : Tenant} {filter other : Filter}

theorem tenant_eq (made : Made tenant filter) : filter.tenant = tenant := by
  cases made with
  | value name text negative => rfl
  | pattern compiled =>
      obtain ⟨_, _, same, _⟩ := ofPattern_ok compiled
      exact same

theorem sound (made : Made tenant filter) : filter.Sound := by
  cases made with
  | value name text negative => exact ofValue_sound tenant name text negative
  | pattern compiled =>
      obtain ⟨_, _, _, _, _, _, _, _, sound, _⟩ := ofPattern_ok compiled
      exact sound

/-- A filter is known by its operator, label and operand. -/
theorem known (made : Made tenant filter) :
    if filter.isPattern then
      ofPattern tenant filter.name filter.text (filter.negative != filter.inverted) = .ok filter
    else
      filter.inverted = false ∧
        filter = ofValue tenant filter.name filter.text filter.negative := by
  cases made with
  | value name text negative => exact ⟨rfl, rfl⟩
  | @pattern name text negative _ compiled =>
      obtain ⟨pattern, _, _, names, texts, isPattern, inverted, negatives, _⟩ :=
        ofPattern_ok compiled
      have asked : (filter.negative != filter.inverted) = negative := by
        rw [negatives, inverted]
        cases negative <;> cases pattern.accepts [] <;> rfl
      rw [if_pos isPattern, asked, names, texts]
      exact compiled

end Made

/-- The byte that tells apart what is asked, of what kind the operand is and whether the filter is
inverted. -/
def flagsOf (asksNot isPattern inverted : Bool) : UInt8 :=
  (if asksNot then 1 else 0) ||| (if isPattern then 2 else 0) ||| (if inverted then 4 else 0)

theorem flagsOf_inj : ∀ {asksNot isPattern inverted otherAsksNot otherIsPattern
    otherInverted : Bool},
    flagsOf asksNot isPattern inverted = flagsOf otherAsksNot otherIsPattern otherInverted →
      asksNot = otherAsksNot ∧ isPattern = otherIsPattern ∧ inverted = otherInverted := by
  decide

theorem flags_inj {filter other : Filter} (same : filter.flags = other.flags) :
    (filter.negative != filter.inverted) = (other.negative != other.inverted) ∧
      filter.isPattern = other.isPattern ∧ filter.inverted = other.inverted := flagsOf_inj same

/-- Filters of one tenant that are taken for the same are the same. -/
theorem Made.eq_of_signature {tenant : Tenant} {filter other : Filter}
    (made : Made tenant filter) (otherMade : Made tenant other)
    (same : filter.signature = other.signature) : filter = other := by
  obtain ⟨flags, rests⟩ := List.cons.inj same
  obtain ⟨asked, patterns, inverteds⟩ := flags_inj flags
  obtain ⟨names, texts⟩ := Key.name_append_inj rests
  have first := made.known
  have second := otherMade.known
  rw [← patterns, ← Bytes.ofText_injective names, ← Bytes.ofText_injective texts] at second
  split at first
  · next pattern =>
      rw [if_pos pattern, ← asked] at second
      exact Except.ok.inj (first.symm.trans second)
  · next value =>
      rw [if_neg value] at second
      have negatives : filter.negative = other.negative := by
        simpa [first.1, second.1] using asked
      exact first.2.trans (negatives ▸ second.2.symm)

end Filter

namespace FilterSet

/-- The sets that filters are added to, from the empty one on. -/
inductive Built : FilterSet → Prop where
  | empty (tenant : Tenant) : Built (empty tenant)
  | add {set next : FilterSet} {matcher : Matcher} (built : Built set)
      (added : set.add matcher = .ok next) : Built next

theorem add_ok {set next : FilterSet} {matcher : Matcher} (added : set.add matcher = .ok next) :
    ∃ filter, Filter.ofMatcher set.tenant matcher = .ok filter ∧ next = set.insert filter := by
  unfold add at added
  cases made : Filter.ofMatcher set.tenant matcher with
  | error fault =>
      rw [made] at added
      cases added
  | ok filter =>
      rw [made] at added
      cases added
      exact ⟨filter, rfl, rfl⟩

theorem insert_tenant (set : FilterSet) (filter : Filter) :
    (set.insert filter).tenant = set.tenant := by
  unfold insert
  split <;> rfl

/-- Adding a filter changes nothing but that it is there. -/
theorem mem_insert {set : FilterSet} {filter other : Filter}
    (made : ∀ filter ∈ set.filters, filter.Made set.tenant) (new : filter.Made set.tenant) :
    other ∈ (set.insert filter).filters ↔ other = filter ∨ other ∈ set.filters := by
  unfold insert
  split
  · next known =>
      obtain ⟨old, inside, same⟩ := List.any_eq_true.mp known
      have equal : old = filter := (made old inside).eq_of_signature new (by simpa using same)
      exact ⟨.inr, fun found => found.elim (fun same => same ▸ equal ▸ inside) id⟩
  · simp [or_comm]

theorem Built.made {set : FilterSet} (built : Built set) :
    ∀ filter ∈ set.filters, filter.Made set.tenant := by
  induction built with
  | empty tenant => exact fun _ impossible => absurd impossible List.not_mem_nil
  | add _ added ih =>
      obtain ⟨filter, made, rfl⟩ := add_ok added
      intro other inside
      rw [insert_tenant]
      rcases (mem_insert ih (Filter.made_of_matcher made)).mp inside with rfl | old
      · exact Filter.made_of_matcher made
      · exact ih other old

/-- A set has each filter once. -/
theorem Built.nodup {set : FilterSet} (built : Built set) : set.filters.Nodup := by
  induction built with
  | empty tenant => exact List.nodup_nil
  | add _ added ih =>
      obtain ⟨filter, -, rfl⟩ := add_ok added
      unfold insert
      split
      · exact ih
      · next new =>
          refine List.nodup_append.mpr ⟨ih, List.pairwise_singleton _ filter, ?_⟩
          rintro other inside _ last rfl
          obtain rfl := List.mem_singleton.mp last
          exact new (List.any_eq_true.mpr ⟨other, inside, by simp⟩)

/-- A set made of matchers has the filter of each of them and no other. -/
theorem addAll_ok {set next : FilterSet} {matchers : List Matcher} (built : Built set)
    (added : set.addAll matchers = .ok next) :
    Built next ∧ next.tenant = set.tenant ∧ ∀ filter, filter ∈ next.filters ↔
      filter ∈ set.filters ∨
        ∃ matcher ∈ matchers, Filter.ofMatcher set.tenant matcher = .ok filter := by
  induction matchers generalizing set with
  | nil =>
      cases added
      exact ⟨built, rfl, fun filter => by simp⟩
  | cons matcher rest ih =>
      obtain ⟨between, first, later⟩ := bind_ok.mp added
      obtain ⟨allBuilt, tenants, members⟩ := ih (.add built first) later
      obtain ⟨filter, made, rfl⟩ := add_ok first
      rw [insert_tenant] at tenants members
      refine ⟨allBuilt, tenants, ?_⟩
      intro other
      rw [members other, mem_insert built.made (Filter.made_of_matcher made)]
      simp only [List.mem_cons, exists_eq_or_imp]
      constructor
      · rintro ((rfl | old) | later)
        · exact .inr (.inl made)
        · exact .inl old
        · exact .inr (.inr later)
      · rintro (old | here | later)
        · exact .inl (.inr old)
        · exact .inl (.inl (Except.ok.inj (here.symm.trans made)))
        · exact .inr later

/-- Every matcher of a set has been made into a filter. -/
theorem compiled_of_addAll {set next : FilterSet} {matchers : List Matcher}
    (added : set.addAll matchers = .ok next) :
    ∀ matcher ∈ matchers, ∃ filter, Filter.ofMatcher set.tenant matcher = .ok filter := by
  induction matchers generalizing set with
  | nil => exact fun _ impossible => absurd impossible List.not_mem_nil
  | cons matcher rest ih =>
      obtain ⟨between, first, later⟩ := bind_ok.mp added
      obtain ⟨filter, made, rfl⟩ := add_ok first
      refine List.forall_mem_cons.mpr ⟨⟨filter, made⟩, ?_⟩
      rw [← insert_tenant set filter]
      exact ih later

theorem ofMatchers_ok {tenant : Tenant} {matchers : List Matcher} {set : FilterSet}
    (made : ofMatchers tenant matchers = .ok set) :
    Built set ∧ set.tenant = tenant ∧ set.validate = .ok () ∧
      (∀ matcher ∈ matchers, ∃ filter, Filter.ofMatcher tenant matcher = .ok filter) ∧
      ∀ filter, filter ∈ set.filters ↔
        ∃ matcher ∈ matchers, Filter.ofMatcher tenant matcher = .ok filter := by
  obtain ⟨whole, added, checked⟩ := bind_ok.mp made
  obtain ⟨⟨⟩, valid, same⟩ := bind_ok.mp checked
  cases same
  obtain ⟨built, tenants, members⟩ := addAll_ok (.empty tenant) added
  refine ⟨built, tenants, valid, compiled_of_addAll added, ?_⟩
  intro filter
  exact (members filter).trans (or_iff_right List.not_mem_nil)

end FilterSet

end SeriesIndex
