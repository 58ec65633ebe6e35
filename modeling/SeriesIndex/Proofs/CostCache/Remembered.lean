import SeriesIndex.Proofs.CostCache
import SeriesIndex.Proofs.Filter

/-!
# What is remembered of costs

A count is remembered for a date, a tenant and a matcher. The key of its entry is made of the three
without a mark between them, and yet no two subjects share a key. So whatever counts were recorded
and looked up, a lookup finds the count recorded last for its own subject, or nothing; and it finds
it exactly if fewer other subjects than there is room for were recorded or found since its own was.
-/

namespace SeriesIndex

/-! ## Matchers and signatures -/

namespace MatchOp

theorem asking_eq (op : MatchOp) : asking op.isNegative op.isPattern = op := by
  cases op <;> rfl

theorem isNegative_asking (negative pattern : Bool) :
    (asking negative pattern).isNegative = negative := by
  cases negative <;> cases pattern <;> rfl

theorem isPattern_asking (negative pattern : Bool) :
    (asking negative pattern).isPattern = pattern := by
  cases negative <;> cases pattern <;> rfl

end MatchOp

namespace Matcher

/-- The operand is a pattern that accepts the empty value, so a filter for it is inverted. -/
def inverts (matcher : Matcher) : Bool :=
  matcher.op.isPattern &&
    match Pattern.compile false matcher.value with
    | .ok pattern => pattern.accepts []
    | .error _ => false

/-- The signature of the filters that stand for the matcher. -/
def signature (matcher : Matcher) : Bytes :=
  Filter.flagsOf matcher.op.isNegative matcher.op.isPattern matcher.inverts ::
    Key.name (Bytes.ofText matcher.name) ++ Bytes.ofText matcher.value

theorem signature_injective : Function.Injective signature := by
  rintro ⟨name, op, value⟩ ⟨otherName, otherOp, otherValue⟩ same
  obtain ⟨flags, rests⟩ := List.cons.inj same
  obtain ⟨negatives, patterns, -⟩ := Filter.flagsOf_inj flags
  obtain ⟨names, values⟩ := Key.name_append_inj rests
  obtain rfl : name = otherName := Bytes.ofText_injective names
  obtain rfl : value = otherValue := Bytes.ofText_injective values
  obtain rfl : op = otherOp := by
    rw [← op.asking_eq, negatives, patterns, otherOp.asking_eq]
  rfl

end Matcher

namespace Filter

/-- The matcher that a filter stands for: its label, operator and operand. -/
def matcher (filter : Filter) : Matcher := ⟨filter.name, filter.op, filter.text⟩

/-- A filter made of a matcher is inverted exactly if the operand says so, so its signature says no
more than the matcher does. -/
theorem Made.signature_eq {tenant : Tenant} {filter : Filter} (made : filter.Made tenant) :
    filter.signature = filter.matcher.signature := by
  have inverts : filter.inverted = filter.matcher.inverts := by
    cases made with
    | value name text negative => cases negative <;> rfl
    | pattern compiled =>
        obtain ⟨pattern, accepted, -, -, texts, isPattern, inverted, -⟩ := ofPattern_ok compiled
        rw [Matcher.inverts, matcher, op, MatchOp.isPattern_asking, isPattern, texts, accepted,
          inverted, Bool.true_and]
  rw [signature, Matcher.signature, ← inverts, matcher, op, MatchOp.isNegative_asking,
    MatchOp.isPattern_asking]
  rfl

end Filter

namespace CostCache

/-! ## Subjects and keys -/

/-- What a count is about. -/
structure Subject where
  date : UInt64
  tenant : Tenant
  matcher : Matcher
deriving DecidableEq

def Subject.key (subject : Subject) : Bytes :=
  Bytes.ofWord64 subject.date ++ Bytes.ofWord32 subject.tenant.account ++
    Bytes.ofWord32 subject.tenant.project ++ subject.matcher.signature

theorem Subject.key_injective : Function.Injective Subject.key := by
  rintro ⟨date, ⟨account, project⟩, matcher⟩
    ⟨other, ⟨otherAccount, otherProject⟩, otherMatcher⟩ same
  simp only [key, List.append_assoc] at same
  obtain ⟨dates, rests⟩ := List.append_inj same (by simp)
  obtain ⟨accounts, rests⟩ := List.append_inj rests (by simp)
  obtain ⟨projects, signatures⟩ := List.append_inj rests (by simp)
  obtain rfl : date = other := Bytes.ofWord64_injective dates
  obtain rfl : account = otherAccount := Bytes.ofWord32_injective accounts
  obtain rfl : project = otherProject := Bytes.ofWord32_injective projects
  obtain rfl : matcher = otherMatcher := Matcher.signature_injective signatures
  rfl

theorem key_eq {filter : Filter} {owner : Tenant} (made : filter.Made owner) (date : UInt64)
    (tenant : Tenant) : key date tenant filter = Subject.key ⟨date, tenant, filter.matcher⟩ := by
  rw [key, made.signature_eq]
  rfl

theorem count?_ofWord64 (count : UInt64) : count? (Bytes.ofWord64 count) = some count := by
  rw [count?, if_pos (Bytes.ofWord64_length count), Bytes.toWord64_ofWord64]

/-! ## Calls -/

inductive Request where
  | record (count : UInt64)
  | cachedCount
  | estimatedCost

/-- What is asked of remembered costs about a filter. -/
structure Call where
  date : UInt64
  tenant : Tenant
  filter : Filter
  request : Request

namespace Call

def subject (call : Call) : Subject := ⟨call.date, call.tenant, call.filter.matcher⟩

def run (costs : RecentCosts) (call : Call) : RecentCosts :=
  match call.request with
  | .record count => record costs call.date call.tenant call.filter count
  | .cachedCount => (cachedCount costs call.date call.tenant call.filter).2
  | .estimatedCost => (estimatedCost costs call.date call.tenant call.filter).2

/-- The count that the call records for a subject. -/
def recorded? (subject : Subject) (call : Call) : Option UInt64 :=
  match call.request with
  | .record count => if call.subject = subject then some count else none
  | .cachedCount | .estimatedCost => none

/-- The subject of the call, if a count for it is recorded or found. -/
def uses (costs : RecentCosts) (call : Call) : List Subject :=
  match call.request with
  | .record _ => [call.subject]
  | .cachedCount | .estimatedCost =>
      if (cachedCount costs call.date call.tenant call.filter).1.isSome then [call.subject] else []

end Call

/-- The costs that are remembered after calls, of which there were none before. -/
def after (capacity : Nat) (calls : List Call) : RecentCosts :=
  calls.foldl Call.run (.empty capacity)

/-- The count that was recorded last for a subject. -/
def lastRecorded (calls : List Call) (subject : Subject) : Option UInt64 :=
  calls.reverse.findSome? (Call.recorded? subject)

/-- The subjects for which counts were recorded or found, in the order of the calls. -/
def usesFrom (costs : RecentCosts) : List Call → List Subject
  | [] => []
  | call :: rest => call.uses costs ++ usesFrom (call.run costs) rest

/-! ## What calls leave -/

section Remembering

open RecentMap (usedSince)

variable {capacity : Nat} {calls : List Call} {uses : List Subject} {costs : RecentCosts}

theorem lastRecorded_concat (calls : List Call) (call : Call) (subject : Subject) :
    lastRecorded (calls ++ [call]) subject =
      (call.recorded? subject).or (lastRecorded calls subject) := by
  rw [lastRecorded, List.reverse_concat, List.findSome?_cons]
  cases call.recorded? subject with
  | none => rfl
  | some count => rfl

theorem usesFrom_concat (costs : RecentCosts) (calls : List Call) (call : Call) :
    usesFrom costs (calls ++ [call]) =
      usesFrom costs calls ++ call.uses (calls.foldl Call.run costs) := by
  induction calls generalizing costs with
  | nil => exact List.append_nil _
  | cons first rest ih =>
      rw [List.cons_append, usesFrom, usesFrom, ih, List.append_assoc, List.foldl_cons]

theorem cachedCount_fst (costs : RecentCosts) (date : UInt64) (tenant : Tenant) (filter : Filter) :
    (cachedCount costs date tenant filter).1 =
      (costs.map.peek? (key date tenant filter)).bind count? :=
  congrArg (·.bind count?) (costs.get_fst _)

/-- Costs as calls leave them: the subjects used last are held, each with the count that was
recorded last for it. -/
structure Remembers (capacity : Nat) (calls : List Call) (uses : List Subject)
    (costs : RecentCosts) : Prop where
  room : costs.map.capacity = max capacity 1
  order : costs.map.HoldsLast (uses.map Subject.key)
  counts : ∀ {subject : Subject} {value : Bytes}, costs.map.peek? subject.key = some value →
    ∃ count, lastRecorded calls subject = some count ∧ value = Bytes.ofWord64 count
  recorded : ∀ {subject : Subject},
    subject ∈ uses ↔ (lastRecorded calls subject).isSome = true

namespace Remembers

theorem start (capacity : Nat) : Remembers capacity [] [] (.empty capacity) where
  room := rfl
  order := RecentMap.holdsLast_empty capacity
  counts := nofun
  recorded := ⟨nofun, nofun⟩

/-- A lookup finds what was recorded last for its subject, unless as many others as there is room
for were used since. -/
theorem found (remembers : Remembers capacity calls uses costs) (subject : Subject) :
    (costs.map.peek? subject.key).bind count? =
      if (usedSince uses subject).card < max capacity 1 then lastRecorded calls subject
      else none := by
  have held : (costs.map.peek? subject.key).isSome = true ↔
      subject ∈ uses ∧ (usedSince uses subject).card < max capacity 1 := by
    rw [remembers.order.held_iff, List.mem_map_of_injective Subject.key_injective,
      RecentMap.usedSince_map Subject.key_injective,
      Finset.card_image_of_injective _ Subject.key_injective, remembers.room]
  cases looked : costs.map.peek? subject.key with
  | some value =>
      obtain ⟨count, last, rfl⟩ := remembers.counts looked
      rw [looked] at held
      rw [if_pos (held.mp rfl).2, last]
      exact count?_ofWord64 count
  | none =>
      rw [looked] at held
      split
      · next few =>
          have unused : subject ∉ uses := fun used => nomatch held.mpr ⟨used, few⟩
          rw [remembers.recorded, Option.not_isSome_iff_eq_none] at unused
          exact unused.symm
      · rfl

theorem record (remembers : Remembers capacity calls uses costs) (call : Call) (subject : Subject)
    (count : UInt64) (records : ∀ other, call.recorded? other =
      if subject = other then some count else none) :
    Remembers capacity (calls ++ [call]) (uses ++ [subject])
      (costs.set subject.key (Bytes.ofWord64 count)) where
  room := remembers.room
  order := by
    rw [List.map_append]
    exact remembers.order.put
  counts := by
    intro other value held
    rw [lastRecorded_concat, records]
    by_cases same : subject = other
    · subst same
      have room : 0 < costs.map.capacity := remembers.room ▸ Nat.lt_of_lt_of_le Nat.one_pos
        (Nat.le_max_right _ _)
      rw [if_pos rfl]
      exact ⟨count, rfl, Option.some.inj (held.symm.trans (RecentMap.peek?_put_self room))⟩
    · rw [if_neg same]
      exact remembers.counts
        (RecentMap.peek?_put_of_ne (fun keys => same (Subject.key_injective keys).symm) held)
  recorded := by
    intro other
    rw [lastRecorded_concat, records, List.mem_append, remembers.recorded, List.mem_singleton]
    by_cases same : subject = other
    · simp [same]
    · simp [same, Ne.symm same]

/-- A lookup records nothing, and uses its subject if it finds a count. -/
theorem look (remembers : Remembers capacity calls uses costs) (call : Call) (subject : Subject)
    (records : ∀ other, call.recorded? other = none) :
    Remembers capacity (calls ++ [call])
      (uses ++ if ((costs.map.peek? subject.key).bind count?).isSome then [subject] else [])
      (costs.get subject.key).2 := by
  have unchanged : ∀ other, lastRecorded (calls ++ [call]) other = lastRecorded calls other := by
    intro other
    rw [lastRecorded_concat, records, Option.none_or]
  cases looked : costs.map.peek? subject.key with
  | none =>
      have kept : (costs.get subject.key).2.map = costs.map :=
        (costs.get_map _).trans (RecentMap.use_of_missing looked)
      rw [Option.bind_none, Option.isSome_none, if_neg Bool.false_ne_true, List.append_nil]
      constructor
      · exact kept ▸ remembers.room
      · exact kept ▸ remembers.order
      · intro other value held
        rw [unchanged]
        exact remembers.counts (kept ▸ held)
      · intro other
        rw [unchanged]
        exact remembers.recorded
  | some value =>
      obtain ⟨count, last, rfl⟩ := remembers.counts looked
      rw [Option.bind_some, count?_ofWord64, Option.isSome_some, if_pos rfl]
      constructor
      · rw [costs.get_map, RecentMap.use_of_held looked]
        exact remembers.room
      · rw [costs.get_map, List.map_append]
        exact remembers.order.use looked
      · intro other value held
        rw [costs.get_map, RecentMap.peek?_use] at held
        rw [unchanged]
        exact remembers.counts held
      · intro other
        rw [unchanged, List.mem_append, List.mem_singleton, remembers.recorded]
        refine or_iff_left_of_imp ?_
        rintro rfl
        exact Option.isSome_of_eq_some last

/-- Each call leaves costs so. -/
theorem step (remembers : Remembers capacity calls uses costs) (call : Call)
    (made : call.filter.Made call.filter.tenant) :
    Remembers capacity (calls ++ [call]) (uses ++ call.uses costs) (call.run costs) := by
  have keyed := key_eq made call.date call.tenant
  obtain ⟨date, tenant, filter, request⟩ := call
  cases request with
  | record count =>
      have recorded := remembers.record ⟨date, tenant, filter, .record count⟩
        ⟨date, tenant, filter.matcher⟩ count fun _ => rfl
      rw [← keyed] at recorded
      exact recorded
  | cachedCount =>
      have looked := remembers.look ⟨date, tenant, filter, .cachedCount⟩
        ⟨date, tenant, filter.matcher⟩ fun _ => rfl
      rw [← keyed, ← cachedCount_fst] at looked
      exact looked
  | estimatedCost =>
      have looked := remembers.look ⟨date, tenant, filter, .estimatedCost⟩
        ⟨date, tenant, filter.matcher⟩ fun _ => rfl
      rw [← keyed, ← cachedCount_fst] at looked
      rw [Call.run]
      dsimp only
      rw [estimatedCost_eq]
      exact looked

end Remembers

/-- Whatever calls are made, they leave costs so. -/
theorem remembers_after (capacity : Nat) (calls : List Call)
    (made : ∀ call ∈ calls, call.filter.Made call.filter.tenant) :
    Remembers capacity calls (usesFrom (.empty capacity) calls) (after capacity calls) := by
  induction calls using List.reverseRecOn with
  | nil => exact .start capacity
  | append_singleton calls call ih =>
      obtain ⟨earlier, here⟩ := List.forall_mem_append.mp made
      have step := (ih earlier).step call (here call List.mem_cons_self)
      rw [usesFrom_concat, after, List.foldl_append]
      exact step

/-- After any calls about filters, on any dates and for any tenants, no more is remembered than
there is room for, and a lookup finds the count recorded last for its own date, tenant and matcher,
or nothing. It finds it exactly if fewer other subjects than there is room for were recorded or
found since its own was. -/
theorem cachedCount_after (capacity : Nat) {calls : List Call}
    (made : ∀ call ∈ calls, call.filter.Made call.filter.tenant) (date : UInt64) (tenant : Tenant)
    {filter : Filter} (own : filter.Made filter.tenant) :
    (after capacity calls).map.size ≤ max capacity 1 ∧
      (cachedCount (after capacity calls) date tenant filter).1 =
        if (usedSince (usesFrom (.empty capacity) calls) ⟨date, tenant, filter.matcher⟩).card <
            max capacity 1 then
          lastRecorded calls ⟨date, tenant, filter.matcher⟩
        else none := by
  have remembers := remembers_after capacity calls made
  constructor
  · exact remembers.room ▸ remembers.order.size_le
  · rw [cachedCount_fst, key_eq own]
    exact remembers.found _

end Remembering

/-! ## A sample -/

/-- The filter of `a="x"`, of `b="x"` or of `c="x"`. -/
def sampleFilter (name : String) : Filter := .ofValue ⟨0, 0⟩ name "x" false

/-- Counts for `a="x"` and `b="x"` are recorded, that of `a="x"` is found, and then one for `c="x"`
is recorded. -/
def sampleCalls : List Call :=
  [⟨0, ⟨0, 0⟩, sampleFilter "a", .record 5⟩, ⟨0, ⟨0, 0⟩, sampleFilter "b", .record 7⟩,
    ⟨0, ⟨0, 0⟩, sampleFilter "a", .estimatedCost⟩, ⟨0, ⟨0, 0⟩, sampleFilter "c", .record 9⟩]

theorem sampleFilter_made (name : String) : (sampleFilter name).Made (sampleFilter name).tenant :=
  .value name "x" false

theorem sampleCalls_made : ∀ call ∈ sampleCalls, call.filter.Made call.filter.tenant := by
  simp only [sampleCalls, List.forall_mem_cons]
  exact ⟨sampleFilter_made _, sampleFilter_made _, sampleFilter_made _, sampleFilter_made _, nofun⟩

/-- With room for two counts that of `b="x"` is forgotten, since the other two were used later. The
count of `a="x"` is known on its own date only. -/
theorem cachedCount_after_sample :
    (after 2 sampleCalls).map.size ≤ 2 ∧
      (cachedCount (after 2 sampleCalls) 0 ⟨0, 0⟩ (sampleFilter "a")).1 = some 5 ∧
      (cachedCount (after 2 sampleCalls) 0 ⟨0, 0⟩ (sampleFilter "b")).1 = none ∧
      (cachedCount (after 2 sampleCalls) 1 ⟨0, 0⟩ (sampleFilter "a")).1 = none := by
  have answers := fun date name => cachedCount_after 2 sampleCalls_made date ⟨0, 0⟩
    (sampleFilter_made name)
  refine ⟨(answers 0 "a").1, ?_, ?_, ?_⟩
  · rw [(answers 0 "a").2]
    decide +kernel
  · rw [(answers 0 "b").2]
    decide +kernel
  · rw [(answers 1 "a").2]
    decide +kernel

end CostCache

end SeriesIndex
