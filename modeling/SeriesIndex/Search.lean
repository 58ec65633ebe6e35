import SeriesIndex.CostCache
import SeriesIndex.Deadline
import SeriesIndex.IdentifierSet
import SeriesIndex.Search.Scan

/-!
# Searches

A search finds the series that pass every filter of a set and have postings in a time range. The
filters are ordered by cost. The first that is not negative is evaluated in full; each of the
others then narrows what was found: a negative one takes away what it matches, any other is
evaluated among what is left. Nothing is left to do as soon as nothing is left.
-/

namespace SeriesIndex

/-- What a search is given beside its question. -/
structure Search where
  bucketWidth : UInt64
  checkInterval : UInt32
  deadline : Deadline

/-- What became of a filter: how many identifiers it matched, and how many were left after it. -/
structure Evaluation where
  filter : String
  negative : Bool
  /-- The filter was evaluated among what earlier ones had left. -/
  restricted : Bool
  matched : Nat
  left : Nat
deriving DecidableEq, Repr

/-- The times asked for, and how many identifiers are collected for one filter. -/
structure Search.Window where
  first : UInt64
  last : UInt64
  limit : Nat

/-- What a search reads and changes. -/
structure Search.State (σ : Type) where
  scans : ScanState
  costs : σ
  evaluations : List Evaluation

namespace Search

/-- A search that a bucket width of zero does not stop. -/
def ofSettings (bucketWidth : UInt64) (checkInterval : UInt32) (deadline : Deadline) : Search :=
  ⟨max bucketWidth 1, checkInterval, deadline⟩

/-- The start of the first bucket of a window. -/
def firstBucket (search : Search) (window : Window) : UInt64 :=
  Key.bucketStart window.first search.bucketWidth

/-- The date under which costs of a window are remembered. -/
def date (search : Search) (window : Window) : UInt64 := window.first / search.bucketWidth

/-! ## Evaluating a filter -/

/-- Collects the postings of one listed value in the window. -/
def scanValue (search : Search) (filter : Filter) (window : Window)
    (among : Option IdentifierSet) (suffix : Bytes) (found : IdentifierSet) (state : ScanState) :
    Except SearchError IdentifierSet × ScanState :=
  let stem := filter.key ++ suffix ++ [Key.valueEnd]
  let start := stem ++ Bytes.ofWord64 (search.firstBucket window)
  let stop := stem ++ Bytes.ofWord64 window.last
  let visit := fun (item : Bytes) (found : IdentifierSet) =>
    if stop < item then .ok (.enough found)
    else
      match Key.takePosting (item.drop stem.length) with
      | .error cause =>
          .error (.scan .decodingPosting filter.render (.corrupt cause))
      | .ok (_, ids) => .ok (collect window.limit among ids found)
  scan ⟨search.deadline, search.checkInterval, window.limit,
    .scan .scanningPostings filter.render⟩ visit start found state

/-- Collects the postings of the listed values one after another. -/
def scanValues (search : Search) (filter : Filter) (window : Window)
    (among : Option IdentifierSet) : List Bytes → IdentifierSet → ScanState →
    Except SearchError IdentifierSet × ScanState
  | [], found, state => (.ok found, state)
  | suffix :: rest, found, state =>
      match scanValue search filter window among suffix found state with
      | (.error error, state) => (.error error, state)
      | (.ok found, state) =>
          if isSaturated window.limit among found then (.ok found, state)
          else scanValues search filter window among rest found state

/-- A posting in the window with a value that the filter wants. -/
def wanted (search : Search) (filter : Filter) (window : Window) (pattern : Pattern)
    (value : Bytes) (bucket : UInt64) : Bool :=
  search.firstBucket window ≤ bucket && bucket < window.last &&
    pattern.accepts value != filter.inverted

/-- Looks at every posting with the filter's key. -/
def scanAll (search : Search) (filter : Filter) (window : Window)
    (among : Option IdentifierSet) (pattern : Pattern) (state : ScanState) :
    Except SearchError IdentifierSet × ScanState :=
  let key := filter.key
  let labelLength := filter.labelKey.length
  let failed := fun activity cause =>
    SearchError.scan activity filter.render (StoreError.corrupt cause)
  let visit := fun (item : Bytes) (found : IdentifierSet) =>
    if !Bytes.startsWith item key then .ok (.enough found)
    else
      match Key.takeField Key.valueEnd (item.drop labelLength) with
      | .error cause => .error (failed .decodingValue cause)
      | .ok (value, tail) =>
          match Key.takePosting tail with
          | .error cause => .error (failed .decodingPosting cause)
          | .ok (bucket, ids) =>
              if search.wanted filter window pattern value bucket then
                .ok (collect window.limit among ids found)
              else .ok (.more found)
  scan ⟨search.deadline, search.checkInterval, window.limit,
    .scan .scanningValues filter.render⟩ visit key .empty state

/-- The identifiers of the postings that a filter selects, or those of them that are also in
another set. -/
def evaluate (search : Search) (filter : Filter) (window : Window)
    (among : Option IdentifierSet) (state : ScanState) :
    Except SearchError IdentifierSet × ScanState :=
  match filter.selection with
  | .listed [] => (.error (.noValues filter.render), state)
  | .listed _ => scanValues search filter window among filter.suffixes .empty state
  | .scanned _ pattern => scanAll search filter window among pattern state

variable {σ : Type} [CostStore σ]

/-- Evaluates a filter in full and remembers how many identifiers it has; after a failure it is
remembered as if the limit had been reached. -/
def measure (search : Search) (filter : Filter) (window : Window) (tenant : Tenant)
    (state : State σ) : Except SearchError IdentifierSet × State σ :=
  let (result, scans) := search.evaluate filter window none state.scans
  let count := match result with
    | .ok found => found.size
    | .error _ => window.limit
  (result,
    { state with
      scans := scans
      costs := CostCache.record state.costs (search.date window) tenant filter
        (UInt64.ofNat count) })

/-! ## The plan -/

/-- A filter with its expected cost. -/
abbrev Planned := UInt64 × Filter

/-- The cheaper filter comes first, of equally cheap ones that with the lesser signature. -/
def Planned.notAfter (left right : Planned) : Bool :=
  left.1 < right.1 || (left.1 == right.1 && !decide (right.2.signature < left.2.signature))

/-- The filters with their costs, in their order. -/
def withCosts (date : UInt64) (tenant : Tenant) : List Filter → σ → List Planned × σ
  | [], costs => ([], costs)
  | filter :: rest, costs =>
      let (cost, costs) := CostCache.estimatedCost costs date tenant filter
      let (planned, costs) := withCosts date tenant rest costs
      ((cost, filter) :: planned, costs)

/-- The filters by cost. -/
def plan (date : UInt64) (set : FilterSet) (costs : σ) : List Filter × σ :=
  let (planned, costs) := withCosts date set.tenant set.filters costs
  ((planned.mergeSort Planned.notAfter).map (·.2), costs)

/-- The first filter that is not negative, and the others in their order. -/
def takeSeed? : List Filter → Option (Filter × List Filter)
  | [] => none
  | filter :: rest =>
      if filter.negative then
        (takeSeed? rest).map fun (seed, others) => (seed, filter :: others)
      else some (filter, rest)

/-! ## The whole search -/

/-- Notes what became of a filter. -/
def State.note (state : State σ) (filter : Filter) (restricted : Bool) (matched left : Nat) :
    State σ :=
  { state with
    evaluations := state.evaluations ++
      [⟨filter.render, filter.negative, restricted, matched, left⟩] }

/-- Narrows what was found by the filters one after another. -/
def narrow (search : Search) (window : Window) (tenant : Tenant) :
    List Filter → IdentifierSet → State σ → Except SearchError IdentifierSet × State σ
  | [], found, state => (.ok found, state)
  | filter :: rest, found, state =>
      if filter.negative then
        match search.measure filter window tenant state with
        | (.error error, state) => (.error error, state)
        | (.ok matched, state) =>
            let left := found.difference matched
            let state := state.note filter false matched.size left.size
            if left.isEmpty then (.ok left, state)
            else search.narrow window tenant rest left state
      else
        match search.evaluate filter window (some found) state.scans with
        | (.error error, scans) => (.error error, { state with scans := scans })
        | (.ok matched, scans) =>
            let left := found.intersection matched
            let state := { state with scans := scans }.note filter true matched.size left.size
            if left.isEmpty then (.ok left, state)
            else search.narrow window tenant rest left state

/-- Evaluates the filters in the order of a plan. -/
def run (search : Search) (window : Window) (set : FilterSet) (filters : List Filter)
    (state : State σ) : Except SearchError IdentifierSet × State σ :=
  match takeSeed? filters with
  | none => (.error (.noPositive set.render), state)
  | some (seed, others) =>
      match search.measure seed window set.tenant state with
      | (.error error, state) => (.error error, state)
      | (.ok found, state) =>
          let state := state.note seed false found.size found.size
          if found.isEmpty then (.ok found, state)
          else search.narrow window set.tenant others found state

/-- The filter of a set that is about another tenant. -/
def stray? (set : FilterSet) : Option Filter :=
  set.filters.find? fun filter => !Bytes.startsWith filter.key set.key

/-- The series that pass every filter and have postings in the window: from the bucket of its
first time on, up to its last time. -/
def query (search : Search) (set : FilterSet) (window : Window) (state : State σ) :
    Except SearchError IdentifierSet × State σ :=
  let state := { state with evaluations := [] }
  match set.validate, stray? set with
  | .error error, _ => (.error error, state)
  | .ok (), some filter => (.error (.otherTenant filter.render), state)
  | .ok (), none =>
      if window.last < window.first then (.ok .empty, state)
      else
        let (filters, costs) := plan (search.date window) set state.costs
        search.run window set filters { state with costs := costs }

end Search

end SeriesIndex
