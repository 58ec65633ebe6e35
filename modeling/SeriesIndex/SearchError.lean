import SeriesIndex.Pattern
import SeriesIndex.StoreError
import SeriesIndex.Text.Duration
import SeriesIndex.Text.Quoted

/-!
# Search errors

What ends a search, or keeps one from starting.
-/

namespace SeriesIndex

/-- What a scan was doing. -/
inductive ScanActivity where
  | scanningPostings
  | scanningValues
  | decodingPosting
  | decodingValue
deriving DecidableEq, Repr

def ScanActivity.text : ScanActivity → String
  | scanningPostings => "scanning postings"
  | scanningValues => "scanning tag values"
  | decodingPosting => "decoding posting"
  | decodingValue => "decoding tag value"

inductive SearchError where
  | noFilters
  | noPositive (filters : String)
  | badPattern (label text : String) (refusal : Pattern.Refusal)
  | scan (activity : ScanActivity) (filter : String) (cause : StoreError)
  | deadline (timeout : Nat)
  | noValues (filter : String)
  | otherTenant (filter : String)
  | store (cause : StoreError)
deriving DecidableEq, Repr

def SearchError.message : SearchError → String
  | noFilters => "Invalid filter set: at least one tag filter is required"
  | noPositive filters => s!"Invalid filter set: {filters} has no positive filter"
  | badPattern label text refusal =>
      "Invalid tag filter: cannot compile regex " ++ Text.quoted text ++ " for label " ++
        Text.quoted label ++ ": " ++ refusal.message
  | scan activity filter cause =>
      s!"Cursor error while {activity.text} for filter {filter}: {cause.message}"
  | deadline timeout => s!"Search deadline of {Text.Duration.render timeout} exceeded"
  | noValues filter => s!"Unsupported filter shape: filter {filter} has no or-suffixes"
  | otherTenant filter =>
      s!"Internal invariant violated: prefix of filter {filter} " ++
        "lies outside the tenant prefix of its set"
  | store cause => s!"Storage error: {cause.message}"

end SeriesIndex
