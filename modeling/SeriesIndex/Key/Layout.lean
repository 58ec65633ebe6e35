import SeriesIndex.Key.Escape
import SeriesIndex.Tenant

/-!
# Key layout

There are three kinds of items, told apart by their first byte, which the tenant follows:

* a posting: name, value, bucket, identifiers;
* a series: its names and values in order, an end, its identifier;
* a label record: an identifier, then the labels it stands for.
-/

namespace SeriesIndex.Key

inductive Space where
  | posting
  | series
  | labels
deriving DecidableEq, Repr

def Space.code : Space → UInt8
  | posting => 7
  | series => 8
  | labels => 9

/-- The name under which the metric of a series is indexed. -/
def metricName : String := "__name__"

/-- What every key of a tenant in a space starts with. -/
def scope (space : Space) (tenant : Tenant) : Bytes :=
  space.code :: (Bytes.ofWord32 tenant.account ++ Bytes.ofWord32 tenant.project)

/-- What every posting of a label name starts with. -/
def namePrefix (tenant : Tenant) (label : Bytes) : Bytes := scope .posting tenant ++ name label

/-- A posting: these identifiers have this value of this label in this bucket. -/
def posting (tenant : Tenant) (label content : Bytes) (bucket : UInt64)
    (ids : List UInt64) : Bytes :=
  namePrefix tenant label ++ value content ++ Bytes.ofWord64 bucket ++
    ids.flatMap Bytes.ofWord64

/-- The key of a series, before its identifier. -/
def series (tenant : Tenant) (labels : List (Bytes × Bytes)) : Bytes :=
  scope .series tenant ++ labels.flatMap (fun (label, content) => name label ++ value content) ++
    [valueEnd]

/-- The key of a label record, before its labels. -/
def labels (tenant : Tenant) (id : UInt64) : Bytes :=
  scope .labels tenant ++ Bytes.ofWord64 id

/-- The first eight bytes as a word. -/
def takeWord (bytes : Bytes) : Except Corruption UInt64 :=
  if bytes.length < 8 then .error (.shortWord bytes.length)
  else .ok (Bytes.toWord64 (bytes.take 8))

/-- The words that a byte string spells in groups of eight. -/
def words : Bytes → List UInt64
  | a :: b :: c :: d :: e :: f :: g :: h :: rest =>
      Bytes.toWord64 [a, b, c, d, e, f, g, h] :: words rest
  | _ => []

/-- The identifiers at the end of a posting: at least one, in whole words. -/
def takeIds (bytes : Bytes) : Except Corruption (List UInt64) :=
  if bytes.isEmpty || bytes.length % 8 ≠ 0 then .error (.identifierLength bytes.length)
  else .ok (words bytes)

/-- The bucket and the identifiers of a posting, which follow its value. -/
def takePosting (bytes : Bytes) : Except Corruption (UInt64 × List UInt64) := do
  let bucket ← takeWord bytes
  let ids ← takeIds (bytes.drop 8)
  return (bucket, ids)

/-- The start of the bucket that a time lies in; without a width each time is its own bucket. -/
def bucketStart (time width : UInt64) : UInt64 :=
  if width = 0 then time else time - time % width

end SeriesIndex.Key
