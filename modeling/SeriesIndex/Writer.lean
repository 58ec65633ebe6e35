import SeriesIndex.LabelRecord
import SeriesIndex.RecentMap
import SeriesIndex.Store

/-!
# Writers

A writer puts rows into a store. A series that is new gets the next identifier and a label
record; then each of its labels gets a posting for the bucket of the row's time. Two recent maps
spare the writer what it has just done: one of identifiers by series key, one of the postings
written.
-/

namespace SeriesIndex

/-- The postings of a series in a bucket. -/
structure PostingKey where
  tenant : Tenant
  bucket : UInt64
  id : UInt64
deriving DecidableEq, Repr

structure Writer where
  bucketWidth : UInt64
  nextId : UInt64
  known : RecentMap Bytes UInt64
  recent : RecentMap PostingKey Unit

namespace Writer

/-- The first identifier of a writer that starts at a time, in nanoseconds since 1970: the time
itself. It is 1 if the clock cannot tell the time, or tells one that is not later than 1970. -/
def firstIdAt (time : Option Int64) : UInt64 :=
  match time with
  | some nanoseconds => if 0 < nanoseconds then nanoseconds.toUInt64 else 1
  | none => 1

/-- A writer that gives its first series the given identifier. -/
def starting (firstId bucketWidth : UInt64) (recentCapacity : Nat) : Writer :=
  ⟨max bucketWidth 1, firstId, .empty recentCapacity, .empty recentCapacity⟩

def seriesKey (tenant : Tenant) (labels : List Label) : Bytes :=
  Key.series tenant (labels.map Label.toBytes)

/-- The postings of a series in a bucket, one for each label. -/
def postings (labels : List Label) (key : PostingKey) : List Bytes :=
  labels.map fun label =>
    Key.posting key.tenant label.toBytes.1 label.toBytes.2 key.bucket [key.id]

/-- What a writer works on. -/
abbrev State := Writer × Store

/-- The identifier of the series with a key, if there is one. -/
def lookUp (key : Bytes) : State → Except StoreError (Option UInt64) × State
  | (writer, store) =>
      match writer.known.use key with
      | (some id, known) => (.ok (some id), { writer with known := known }, store)
      | (none, _) =>
          match store.firstWithPrefix key with
          | (.error error, store) => (.error error, writer, store)
          | (.ok none, store) => (.ok none, writer, store)
          | (.ok (some item), store) =>
              match Key.takeWord (item.drop key.length) with
              | .error cause => (.error (.corrupt cause), writer, store)
              | .ok id =>
                  (.ok (some id), { writer with known := writer.known.put key id }, store)

/-- The identifier of the series with canonical labels, if it is registered. -/
def seriesId (tenant : Tenant) (labels : List Label) (state : State) :
    Except StoreError (Option UInt64) × State :=
  lookUp (seriesKey tenant labels) state

/-- Registers a series under the next identifier. -/
def register (tenant : Tenant) (labels : List Label) : State → Except StoreError UInt64 × State
  | (writer, store) =>
      let key := seriesKey tenant labels
      let id := writer.nextId
      let writer := { writer with nextId := id + 1 }
      match LabelRecord.encode labels with
      | .error error => (.error error, writer, store)
      | .ok record =>
          match store.add [key ++ Bytes.ofWord64 id, Key.labels tenant id ++ record] with
          | (.error error, store) => (.error error, writer, store)
          | (.ok (), store) =>
              (.ok id, { writer with known := writer.known.put key id }, store)

/-- The identifier of a series, which is registered if it is new. It is looked up twice before
that, since another writer may have registered it meanwhile. -/
def identify (tenant : Tenant) (labels : List Label) (state : State) :
    Except StoreError UInt64 × State :=
  match seriesId tenant labels state with
  | (.error error, state) => (.error error, state)
  | (.ok (some id), state) => (.ok id, state)
  | (.ok none, state) =>
      match seriesId tenant labels state with
      | (.error error, state) => (.error error, state)
      | (.ok (some id), state) => (.ok id, state)
      | (.ok none, state) => register tenant labels state

/-- The postings of the key have been written lately; that is a use of them. -/
def wasWritten (writer : Writer) (key : PostingKey) : Bool × Writer :=
  let (found, recent) := writer.recent.use key
  (found.isSome, { writer with recent := recent })

/-- Remembers that postings have been written. -/
def remember (writer : Writer) (keys : List PostingKey) : Writer :=
  { writer with recent := keys.foldl (fun recent key => recent.put key ()) writer.recent }

/-- Indexes a row and gives the identifier of its series. -/
def indexRow (tenant : Tenant) (row : Row) (state : State) :
    Except StoreError UInt64 × State :=
  if row.metric.isEmpty then (.error (.codec .noMetric), state)
  else
    match identify tenant row.canonicalLabels state with
    | (.error error, state) => (.error error, state)
    | (.ok id, writer, store) =>
        let key : PostingKey := ⟨tenant, Key.bucketStart row.time writer.bucketWidth, id⟩
        match writer.wasWritten key with
        | (true, writer) => (.ok id, writer, store)
        | (false, writer) =>
            match store.add (postings row.canonicalLabels key) with
            | (.error error, store) => (.error error, writer, store)
            | (.ok (), store) => (.ok id, writer.remember [key], store)

/-- What a batch has come to: the rows indexed, the postings to write and what they are of. -/
structure Batch where
  indexed : Nat
  items : List Bytes
  fresh : List PostingKey

/-- Registers the series of a row and adds its postings to a batch, unless they are in it or
have been written lately. A row without a metric is passed over. -/
def addToBatch (tenant : Tenant) (row : Row) (batch : Batch) (state : State) :
    Except StoreError Batch × State :=
  if row.metric.isEmpty then (.ok batch, state)
  else
    match identify tenant row.canonicalLabels state with
    | (.error error, state) => (.error error, state)
    | (.ok id, writer, store) =>
        let key : PostingKey := ⟨tenant, Key.bucketStart row.time writer.bucketWidth, id⟩
        let batch := { batch with indexed := batch.indexed + 1 }
        if batch.fresh.contains key then (.ok batch, writer, store)
        else
          match writer.wasWritten key with
          | (true, writer) => (.ok batch, writer, store)
          | (false, writer) =>
              (.ok { batch with
                items := batch.items ++ postings row.canonicalLabels key
                fresh := batch.fresh ++ [key] }, writer, store)

def addAllToBatch (tenant : Tenant) : List Row → Batch → State → Except StoreError Batch × State
  | [], batch, state => (.ok batch, state)
  | row :: rest, batch, state =>
      match addToBatch tenant row batch state with
      | (.error error, state) => (.error error, state)
      | (.ok batch, state) => addAllToBatch tenant rest batch state

/-- The order in which a set gives back the keys that were put into it, which may be any. -/
structure KeyOrder where
  arrange : List PostingKey → List PostingKey
  perm : ∀ keys, (arrange keys).Perm keys

/-- The keys come back in the order in which they were put in. -/
def KeyOrder.asSeen : KeyOrder := ⟨id, .refl⟩

/-- Indexes rows, with all their postings in one write, and counts those that have a metric. The
postings are then remembered in an order of their keys. -/
def indexRows (tenant : Tenant) (rows : List Row) (state : State)
    (order : KeyOrder := .asSeen) : Except StoreError Nat × State :=
  match addAllToBatch tenant rows ⟨0, [], []⟩ state with
  | (.error error, state) => (.error error, state)
  | (.ok batch, writer, store) =>
      match store.add batch.items with
      | (.error error, store) => (.error error, writer, store)
      | (.ok (), store) =>
          (.ok batch.indexed, writer.remember (order.arrange batch.fresh), store)

end Writer

/-- The labels of the series with an identifier, if there is one. -/
def Store.seriesLabels (store : Store) (tenant : Tenant) (id : UInt64) :
    Except StoreError (Option (List Label)) × Store :=
  let key := Key.labels tenant id
  match store.firstWithPrefix key with
  | (.error error, store) => (.error error, store)
  | (.ok none, store) => (.ok none, store)
  | (.ok (some item), store) =>
      ((LabelRecord.decode (item.drop key.length)).map some, store)

end SeriesIndex
