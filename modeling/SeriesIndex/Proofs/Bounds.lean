import SeriesIndex.Proofs.Key
import SeriesIndex.Proofs.Table
import SeriesIndex.Writer

/-!
# Readers that check their bounds

A reader of stored bytes takes parts of them: what lies behind an offset or before it, or the byte
at an index. Here each reader is written so that it gives nothing if such a part does not exist.
It always gives what the unchecked one gives, so no reader leaves the bytes it is given, whatever
they are.
-/

namespace SeriesIndex

namespace Bytes

/-- The bytes from an offset on, if there is such an offset. -/
def from? (bytes : Bytes) (offset : Nat) : Option Bytes :=
  if offset ≤ bytes.length then some (bytes.drop offset) else none

/-- The bytes before an offset, if there is such an offset. -/
def upTo? (bytes : Bytes) (offset : Nat) : Option Bytes :=
  if offset ≤ bytes.length then some (bytes.take offset) else none

theorem from?_of_le {bytes : Bytes} {offset : Nat} (inside : offset ≤ bytes.length) :
    bytes.from? offset = some (bytes.drop offset) := if_pos inside

theorem upTo?_of_le {bytes : Bytes} {offset : Nat} (inside : offset ≤ bytes.length) :
    bytes.upTo? offset = some (bytes.take offset) := if_pos inside

/-- What starts with something can be read from the end of that start on. -/
theorem from?_of_prefix {start bytes : Bytes} (begins : start <+: bytes) :
    bytes.from? start.length = some (bytes.drop start.length) :=
  from?_of_le begins.length_le

end Bytes

/-! ## Keys -/

namespace Key

/-- The bucket and the identifiers of a posting; the identifiers are read behind the bucket. -/
def takePosting? (tail : Bytes) : Option (Except Corruption (UInt64 × List UInt64)) :=
  match takeWord tail with
  | .error cause => some (.error cause)
  | .ok bucket => (tail.from? 8).map fun rest => (takeIds rest).map (bucket, ·)

theorem takePosting?_eq (tail : Bytes) : takePosting? tail = some (takePosting tail) := by
  unfold takePosting? takePosting
  cases taken : takeWord tail with
  | error cause => rfl
  | ok bucket =>
      have long : 8 ≤ tail.length := by
        unfold takeWord at taken
        split at taken
        · cases taken
        · next enough => exact Nat.not_lt.mp enough
      dsimp only
      rw [Bytes.from?_of_le long, Option.map_some]
      cases takeIds (tail.drop 8) with
      | error cause => rfl
      | ok ids => rfl

/-- The field that an escaped one stands for, from an index on. -/
def unescapeFrom? (escaped : Bytes) (index : Nat) : Option (Except Corruption Bytes) :=
  if index < escaped.length then do
    let byte ← escaped[index]?
    if byte = escapeMark then
      match escaped[index + 1]? with
      | none => some (.error .danglingEscape)
      | some code =>
          if escapeBase ≤ code && code ≤ escapeBase + nameEnd then
            (unescapeFrom? escaped (index + 2)).map (·.map ((code - escapeBase) :: ·))
          else some (.error (.unsupportedEscape code))
    else (unescapeFrom? escaped (index + 1)).map (·.map (byte :: ·))
  else some (.ok [])
termination_by escaped.length - index

theorem unescapeFrom?_eq (escaped : Bytes) (index : Nat) :
    unescapeFrom? escaped index = some (unescape (escaped.drop index)) := by
  -- an escape takes two bytes, so the induction is on how many are left
  induction left : escaped.length - index using Nat.strongRecOn generalizing index with
  | ind left ih =>
      rw [unescapeFrom?]
      by_cases inside : index < escaped.length
      · rw [if_pos inside, List.getElem?_eq_getElem inside, List.drop_eq_getElem_cons inside]
        dsimp only [Option.bind_eq_bind, Option.bind_some]
        rw [unescape.eq_def]
        dsimp only
        split
        · cases ahead : escaped[index + 1]? with
          | none =>
              rw [List.drop_eq_nil_of_le (List.getElem?_eq_none_iff.mp ahead)]
          | some code =>
              obtain ⟨within, rfl⟩ := List.getElem?_eq_some_iff.mp ahead
              rw [List.drop_eq_getElem_cons within]
              dsimp only
              split
              · rw [ih _ (by omega) (index + 2) rfl]
                rfl
              · rfl
        · rw [ih _ (by omega) (index + 1) rfl]
          rfl
      · rw [if_neg inside, List.drop_eq_nil_of_le (Nat.not_lt.mp inside)]
        rfl

/-- Reads a field up to the first separator. -/
def takeField? (separator : UInt8) (bytes : Bytes) :
    Option (Except Corruption (Bytes × Bytes)) :=
  match bytes.findIdx? (· = separator) with
  | none => some (.error (.missingSeparator separator))
  | some stop => do
      let escaped ← bytes.upTo? stop
      match ← unescapeFrom? escaped 0 with
      | .error cause => some (.error cause)
      | .ok field => (bytes.from? (stop + 1)).map fun tail => .ok (field, tail)

theorem takeField?_eq (separator : UInt8) (bytes : Bytes) :
    takeField? separator bytes = some (takeField separator bytes) := by
  have spans : bytes.span (· ≠ separator) =
      (bytes.takeWhile (· ≠ separator), bytes.dropWhile (· ≠ separator)) :=
    List.span_eq_takeWhile_dropWhile _ _
  rw [takeField, spans, takeField?, List.takeWhile_eq_take_findIdx_not,
    List.dropWhile_eq_drop_findIdx_not]
  have same : (fun byte => !decide (byte ≠ separator)) =
      (fun byte : UInt8 => decide (byte = separator)) := by
    funext byte
    simp
  rw [same]
  cases found : bytes.findIdx? (· = separator) with
  | none =>
      have absent : bytes.findIdx (· = separator) = bytes.length := by
        apply List.findIdx_eq_length.mpr
        intro byte inside
        simpa using List.findIdx?_eq_none_iff.mp found byte inside
      rw [absent, List.drop_length]
  | some stop =>
      obtain ⟨inside, first⟩ := List.findIdx?_eq_some_iff_findIdx_eq.mp found
      rw [first, List.drop_eq_getElem_cons inside]
      dsimp only
      rw [Bytes.upTo?_of_le (Nat.le_of_lt inside)]
      dsimp only [Option.bind_eq_bind, Option.bind_some]
      rw [unescapeFrom?_eq, List.drop_zero, Option.bind_some]
      cases unescape (bytes.take stop) with
      | error cause => rfl
      | ok field =>
          dsimp only
          rw [Bytes.from?_of_le inside]
          rfl

end Key

/-! ## Label records -/

namespace Values

/-- Takes `count` values off the front. -/
def split? (total index : Nat) : Nat → Bytes → Option (Except CodecFault (List Bytes))
  | 0, rest => some (if rest.isEmpty then .ok [] else .error (.trailing rest.length total))
  | count + 1, bytes =>
      if bytes.length < 4 then some (.error (.truncatedLength index))
      else do
        let length := Bytes.toNat [← bytes[0]?, ← bytes[1]?, ← bytes[2]?, ← bytes[3]?]
        let rest ← bytes.from? 4
        if rest.length < length then some (.error (.truncatedValue index length rest.length))
        else
          let value ← rest.upTo? length
          let rest ← rest.from? length
          (split? total (index + 1) count rest).map (·.map (value :: ·))

theorem split?_eq (total index count : Nat) (bytes : Bytes) :
    split? total index count bytes = some (split total index count bytes) := by
  induction count generalizing index bytes with
  | zero =>
      cases bytes with
      | nil => rfl
      | cons byte rest => rfl
  | succ count ih =>
      match bytes with
      | [] => rfl
      | [_] => rfl
      | [_, _] => rfl
      | [_, _, _] => rfl
      | a :: b :: c :: d :: rest =>
          have long : ¬ (a :: b :: c :: d :: rest).length < 4 := by simp
          have behind : Bytes.from? (a :: b :: c :: d :: rest) 4 = some rest :=
            Bytes.from?_of_le (Nat.not_lt.mp long)
          rw [split?, split, if_neg long, if_neg long, behind]
          simp only [List.getElem?_cons_zero, List.getElem?_cons_succ, Option.bind_eq_bind,
            Option.bind_some, List.take_succ_cons, List.take_zero, List.drop_succ_cons,
            List.drop_zero]
          split
          · rfl
          · next enough =>
              have inside := Nat.not_lt.mp enough
              rw [Bytes.upTo?_of_le inside, Bytes.from?_of_le inside, Option.bind_some,
                Option.bind_some, ih]
              rfl

def decode? (count : Nat) (bytes : Bytes) : Option (Except CodecFault (List Bytes)) :=
  match Compression.Block.decode bytes with
  | .error fault => some (.error (.undecodable count bytes.length fault.message))
  | .ok content => split? count 0 count content

theorem decode?_eq (count : Nat) (bytes : Bytes) :
    decode? count bytes = some (decode count bytes) := by
  unfold decode? decode
  cases Compression.Block.decode bytes with
  | error fault => rfl
  | ok content => exact split?_eq count 0 count content

end Values

namespace LabelRecord

def decode? (bytes : Bytes) : Option (Except StoreError (List Label)) :=
  if bytes.length < 5 then some (.error (.corrupt (.shortRecord bytes.length)))
  else do
    match Values.checkType (← bytes[0]?).toNat with
    | .error fault => some (.error (.codec fault))
    | .ok () =>
        let count := Bytes.toNat [← bytes[1]?, ← bytes[2]?, ← bytes[3]?, ← bytes[4]?]
        if count % 2 ≠ 0 then some (.error (.corrupt (.oddParts count)))
        else
          match ← Values.decode? count (← bytes.from? 5) with
          | .error fault => some (.error (.codec fault))
          | .ok parts => some ((pair parts).mapError .corrupt)

theorem decode?_eq (bytes : Bytes) : decode? bytes = some (decode bytes) := by
  rw [decode?]
  match bytes with
  | [] => rfl
  | [_] => rfl
  | [_, _] => rfl
  | [_, _, _] => rfl
  | [_, _, _, _] => rfl
  | code :: a :: b :: c :: d :: payload =>
      have long : ¬ (code :: a :: b :: c :: d :: payload).length < 5 := by simp
      have behind : Bytes.from? (code :: a :: b :: c :: d :: payload) 5 = some payload :=
        Bytes.from?_of_le (Nat.not_lt.mp long)
      rw [if_neg long, behind, decode]
      simp only [List.getElem?_cons_zero, List.getElem?_cons_succ, Option.bind_eq_bind,
        Option.bind_some]
      cases Values.checkType code.toNat with
      | error fault => rfl
      | ok =>
          dsimp only
          split
          · rfl
          · rw [Values.decode?_eq, Option.bind_some]
            cases Values.decode (Bytes.toNat [a, b, c, d]) payload with
            | error fault => rfl
            | ok parts => rfl

end LabelRecord

/-! ## Stores -/

/-- Only an item with the start is found. -/
theorem Store.firstWithPrefix_begins {store left : Store} {start item : Bytes}
    (found : store.firstWithPrefix start = (.ok (some item), left)) : start <+: item := by
  cases read : store.medium.read store.reads with
  | some error =>
      rw [firstWithPrefix_of_fault read] at found
      cases found
  | none =>
      rw [firstWithPrefix_of_read read] at found
      obtain ⟨first, -⟩ := Prod.mk.inj found
      exact (Table.first?_some (Except.ok.inj first)).2

/-- The labels of the series with an identifier, read behind the key of its record. -/
def Store.seriesLabels? (store : Store) (tenant : Tenant) (id : UInt64) :
    Option (Except StoreError (Option (List Label)) × Store) :=
  let key := Key.labels tenant id
  match store.firstWithPrefix key with
  | (.error error, store) => some (.error error, store)
  | (.ok none, store) => some (.ok none, store)
  | (.ok (some item), store) => do
      let record ← item.from? key.length
      let labels ← LabelRecord.decode? record
      some (labels.map some, store)

theorem Store.seriesLabels?_eq (store : Store) (tenant : Tenant) (id : UInt64) :
    store.seriesLabels? tenant id = some (store.seriesLabels tenant id) := by
  rw [seriesLabels?, seriesLabels]
  cases looked : store.firstWithPrefix (Key.labels tenant id) with
  | mk result left =>
      match result with
      | .error error => rfl
      | .ok none => rfl
      | .ok (some item) =>
          have begins := firstWithPrefix_begins looked
          dsimp only
          rw [Bytes.from?_of_prefix begins, Option.bind_eq_bind, Option.bind_some,
            LabelRecord.decode?_eq]
          rfl

end SeriesIndex
