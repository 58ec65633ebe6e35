import SeriesIndex.Row
import SeriesIndex.Values

/-!
# Label records

A label record holds the labels of a series: the code of the encoding, the number of parts in
four bytes, and the names and values in turn.
-/

namespace SeriesIndex.LabelRecord

/-- The names and values in turn. -/
def parts (labels : List Label) : List Bytes :=
  labels.flatMap fun label => [label.toBytes.1, label.toBytes.2]

/-- Refuses labels whose number of parts does not go into four bytes. -/
def encode (labels : List Label) : Except StoreError Bytes :=
  if 0x100000000 ≤ (parts labels).length then .error (.codec (.tooManyLabels labels.length))
  else
    match Values.encode (parts labels) with
    | .error fault => .error (.codec fault)
    | .ok payload =>
        .ok (Values.typeCode :: Bytes.bigEndian 4 (parts labels).length ++ payload)

/-- The labels of names and values in turn. -/
def pair : List Bytes → Except Corruption (List Label)
  | name :: value :: rest =>
      match Text.Utf8.decode name, Text.Utf8.decode value with
      | .error fault, _ => .error (.nameNotText fault)
      | .ok _, .error fault => .error (.valueNotText fault)
      | .ok name, .ok value => (pair rest).map (⟨name, value⟩ :: ·)
  | _ => .ok []

def decode (bytes : Bytes) : Except StoreError (List Label) :=
  match bytes with
  | code :: a :: b :: c :: d :: payload =>
      match Values.checkType code.toNat with
      | .error fault => .error (.codec fault)
      | .ok () =>
          let count := Bytes.toNat [a, b, c, d]
          if count % 2 ≠ 0 then .error (.corrupt (.oddParts count))
          else
            match Values.decode count payload with
            | .error fault => .error (.codec fault)
            | .ok parts => (pair parts).mapError .corrupt
  | _ => .error (.corrupt (.shortRecord bytes.length))

end SeriesIndex.LabelRecord
