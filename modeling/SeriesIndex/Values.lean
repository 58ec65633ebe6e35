import SeriesIndex.Compression.Block
import SeriesIndex.StoreError

/-!
# Lists of values

A list of byte strings is written as each length in four bytes followed by the string, and the
whole is compressed. The number of values is kept elsewhere, and reading with another number
fails: with an error, or, where the number is beyond the size of any list, by breaking off.
-/

namespace SeriesIndex.Values

/-- The code of this encoding, kept beside what it encodes. -/
def typeCode : UInt8 := 7

/-- The values one after another, each after its length. -/
def joined (values : List Bytes) : Bytes :=
  values.flatMap fun value => Bytes.bigEndian 4 value.length ++ value

/-- Takes `count` values off the front; `index` is the position of the first of them. -/
def split (total index : Nat) : Nat → Bytes → Except CodecFault (List Bytes)
  | 0, [] => .ok []
  | 0, rest => .error (.trailing rest.length total)
  | count + 1, bytes =>
      if bytes.length < 4 then .error (.truncatedLength index)
      else
        let length := Bytes.toNat (bytes.take 4)
        let rest := bytes.drop 4
        if rest.length < length then .error (.truncatedValue index length rest.length)
        else
          (split total (index + 1) count (rest.drop length)).map (rest.take length :: ·)

/-- Refuses a list without values, and the first value whose length does not go into four bytes. -/
def encode (values : List Bytes) : Except CodecFault Bytes :=
  if values.isEmpty then .error .noValues
  else
    match values.find? fun value => 0x100000000 ≤ value.length with
    | some value => .error (.valueTooLong value.length)
    | none => .ok (Compression.Block.encode (joined values))

def decode (count : Nat) (bytes : Bytes) : Except CodecFault (List Bytes) :=
  match Compression.Block.decode bytes with
  | .error fault => .error (.undecodable count bytes.length fault.message)
  | .ok content => split count 0 count content

/-- The most values that a list can have room for: each takes up 24 bytes, and no list more than
2⁶³ - 1. -/
def maxCount : Nat := 0x7fffffffffffffff / 24

/-- How a reading ends that gives no values. -/
inductive Failure where
  /-- It tells what is wrong. -/
  | told (fault : CodecFault)
  /-- It breaks off, since no list has room for so many values. -/
  | noRoom
deriving DecidableEq, Repr

/-- Reads so many values, for all of which room is made as soon as the block has been read. -/
def read (count : UInt64) (bytes : Bytes) : Except Failure (List Bytes) :=
  if maxCount < count.toNat ∧ (Compression.Block.decode bytes).isOk then .error .noRoom
  else (decode count.toNat bytes).mapError .told

/-- Refuses every code but that of this encoding. -/
def checkType (code : Nat) : Except CodecFault Unit :=
  if code = typeCode.toNat then .ok () else .error (.unknownType code)

end SeriesIndex.Values
