import SeriesIndex.Bytes

/-!
# Compressed blocks

A block is a row of sequences: some literal bytes, then a copy of bytes already written. The
first byte of a sequence holds both lengths, each continued by further bytes when its four bits
are full; the last sequence has literals only. A block is stored after the length of its content
in four bytes, least significant first. Writing uses literals alone, which every reader accepts.
-/

namespace SeriesIndex.Compression

inductive BlockError where
  | endsEarly
  | literalsPastEnd
  | contentTooLong
  | copyFromNowhere
deriving DecidableEq, Repr

def BlockError.message : BlockError → String
  | endsEarly => "the block ends inside a sequence"
  | literalsPastEnd => "the literals reach past the end of the block"
  | contentTooLong => "the content is longer than stated"
  | copyFromNowhere => "a copy starts before the content"

namespace Block

/-- The rest of a length: the sum of the bytes up to the first below 255. -/
def continued : Bytes → Option (Nat × Bytes)
  | [] => none
  | byte :: rest =>
      if byte = 255 then (continued rest).map fun (length, tail) => (length + 255, tail)
      else some (byte.toNat, rest)

/-- A length whose four bits are given. -/
def length? (bits : Nat) (bytes : Bytes) : Option (Nat × Bytes) :=
  if bits = 15 then (continued bytes).map fun (length, tail) => (length + 15, tail)
  else some (bits, bytes)

theorem continued_shorter {bytes rest : Bytes} {length : Nat}
    (read : continued bytes = some (length, rest)) : rest.length < bytes.length := by
  induction bytes generalizing length with
  | nil => simp [continued] at read
  | cons byte tail ih =>
      unfold continued at read
      split at read
      · obtain ⟨⟨inner, innerRest⟩, found, same⟩ := Option.map_eq_some_iff.mp read
        cases same
        exact Nat.lt_succ_of_lt (ih found)
      · cases read
        exact Nat.lt_succ_self _

theorem length?_le {bits : Nat} {bytes rest : Bytes} {length : Nat}
    (read : length? bits bytes = some (length, rest)) : rest.length ≤ bytes.length := by
  unfold length? at read
  split at read
  · obtain ⟨⟨inner, innerRest⟩, found, same⟩ := Option.map_eq_some_iff.mp read
    cases same
    exact Nat.le_of_lt (continued_shorter found)
  · cases read
    exact Nat.le_refl _

/-- Appends `count` bytes, each the one `offset` places back. -/
def copyBack (offset : Nat) : Nat → Array UInt8 → Array UInt8
  | 0, content => content
  | count + 1, content =>
      copyBack offset count (content.push (content.getD (content.size - offset) 0))

/-- Reads the sequences of a block onto the content read so far, which may not grow above
`limit` bytes. -/
def sequences (limit : Nat) (content : Array UInt8) :
    Bytes → Except BlockError (Array UInt8)
  | [] => .error .endsEarly
  | token :: afterToken =>
      match _literals : length? (token.toNat / 16) afterToken with
      | none => .error .endsEarly
      | some (count, bytes) =>
          if bytes.length < count then .error .literalsPastEnd
          else if limit < content.size + count then .error .contentTooLong
          else
            let content := content ++ (bytes.take count).toArray
            match _parts : bytes.drop count with
            | [] => .ok content
            | [_] => .error .endsEarly
            | low :: high :: afterOffset =>
                let offset := low.toNat + 256 * high.toNat
                match _copy : length? (token.toNat % 16) afterOffset with
                | none => .error .endsEarly
                | some (more, rest) =>
                    if limit < content.size + (more + 4) then .error .contentTooLong
                    else if offset = 0 || content.size < offset then .error .copyFromNowhere
                    else sequences limit (copyBack offset (more + 4) content) rest
termination_by bytes => bytes.length
decreasing_by
  have := length?_le _literals
  have := length?_le _copy
  have size : (bytes.drop count).length = afterOffset.length + 2 := by rw [_parts]; rfl
  rw [List.length_drop] at size
  simp only [List.length_cons]
  omega

/-- The content of a block that comes after its length. -/
def decode (bytes : Bytes) : Except BlockError Bytes :=
  if bytes.length < 4 then .error .endsEarly
  else (sequences (Bytes.toNatLittle (bytes.take 4)) #[] (bytes.drop 4)).map Array.toList

/-- The bytes that continue a length. -/
def continuation (length : Nat) : Bytes :=
  List.replicate (length / 255) 255 ++ [UInt8.ofNat (length % 255)]

/-- Writes a content as literals. -/
def encode (content : Bytes) : Bytes :=
  let count := content.length
  let size := (Bytes.bigEndian 4 count).reverse
  if count < 15 then size ++ [UInt8.ofNat (count * 16)] ++ content
  else size ++ [240] ++ continuation (count - 15) ++ content

end Block

end SeriesIndex.Compression
