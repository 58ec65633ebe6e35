/-!
# Byte strings

Every key and every record of the index is a list of bytes. This module holds what
the other modules share of them: the bytes of texts, and numbers in base 256. Byte strings are
compared lexicographically, a proper start of a string before the string.
-/

namespace SeriesIndex

abbrev Bytes := List UInt8

namespace Bytes

def startsWith (whole start : Bytes) : Bool := start.isPrefixOf whole

/-- The bytes of a text in UTF-8. -/
def ofText (text : String) : Bytes := text.toByteArray.data.toList

/-- A number in `width` bytes, most significant byte first. -/
def bigEndian : (width value : Nat) → Bytes
  | 0, _ => []
  | width + 1, value =>
      UInt8.ofNat (value / Nat.pow 256 width) :: bigEndian width (value % Nat.pow 256 width)

/-- The number that a byte string spells in base 256, most significant byte first. -/
def toNat (bytes : Bytes) : Nat :=
  bytes.foldl (fun value byte => value * 256 + byte.toNat) 0

/-- The number that a byte string spells in base 256, least significant byte first. -/
def toNatLittle (bytes : Bytes) : Nat :=
  bytes.foldr (fun byte value => value * 256 + byte.toNat) 0

/-- A 32-bit word in four bytes. -/
def ofWord32 (word : UInt32) : Bytes := bigEndian 4 word.toNat

/-- A 64-bit word in eight bytes. -/
def ofWord64 (word : UInt64) : Bytes := bigEndian 8 word.toNat

/-- The 64-bit word that eight bytes spell. -/
def toWord64 (bytes : Bytes) : UInt64 := UInt64.ofNat (toNat bytes)

end Bytes

end SeriesIndex
