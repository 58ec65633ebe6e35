import SeriesIndex.Text.Utf8

/-!
# Storage errors

What can be wrong with stored bytes, with values to be stored, and with the place they are in.
-/

namespace SeriesIndex

/-- Stored bytes that do not have the form of a key or record. -/
inductive Corruption where
  | missingSeparator (separator : UInt8)
  | danglingEscape
  | unsupportedEscape (code : UInt8)
  | shortWord (length : Nat)
  | identifierLength (length : Nat)
  | shortRecord (length : Nat)
  | oddParts (count : Nat)
  | nameNotText (fault : Text.Utf8.Fault)
  | valueNotText (fault : Text.Utf8.Fault)
  | reported (reason : String)
deriving DecidableEq, Repr

/-- Values that cannot be encoded, or an encoding that does not hold the values it should. -/
inductive CodecFault where
  | noValues
  | noMetric
  | valueTooLong (length : Nat)
  | tooManyLabels (count : Nat)
  | unknownType (code : Nat)
  | undecodable (count length : Nat) (reason : String)
  | truncatedLength (index : Nat)
  | truncatedValue (index want held : Nat)
  | trailing (length count : Nat)
deriving DecidableEq, Repr

inductive StoreError where
  | io (reason : String)
  | corrupt (cause : Corruption)
  | codec (cause : CodecFault)
deriving DecidableEq, Repr

/-- A byte as two hexadecimal digits. -/
def Text.hexByte (byte : UInt8) : String :=
  String.ofList ['0', 'x', Nat.digitChar (byte.toNat / 16), Nat.digitChar (byte.toNat % 16)]

def Corruption.message : Corruption → String
  | missingSeparator separator => s!"missing separator {Text.hexByte separator}"
  | danglingEscape => "dangling escape char"
  | unsupportedEscape code => s!"unsupported escape code {Text.hexByte code}"
  | shortWord length => s!"expecting 8 bytes; got {length}"
  | identifierLength length =>
      s!"invalid identifier list length {length}; must be a positive multiple of 8"
  | shortRecord length => s!"label set record too short: {length} bytes"
  | oddParts count => s!"odd number of label parts: {count}"
  | nameNotText fault => s!"label name is not UTF-8: {fault.message}"
  | valueNotText fault => s!"label value is not UTF-8: {fault.message}"
  | reported reason => reason

def CodecFault.message : CodecFault → String
  | noValues => "values must contain at least one item"
  | noMetric => "row has no metric name"
  | valueTooLong length => s!"value too long: {length} bytes"
  | tooManyLabels count => s!"too many labels: {count}"
  | unknownType code => s!"unknown marshal type {code}"
  | undecodable count length reason =>
      s!"cannot decompress {count} values from {length} bytes: {reason}"
  | truncatedLength index => s!"truncated length for value #{index}"
  | truncatedValue index want held =>
      s!"truncated value #{index}: want {want} bytes, have {held}"
  | trailing length count => s!"{length} unexpected trailing bytes after {count} values"

def StoreError.message : StoreError → String
  | io reason => s!"IO error: {reason}"
  | corrupt cause => s!"Corrupt data: {cause.message}"
  | codec cause => s!"Codec error: {cause.message}"

end SeriesIndex
