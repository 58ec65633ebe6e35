import SeriesIndex.StoreError

/-!
# Escaped fields

A key is made of fields of any length, each closed by a separator. The three bytes that could be
taken for a separator or an escape are written as two bytes, so that neither separator occurs
inside a field and the order of keys follows the order of fields.
-/

namespace SeriesIndex.Key

/-- Announces an escaped byte. -/
def escapeMark : UInt8 := 0

/-- Closes a value. -/
def valueEnd : UInt8 := 1

/-- Closes a name. -/
def nameEnd : UInt8 := 2

/-- The code of the byte zero; those of one and two follow. -/
def escapeBase : UInt8 := 0x30

def escapeByte (byte : UInt8) : Bytes :=
  if byte ≤ nameEnd then [escapeMark, escapeBase + byte] else [byte]

def escape (field : Bytes) : Bytes := field.flatMap escapeByte

def name (field : Bytes) : Bytes := escape field ++ [nameEnd]

def value (field : Bytes) : Bytes := escape field ++ [valueEnd]

/-- The field that an escaped one stands for. -/
def unescape : Bytes → Except Corruption Bytes
  | [] => .ok []
  | byte :: rest =>
      if byte = escapeMark then
        match rest with
        | [] => .error .danglingEscape
        | code :: rest =>
            if escapeBase ≤ code && code ≤ escapeBase + nameEnd then
              (unescape rest).map ((code - escapeBase) :: ·)
            else .error (.unsupportedEscape code)
      else (unescape rest).map (byte :: ·)

/-- Reads a field up to the first separator; gives the field and what follows the separator. -/
def takeField (separator : UInt8) (bytes : Bytes) : Except Corruption (Bytes × Bytes) :=
  match bytes.span (· ≠ separator) with
  | (_, []) => .error (.missingSeparator separator)
  | (escaped, _ :: tail) => (unescape escaped).map (·, tail)

end SeriesIndex.Key
