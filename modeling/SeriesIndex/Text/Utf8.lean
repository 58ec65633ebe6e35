import SeriesIndex.Bytes

/-!
# UTF-8

Reading one character off a byte string. Overlong forms, surrogates and code points above the
last are no characters. What is wrong is told as the number of bytes that no longer form the
start of a character, or as a string that ends inside one.
-/

namespace SeriesIndex.Text.Utf8

/-- What a byte string starts with. -/
inductive Head where
  | char (char : Char) (width : Nat)
  | broken (width : Nat)
  | cut
deriving DecidableEq, Repr

def isContinuation (byte : UInt8) : Bool := 0x80 ≤ byte && byte ≤ 0xBF

/-- The byte may follow the first byte of a character of three or four bytes. -/
def mayFollow (first second : UInt8) : Bool :=
  if first = 0xE0 then 0xA0 ≤ second && second ≤ 0xBF
  else if first = 0xED then 0x80 ≤ second && second ≤ 0x9F
  else if first = 0xF0 then 0x90 ≤ second && second ≤ 0xBF
  else if first = 0xF4 then 0x80 ≤ second && second ≤ 0x8F
  else isContinuation second

def payload (byte : UInt8) : Nat := byte.toNat % 64

def head : Bytes → Head
  | [] => .cut
  | first :: rest =>
      if first < 0x80 then .char (Char.ofNat first.toNat) 1
      else if first < 0xC2 then .broken 1
      else if first < 0xE0 then
        match rest with
        | [] => .cut
        | second :: _ =>
            if isContinuation second then
              .char (Char.ofNat (first.toNat % 32 * 64 + payload second)) 2
            else .broken 1
      else if first < 0xF0 then
        match rest with
        | [] => .cut
        | second :: rest =>
            if mayFollow first second then
              match rest with
              | [] => .cut
              | third :: _ =>
                  if isContinuation third then
                    .char (Char.ofNat ((first.toNat % 16 * 64 + payload second) * 64 +
                      payload third)) 3
                  else .broken 2
            else .broken 1
      else if first < 0xF5 then
        match rest with
        | [] => .cut
        | second :: rest =>
            if mayFollow first second then
              match rest with
              | [] => .cut
              | third :: rest =>
                  if isContinuation third then
                    match rest with
                    | [] => .cut
                    | fourth :: _ =>
                        if isContinuation fourth then
                          .char (Char.ofNat (((first.toNat % 8 * 64 + payload second) * 64 +
                            payload third) * 64 + payload fourth)) 4
                        else .broken 3
                  else .broken 2
            else .broken 1
      else .broken 1

/-- The character at the front and its width. -/
def char? (bytes : Bytes) : Option (Char × Nat) :=
  match head bytes with
  | .char char width => some (char, width)
  | _ => none

/-- Why a byte string is no text: where its longest valid start ends, and how many bytes there
are at fault unless the string ends inside a character. -/
structure Fault where
  index : Nat
  width : Option Nat
deriving DecidableEq, Repr

def Fault.message (fault : Fault) : String :=
  match fault.width with
  | some width => s!"invalid utf-8 sequence of {width} bytes from index {fault.index}"
  | none => s!"incomplete utf-8 byte sequence from index {fault.index}"

/-- The characters of a byte string that starts `index` bytes into a longer one. -/
def chars (index : Nat) : Bytes → Except Fault (List Char)
  | [] => .ok []
  | first :: rest =>
      match head (first :: rest) with
      | .char char width =>
          (chars (index + width) (rest.drop (width - 1))).map (char :: ·)
      | .broken width => .error ⟨index, some width⟩
      | .cut => .error ⟨index, none⟩
termination_by bytes => bytes.length
decreasing_by simp only [List.length_drop, List.length_cons]; omega

def decode (bytes : Bytes) : Except Fault String := (chars 0 bytes).map String.ofList

end SeriesIndex.Text.Utf8
