import SeriesIndex.Toml.Scalar

/-!
# Reading TOML

A document is a list of lines: blank ones and comments, headers that declare a table, and keys
with their values. Arrays and inline tables may be nested to a fixed depth.
-/

namespace SeriesIndex.Toml

/-- Passes over blanks, line breaks and comments; `inComment` tells whether one has begun. -/
def skipSpace (inComment : Bool) : List Char → List Char
  | [] => []
  | '\r' :: '\n' :: rest => skipSpace false rest
  | char :: rest =>
      if char = '\n' then skipSpace false rest
      else if inComment then if isPlain char then skipSpace true rest else char :: rest
      else if char = '#' then skipSpace true rest
      else if isBlank char then skipSpace false rest
      else char :: rest

/-- What follows the end of a line, before which there may be blanks and a comment. -/
def skipLineEnd? (text : List Char) : Option (List Char) :=
  let text := skipBlanks text
  let text := if text.head? = some '#' then text.dropWhile isPlain else text
  match text with
  | [] => some []
  | '\n' :: rest => some rest
  | '\r' :: '\n' :: rest => some rest
  | _ => none

/-! ## Keys -/

def isBareKey (char : Char) : Bool := char.isAlphanum || char = '_' || char = '-'

/-- One part of a key. -/
def takeName? (text : List Char) : Option (String × List Char) :=
  let name := text.takeWhile isBareKey
  if name.isEmpty then takeShortText? text
  else some (String.ofList name, text.dropWhile isBareKey)

/-- A deeper nesting and a longer key are refused. -/
def depthLimit : Nat := 79

/-- A key of at most `count` parts with dots between them. -/
def takeKey? : (count : Nat) → List Char → Option (List String × List Char)
  | 0, _ => none
  | count + 1, text => do
      let (name, rest) ← takeName? (skipBlanks text)
      match skipBlanks rest with
      | '.' :: rest => do
          let (names, rest) ← takeKey? count rest
          return (name :: names, rest)
      | rest => return ([name], rest)

/-- The parts before the last one, and that. -/
def splitKey? (names : List String) : Option (List String × String) :=
  names.getLast?.map (names.dropLast, ·)

/-! ## Values -/

/-- A reader of a value. -/
abbrev TakeValue := List Char → Option (Value × List Char)

/-- The items of an array up to its bracket; `fuel` bounds their number. -/
def takeItems? (takeItem : TakeValue) : (fuel : Nat) → List Char →
    Option (List Value × List Char)
  | 0, _ => none
  | fuel + 1, text =>
      match skipSpace false text with
      | ']' :: rest => some ([], rest)
      | text => do
          let (item, rest) ← takeItem text
          match skipSpace false rest with
          | ',' :: rest => do
              let (items, rest) ← takeItems? takeItem fuel rest
              return (item :: items, rest)
          | ']' :: rest => return ([item], rest)
          | _ => none

/-- A key and its value. -/
def takeEntry? (takeItem : TakeValue) (text : List Char) :
    Option (List String × Value × List Char) := do
  let (key, rest) ← takeKey? depthLimit text
  match rest with
  | '=' :: rest => do
      let (value, rest) ← takeItem (skipBlanks rest)
      return (key, value, rest)
  | _ => none

/-- The entries of an inline table up to its brace, added to those before them. -/
def takeEntries? (takeItem : TakeValue) : (fuel : Nat) → Entries → List Char →
    Option (Entries × List Char)
  | 0, _, _ => none
  | fuel + 1, entries, text => do
      let (key, value, rest) ← takeEntry? takeItem text
      let (path, name) ← splitKey? key
      let entries ← entries.assign path name value
      match skipBlanks rest with
      | ',' :: rest => takeEntries? takeItem fuel entries rest
      | '}' :: rest => return (entries, rest)
      | _ => none

def takeInline? (takeItem : TakeValue) (text : List Char) : Option (Entries × List Char) :=
  match skipBlanks text with
  | '}' :: rest => some ([], rest)
  | text => takeEntries? takeItem (text.length + 1) [] text

/-- A value with at most `depth` arrays and inline tables around its innermost part. -/
def takeValue? : (depth : Nat) → TakeValue
  | 0, text =>
      if text.head? = some '[' || text.head? = some '{' then none else takeScalar? text
  | depth + 1, text =>
      match text with
      | '[' :: rest =>
          (takeItems? (takeValue? depth) (rest.length + 1) rest).map
            fun (items, rest) => (.array items, rest)
      | '{' :: rest =>
          (takeInline? (takeValue? depth) rest).map
            fun (entries, rest) => (.table .inline entries, rest)
      | _ => takeScalar? text

/-! ## Documents -/

/-- What has been read of a document: its entries and the header in force. -/
structure Document where
  root : Entries
  header : List String

/-- Reads a header; two brackets declare one of several tables. -/
def takeHeader? (document : Document) (text : List Char) : Option (Document × List Char) :=
  match text with
  | '[' :: '[' :: rest => do
      let (key, rest) ← takeKey? depthLimit rest
      let (path, name) ← splitKey? key
      let root ← document.root.declareNext path name
      match rest with
      | ']' :: ']' :: rest => return (⟨root, key⟩, rest)
      | _ => none
  | '[' :: rest => do
      let (key, rest) ← takeKey? depthLimit rest
      let (path, name) ← splitKey? key
      let root ← document.root.declare path name
      match rest with
      | ']' :: rest => return (⟨root, key⟩, rest)
      | _ => none
  | _ => none

/-- Reads a line that is neither blank nor a comment. -/
def takeLine? (document : Document) (text : List Char) : Option (Document × List Char) :=
  if text.head? = some '[' then takeHeader? document text
  else do
    let (key, value, rest) ← takeEntry? (takeValue? depthLimit) text
    let (path, name) ← splitKey? key
    let root ← document.root.assignUnder document.header path name value
    return (⟨root, document.header⟩, rest)

/-- Reads the lines of a document; `fuel` bounds their number. -/
def takeLines? : (fuel : Nat) → Document → List Char → Option Entries
  | 0, _, _ => none
  | fuel + 1, document, text =>
      match skipSpace false text with
      | [] => some document.root
      | text => do
          let (document, rest) ← takeLine? document text
          let rest ← skipLineEnd? rest
          takeLines? fuel document rest

/-- The text without the mark of its byte order. -/
def skipMark : List Char → List Char
  | '\ufeff' :: rest => rest
  | text => text

/-- The entries of a whole document. -/
def parse? (text : String) : Option Entries :=
  let text := skipMark text.toList
  takeLines? (text.length + 1) ⟨[], []⟩ text

end SeriesIndex.Toml
