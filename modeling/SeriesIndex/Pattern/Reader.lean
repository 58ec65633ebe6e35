import SeriesIndex.Pattern.Written
import SeriesIndex.Text.Class
import SeriesIndex.Unicode.Table

/-!
# Reading patterns

A pattern text is read from left to right with a stack of the groups that are open. Under the
flag that ignores blanks, white space and comments between the parts of a pattern are skipped.
-/

namespace SeriesIndex.Pattern

open Text

/-- Skips white space, and comments up to the end of their line. -/
def skipBlanks (inComment : Bool) : List Char → List Char
  | [] => []
  | char :: rest =>
      if inComment then skipBlanks (char != '\n') rest
      else if isWhitespace char then skipBlanks false rest
      else if char = '#' then skipBlanks true rest
      else char :: rest

/-- Skips blanks if they are ignored. -/
def skip (ignore : Bool) (text : List Char) : List Char :=
  if ignore then skipBlanks false text else text

/-! ## Counts -/

/-- The digits at the front, with ignored blanks between them. -/
def digits (ignore : Bool) : Nat → List Char → List Char × List Char
  | 0, text => ([], text)
  | fuel + 1, text =>
      match text with
      | char :: rest =>
          if char.isDigit then
            let (more, rest) := digits ignore fuel (skip ignore rest)
            (char :: more, rest)
          else ([], text)
      | [] => ([], [])

/-- A 32-bit decimal number with white space around it; nothing if there are no digits. -/
def count? (ignore : Bool) (text : List Char) : Except Fault (Option Nat × List Char) :=
  let (digits, rest) := digits ignore text.length (text.dropWhile isWhitespace)
  let rest := skip ignore (rest.dropWhile isWhitespace)
  let rest := if ignore then rest else rest.dropWhile isWhitespace
  let value := digits.foldl (fun value digit => value * 10 + (digit.toNat - 48)) 0
  if digits.isEmpty then .ok (none, rest)
  else if value < 0x100000000 then .ok (some value, rest)
  else .error .repetitionCount

def count (ignore : Bool) (text : List Char) : Except Fault (Nat × List Char) := do
  match ← count? ignore text with
  | (some value, rest) => return (value, rest)
  | (none, _) => .error .repetitionCount

/-- The counts between braces, from behind the opening one. -/
def bounds (ignore : Bool) (text : List Char) : Except Fault ((Nat × Option Nat) × List Char) := do
  let text := skip ignore text
  if text.isEmpty then .error .repetitionCount
  let (least, rest) ← count ignore text
  match rest with
  | '}' :: rest => return ((least, some least), rest)
  | ',' :: rest =>
      match skip ignore rest with
      | '}' :: rest => return ((least, none), rest)
      | rest =>
          let (most, rest) ← count ignore rest
          match rest with
          | '}' :: rest =>
              if least ≤ most then return ((least, some most), rest)
              else .error .repetitionCount
          | _ => .error .repetitionCount
  | _ => .error .repetitionCount

/-! ## Escapes -/

/-- What a single construct outside of groups and classes can be. -/
inductive Construct where
  | literal (written : Literal)
  | assertion (place : Assertion)
  | dot
  | property (class_ : PropertyClass)
  | perl (class_ : PerlClass)

/-- The characters with a meaning of their own somewhere in a pattern. -/
def isMeta (char : Char) : Bool :=
  ['\\', '.', '+', '*', '?', '(', ')', '|', '[', ']', '{', '}', '^', '$', '#', '&', '-',
    '~'].contains char

/-- A backslash may stand before the character although it has no meaning of its own. -/
def isEscapable (char : Char) : Bool :=
  char.toNat < 0x80 && !char.isAlphanum && char != '<' && char != '>'

/-- The character with a code point, if it is one. -/
def charOf? (code : Nat) : Option Char :=
  if h : code.isValidChar then some (Char.ofNatAux code h) else none

/-- So many hexadecimal digits. -/
def fixedHex (ignore : Bool) : Nat → Nat → List Char → Except Fault (Nat × List Char)
  | 0, value, text => .ok (value, text)
  | width + 1, value, text =>
      match text with
      | [] => .error .endsEarly
      | char :: rest =>
          match Unicode.hexDigit? char with
          | none => .error .escape
          | some digit => fixedHex ignore width (value * 16 + digit) (skip ignore rest)

/-- Hexadecimal digits up to a closing brace; a value above every code point stays so. -/
def bracedHex (ignore : Bool) : Nat → Option Nat → List Char → Except Fault (Nat × List Char)
  | 0, _, _ => .error .endsEarly
  | fuel + 1, value, text =>
      match text with
      | [] => .error .endsEarly
      | '}' :: rest =>
          match value with
          | none => .error .escape
          | some value => .ok (value, skip ignore rest)
      | char :: rest =>
          match Unicode.hexDigit? char with
          | none => .error .escape
          | some digit =>
              bracedHex ignore fuel (some (value.getD 0 * 16 + digit)) (skip ignore rest)

/-- A character given by its code point, from behind the letter that announces it. -/
def hexLiteral (ignore : Bool) (kind : Char) (text : List Char) :
    Except Fault (Construct × List Char) := do
  let fixed := fun width byte => do
    let (code, rest) ← fixedHex ignore width 0 (skip ignore text)
    match charOf? code with
    | none => .error .escape
    | some char => return (Construct.literal ⟨char, byte⟩, rest)
  match skip ignore text with
  | [] => .error .endsEarly
  | '{' :: rest =>
      let (code, rest) ← bracedHex ignore text.length none (skip ignore rest)
      match charOf? code with
      | none => .error .escape
      | some char => return (.literal ⟨char, false⟩, rest)
  | _ =>
      if kind = 'x' then fixed 2 true
      else if kind = 'u' then fixed 4 false
      else fixed 8 false

/-- The characters up to a closing brace. -/
def braced (ignore : Bool) : Nat → List Char → Except Fault (List Char × List Char)
  | 0, _ => .error .endsEarly
  | fuel + 1, text =>
      match text with
      | [] => .error .endsEarly
      | '}' :: rest => .ok ([], rest)
      | char :: rest => do
          let (more, rest) ← braced ignore fuel (skip ignore rest)
          return (char :: more, rest)

/-- The two parts of a text around a separator: `!=` before `:` before `=`. -/
def propertyName (text : List Char) : PropertyName :=
  let cut := fun (separator : List Char) =>
    (List.range text.length).find? fun index => separator.isPrefixOf (text.drop index)
  let value := fun (index width : Nat) =>
    PropertyName.valued (String.ofList (text.take index))
      (String.ofList (text.drop (index + width)))
  match cut ['!', '='], cut [':'], cut ['='] with
  | some index, _, _ => value index 2
  | none, some index, _ => value index 1
  | none, none, some index => value index 1
  | none, none, none => .alone (String.ofList text)

/-- A set of characters given by a property, from behind the letter that announces it. -/
def propertyClass (ignore negated : Bool) (text : List Char) :
    Except Fault (Construct × List Char) := do
  match skip ignore text with
  | [] => .error .endsEarly
  | '{' :: rest =>
      let (name, rest) ← braced ignore text.length (skip ignore rest)
      return (.property ⟨propertyName name, negated⟩, rest)
  | '\\' :: _ => .error .property
  | char :: rest =>
      return (.property ⟨.alone (String.ofList [char]), negated⟩, skip ignore rest)

/-- The letters and dashes at the front, with ignored blanks between them. -/
def boundaryName (ignore : Bool) : Nat → List Char → List Char × List Char
  | 0, text => ([], text)
  | fuel + 1, text =>
      match text with
      | char :: rest =>
          if char.isAlpha || char = '-' then
            let (more, rest) := boundaryName ignore fuel (skip ignore rest)
            (char :: more, rest)
          else ([], text)
      | [] => ([], [])

/-- A word boundary, and the side of the word if it is named in braces. Braces that hold no name
are left for a count. -/
def wordBoundary (ignore : Bool) (text : List Char) : Except Fault (Assertion × List Char) :=
  match text with
  | '{' :: rest =>
      match skip ignore rest with
      | [] => .error .endsEarly
      | inside@(first :: _) =>
          if first.isAlpha || first = '-' then
            match boundaryName ignore inside.length inside with
            | (name, '}' :: rest) =>
                match String.ofList name with
                | "start" => .ok (.wordStart, rest)
                | "end" => .ok (.wordEnd, rest)
                | "start-half" => .ok (.wordStartHalf, rest)
                | "end-half" => .ok (.wordEndHalf, rest)
                | _ => .error .escape
            | _ => .error .escape
          else .ok (.wordBoundary, text)
  | _ => .ok (.wordBoundary, text)

/-- What a backslash announces, from behind it. -/
def escaped (ignore : Bool) : List Char → Except Fault (Construct × List Char)
  | [] => .error .endsEarly
  | char :: rest =>
      let literal := fun char => Except.ok (Construct.literal ⟨char, false⟩, rest)
      if char.isDigit then .error .backreference
      else if isMeta char || isEscapable char then literal char
      else
        match char with
        | 'x' | 'u' | 'U' => hexLiteral ignore char rest
        | 'p' => propertyClass ignore false rest
        | 'P' => propertyClass ignore true rest
        | 'd' => .ok (.perl ⟨.digit, false⟩, rest)
        | 's' => .ok (.perl ⟨.space, false⟩, rest)
        | 'w' => .ok (.perl ⟨.word, false⟩, rest)
        | 'D' => .ok (.perl ⟨.digit, true⟩, rest)
        | 'S' => .ok (.perl ⟨.space, true⟩, rest)
        | 'W' => .ok (.perl ⟨.word, true⟩, rest)
        | 'a' => literal '\x07'
        | 'f' => literal '\x0c'
        | 't' => literal '\t'
        | 'n' => literal '\n'
        | 'r' => literal '\r'
        | 'v' => literal '\x0b'
        | 'A' => .ok (.assertion .textStart, rest)
        | 'z' => .ok (.assertion .textEnd, rest)
        | 'b' => do
            let (boundary, rest) ← wordBoundary ignore rest
            return (.assertion boundary, rest)
        | 'B' => .ok (.assertion .notWordBoundary, rest)
        | '<' => .ok (.assertion .wordStart, rest)
        | '>' => .ok (.assertion .wordEnd, rest)
        | _ => .error .escape

/-! ## Classes -/

/-- The names of the classes of characters among the first 128. -/
def asciiNames : List String :=
  ["alnum", "alpha", "ascii", "blank", "cntrl", "digit", "graph", "lower", "print", "punct",
    "space", "upper", "word", "xdigit"]

/-- A named class in brackets and colons, from behind its opening bracket. -/
def asciiClass? (text : List Char) : Option (ClassSet × List Char) :=
  let named := fun (negated : Bool) (text : List Char) =>
    let name := String.ofList (text.takeWhile (· != ':'))
    match text.dropWhile (· != ':') with
    | ':' :: ']' :: rest =>
        if asciiNames.contains name then some (ClassSet.ascii name negated, rest) else none
    | _ => none
  match text with
  | ':' :: '^' :: rest => named true rest
  | ':' :: rest => named false rest
  | _ => none

/-- The dashes at the start of a class stand for themselves. -/
def leadingDashes (ignore : Bool) : Nat → List Char → List ClassSet × List Char
  | 0, text => ([], text)
  | fuel + 1, text =>
      match text with
      | '-' :: rest =>
          let (more, rest) := leadingDashes ignore fuel (skip ignore rest)
          (.literal ⟨'-', false⟩ :: more, rest)
      | _ => ([], text)

/-- An open class: whether it is negated, the sets to the left of its operators, and its items
so far, the last one first. -/
structure OpenClass where
  negated : Bool
  left : Option (SetOperation × ClassSet)
  items : List ClassSet

namespace OpenClass

/-- The items as one set. -/
def itemSet (open_ : OpenClass) : ClassSet :=
  match open_.items with
  | [] => .empty
  | [item] => item
  | items => .union items.reverse

/-- The items, joined to what stands to the left of them. -/
def whole (open_ : OpenClass) : ClassSet :=
  match open_.left with
  | none => open_.itemSet
  | some (operation, left) => .combined operation left open_.itemSet

def push (open_ : OpenClass) (item : ClassSet) : OpenClass :=
  { open_ with items := item :: open_.items }

/-- Starts the right side of an operator. -/
def operate (open_ : OpenClass) (operation : SetOperation) : OpenClass :=
  { open_ with left := some (operation, open_.whole), items := [] }

end OpenClass

/-- The start of a class, from behind its opening bracket: a caret, and characters that would
mean something further on. -/
def openClass (ignore : Bool) (text : List Char) : Except Fault (OpenClass × List Char) := do
  let opened := fun (negated : Bool) (text : List Char) =>
    let (dashes, rest) := leadingDashes ignore text.length text
    match dashes, rest with
    | _, [] => Except.error Fault.unclosedClass
    | [], ']' :: rest =>
        match skip ignore rest with
        | [] => .error .unclosedClass
        | rest => .ok (⟨negated, none, [.literal ⟨']', false⟩]⟩, rest)
    | dashes, rest => .ok (⟨negated, none, dashes.reverse⟩, rest)
  match skip ignore text with
  | '^' :: rest => opened true (skip ignore rest)
  | text => opened false text

/-- The character after the next, past blanks if they are ignored. The blanks skipped are white
space and the mark of one comment. -/
def peekAfter (ignore : Bool) (rest : List Char) : Option Char :=
  if ignore then
    match rest.dropWhile isWhitespace with
    | '#' :: rest => (rest.dropWhile isWhitespace).head?
    | rest => rest.head?
  else rest.head?

def classUnit (ignore : Bool) : List Char → Except Fault (Construct × List Char)
  | '\\' :: rest => escaped ignore rest
  | char :: rest => .ok (.literal ⟨char, false⟩, rest)
  | [] => .error .unclosedClass

/-- A construct as an item of a class. -/
def Construct.item : Construct → Except Fault ClassSet
  | .literal written => .ok (.literal written)
  | .property class_ => .ok (.property class_)
  | .perl class_ => .ok (.perl class_)
  | _ => .error .escape

/-- A construct as an end of a range. -/
def Construct.rangeEnd : Construct → Except Fault Literal
  | .literal written => .ok written
  | _ => .error .classRange

/-- A single item of a class or a range. -/
def classItem (ignore : Bool) (text : List Char) : Except Fault (ClassSet × List Char) := do
  let (first, rest) ← classUnit ignore text
  match skip ignore rest with
  | [] => .error .unclosedClass
  | '-' :: rest' =>
      if peekAfter ignore rest' = some ']' || peekAfter ignore rest' = some '-' then
        return (← first.item, skip ignore rest)
      else
        let (last, rest) ← classUnit ignore (skip ignore rest')
        let first ← first.rangeEnd
        let last ← last.rangeEnd
        if first.char ≤ last.char then return (.range first last, rest)
        else .error .classRange
  | rest => return (← first.item, rest)

/-- The rest of a class, with the classes around it, the innermost first. -/
def classRest (ignore : Bool) : Nat → OpenClass → List OpenClass → List Char →
    Except Fault ((Bool × ClassSet) × List Char)
  | 0, _, _, _ => .error .unclosedClass
  | fuel + 1, inner, outer, text =>
      match skip ignore text with
      | [] => .error .unclosedClass
      | '[' :: rest =>
          match asciiClass? rest with
          | some (named, rest) => classRest ignore fuel (inner.push named) outer rest
          | none =>
              match openClass ignore rest with
              | .error fault => .error fault
              | .ok (opened, rest) => classRest ignore fuel opened (inner :: outer) rest
      | ']' :: rest =>
          match outer with
          | [] => .ok ((inner.negated, inner.whole), rest)
          | next :: outer =>
              classRest ignore fuel (next.push (.bracketed inner.negated inner.whole)) outer rest
      | '&' :: '&' :: rest => classRest ignore fuel (inner.operate .intersection) outer rest
      | '-' :: '-' :: rest => classRest ignore fuel (inner.operate .difference) outer rest
      | '~' :: '~' :: rest =>
          classRest ignore fuel (inner.operate .symmetricDifference) outer rest
      | text =>
          match classItem ignore text with
          | .error fault => .error fault
          | .ok (item, rest) => classRest ignore fuel (inner.push item) outer rest

/-- A class, from behind its opening bracket. -/
def bracketedClass (ignore : Bool) (text : List Char) : Except Fault (Written × List Char) := do
  let (opened, rest) ← openClass ignore text
  let ((negated, set), rest) ← classRest ignore (rest.length + 1) opened [] rest
  return (.bracketed negated set, rest)

/-! ## Groups -/

namespace FlagChange

/-- Notes what happens to the flag of a letter; a letter may occur once. -/
def note (change : FlagChange) (letter : Char) (on : Bool) : Except Fault FlagChange :=
  let fresh := fun (flag : Option Bool) (change : FlagChange) =>
    if flag.isSome then Except.error Fault.flag else .ok change
  match letter with
  | 'i' => fresh change.ignoreCase { change with ignoreCase := some on }
  | 'm' => fresh change.multiLine { change with multiLine := some on }
  | 's' => fresh change.dotMatchesNewline { change with dotMatchesNewline := some on }
  | 'U' => fresh change.swapGreed { change with swapGreed := some on }
  | 'u' => fresh change.unicode { change with unicode := some on }
  | 'R' => fresh change.carriageReturn { change with carriageReturn := some on }
  | 'x' => fresh change.ignoreBlanks { change with ignoreBlanks := some on }
  | _ => .error .flag

end FlagChange

/-- The flags of a group up to its colon or closing parenthesis, which comes back with them.
After a dash the flags are switched off; a dash needs a flag behind it. -/
def flags (change : FlagChange) (negated dangling : Bool) :
    List Char → Except Fault ((FlagChange × Char) × List Char)
  | [] => .error .endsEarly
  | char :: rest =>
      if char = ':' || char = ')' then
        if dangling then .error .flag else .ok ((change, char), rest)
      else if char = '-' then
        if negated then .error .flag else flags change true true rest
      else
        match change.note char (!negated) with
        | .error fault => .error fault
        | .ok change => flags change negated false rest

/-- The character may stand in the name of a group. -/
def isNameChar (first : Bool) (char : Char) : Bool :=
  if first then char = '_' || isAlphabetic char
  else char = '_' || char = '.' || char = '[' || char = ']' || isAlphanumeric char

/-- The name of a group up to its closing angle bracket. -/
def groupName (first : Bool) : List Char → Except Fault (List Char × List Char)
  | [] => .error .groupName
  | char :: rest =>
      if char = '>' then if first then .error .groupName else .ok ([], rest)
      else if isNameChar first char then do
        let (more, rest) ← groupName false rest
        return (char :: more, rest)
      else .error .groupName

/-- A group that is open: what stood before it, the branches and parts before it on its own
level, and whether blanks were ignored there. -/
structure Level where
  kind : GroupKind
  branches : List Written
  parts : List Written
  ignoring : Bool

/-- What has been read of a pattern. Branches and parts are listed the last one first. -/
structure Progress where
  outer : List Level
  branches : List Written
  parts : List Written
  ignoring : Bool
  captures : Nat
  names : List String

namespace Progress

def start : Progress := ⟨[], [], [], false, 0, []⟩

def push (progress : Progress) (part : Written) : Progress :=
  { progress with parts := part :: progress.parts }

/-- The innermost level as one expression. -/
def body (progress : Progress) : Written :=
  Written.choice (Written.sequence progress.parts.reverse :: progress.branches).reverse

/-- Starts another branch. -/
def branch (progress : Progress) : Progress :=
  { progress with
    branches := Written.sequence progress.parts.reverse :: progress.branches, parts := [] }

/-- Opens a group. -/
def enter (progress : Progress) (kind : GroupKind) : Progress :=
  let ignoring := match kind with
    | .plain change => change.ignoreBlanks.getD progress.ignoring
    | .capture _ _ => progress.ignoring
  { progress with
    outer := ⟨kind, progress.branches, progress.parts, progress.ignoring⟩ :: progress.outer
    branches := [], parts := [], ignoring := ignoring }

/-- Closes the innermost group. -/
def leave (progress : Progress) : Except Fault Progress :=
  match progress.outer with
  | [] => .error .unopenedGroup
  | level :: outer =>
      .ok { progress with
        outer := outer
        branches := level.branches
        parts := .group level.kind progress.body :: level.parts
        ignoring := level.ignoring }

/-- Opens a group that captures. -/
def capture (progress : Progress) (name : Option String) : Except Fault Progress :=
  let index := progress.captures + 1
  let entered := { progress.enter (.capture index name) with captures := index }
  match name with
  | none => .ok entered
  | some name =>
      if progress.names.contains name then .error .groupName
      else .ok { entered with names := name :: progress.names }

/-- The start of a group, from behind its opening parenthesis. -/
def openGroup (progress : Progress) (text : List Char) : Except Fault (Progress × List Char) := do
  let text := skip progress.ignoring text
  match text with
  | '?' :: '=' :: _ | '?' :: '!' :: _ | '?' :: '<' :: '=' :: _ | '?' :: '<' :: '!' :: _ =>
      .error .lookaround
  | '?' :: 'P' :: '<' :: rest | '?' :: '<' :: rest =>
      let (name, rest) ← groupName true rest
      return (← progress.capture (some (String.ofList name)), rest)
  | '?' :: rest =>
      match ← flags .none false false rest with
      | ((change, ')'), rest') =>
          if rest.head? = some ')' then .error .nothingToRepeat
          else
            return ({ progress.push (.flags change) with
              ignoring := change.ignoreBlanks.getD progress.ignoring }, rest')
      | ((change, _), rest) => return (progress.enter (.plain change), rest)
  | rest => return (← progress.capture none, rest)

/-- Repeats the last part. -/
def repeatLast (progress : Progress) (counts : Counts) : Except Fault Progress :=
  match progress.parts with
  | [] | .empty :: _ | .flags _ :: _ => .error .nothingToRepeat
  | part :: parts => .ok { progress with parts := .repeated counts part :: parts }

/-- A repetition operator, whose counts are known, from behind it: a question mark makes it
prefer fewer. -/
def repetition (progress : Progress) (least : Nat) (most : Option Nat) (text : List Char) :
    Except Fault (Progress × List Char) := do
  match text with
  | '?' :: rest => return (← progress.repeatLast ⟨least, most, false⟩, rest)
  | rest => return (← progress.repeatLast ⟨least, most, true⟩, rest)

def pushConstruct (progress : Progress) : Construct → Progress
  | .literal written => progress.push (.literal written)
  | .assertion place => progress.push (.assertion place)
  | .dot => progress.push .dot
  | .property class_ => progress.push (.property class_)
  | .perl class_ => progress.push (.perl class_)

/-- Reads the construct at the front. -/
def step (progress : Progress) (char : Char) (rest : List Char) :
    Except Fault (Progress × List Char) := do
  match char with
  | '(' => progress.openGroup rest
  | ')' => return (← progress.leave, rest)
  | '|' => return (progress.branch, rest)
  | '[' =>
      let (class_, rest) ← bracketedClass progress.ignoring rest
      return (progress.push class_, rest)
  | '?' => progress.repetition 0 (some 1) rest
  | '*' => progress.repetition 0 none rest
  | '+' => progress.repetition 1 none rest
  | '{' =>
      if progress.parts.isEmpty then .error .nothingToRepeat
      let ((least, most), rest) ← bounds progress.ignoring rest
      progress.repetition least most (skip progress.ignoring rest)
  | '\\' =>
      let (unit, rest) ← escaped progress.ignoring rest
      return (progress.pushConstruct unit, rest)
  | '.' => return (progress.push .dot, rest)
  | '^' => return (progress.push (.assertion .lineStart), rest)
  | '$' => return (progress.push (.assertion .lineEnd), rest)
  | char => return (progress.push (.literal ⟨char, false⟩), rest)

/-- Reads the rest of a pattern. Each construct takes a character at least, so the length of the
text bounds their number. -/
def finish : Nat → Progress → List Char → Except Fault Written
  | 0, _, _ => .error .endsEarly
  | fuel + 1, progress, text =>
      match skip progress.ignoring text with
      | [] => if progress.outer.isEmpty then .ok progress.body else .error .unclosedGroup
      | char :: rest =>
          match progress.step char rest with
          | .error fault => .error fault
          | .ok (progress, rest) => finish fuel progress rest

end Progress

/-- How deeply a pattern may be nested. -/
def maxDepth : Nat := 250

/-- The pattern that a text writes. -/
def Written.parse (text : List Char) : Except Fault Written := do
  let written ← Progress.finish (text.length + 1) .start text
  if maxDepth < written.depth then .error .tooDeep else return written

end SeriesIndex.Pattern
