import SeriesIndex.Line.Quotation
import SeriesIndex.Row
import SeriesIndex.Text.Numeral

/-!
# Lines

Rows are imported as lines of text. A line has a metric, labels in braces if there are any, a
quoted value and, if it is known, a time:

    metric{name="value", ...} "value" time

Blank lines and comments stand for no row, and a line that cannot be read does not affect the
others.
-/

namespace SeriesIndex

/-- What is wrong with a block of labels. -/
inductive LabelFault where
  | noValue (text : List Char)
  | notQuoted (name text : List Char)
  | noComma (name : List Char)
deriving DecidableEq, Repr

inductive LineError where
  | noValue
  | noMetric
  | labels (fault : LabelFault)
  | value (text : List Char)
  | time (text : List Char)
  | escape (text : List Char)
deriving DecidableEq, Repr

def LabelFault.message : LabelFault → String
  | noValue text => "missing value for tag " ++ Text.quoted (String.ofList text)
  | notQuoted name text =>
      "expecting quoted value for tag " ++ Text.quoted (String.ofList name) ++ "; got " ++
        Text.quoted (String.ofList text)
  | noComma name => "missing comma after tag " ++ Text.quoted (String.ofList name)

def LineError.message : LineError → String
  | noValue => "missing value"
  | noMetric => "metric cannot be empty"
  | labels fault => s!"cannot unmarshal labels: {fault.message}"
  | value text => "unexpected value " ++ Text.quoted (String.ofList text)
  | time text => "cannot parse timestamp " ++ Text.quoted (String.ofList text)
  | escape text => "cannot unescape " ++ Text.quoted (String.ofList text)

namespace Line

/-! ## Blanks -/

def isBlank (char : Char) : Bool := char = ' ' || char = '\t'

def skipBlanks (text : List Char) : List Char := text.dropWhile isBlank

def trimEnd (text : List Char) : List Char := (text.reverse.dropWhile isBlank).reverse

theorem skipBlanks_length (text : List Char) : (skipBlanks text).length ≤ text.length :=
  (List.dropWhile_suffix isBlank).length_le

/-! ## Labels -/

/-- A quotation as it was written. -/
def written (inner : List Char) : List Char := ['"'] ++ inner ++ ['"']

/-- The label of a name and the inside of a quotation. -/
def label (name inner : List Char) : Except LineError Label :=
  match Quotation.unescape inner with
  | .error .notQuoted => .error (.value (written inner))
  | .error .badEscape => .error (.escape (written inner))
  | .ok value => .ok ⟨String.ofList name, String.ofList value⟩

/-- Reads one label; gives its name, the inside of its value and what follows. -/
def takeLabel (text : List Char) : Except LabelFault (List Char × List Char × List Char) :=
  match text.dropWhile (· ≠ '=') with
  | [] => .error (.noValue text)
  | _ :: after =>
      let name := trimEnd (text.takeWhile (· ≠ '='))
      let after := skipBlanks after
      match Quotation.take? after with
      | none => .error (.notQuoted name after)
      | some (inner, tail) => .ok (name, inner, tail)

theorem takeLabel_shorter {text name inner tail : List Char}
    (taken : takeLabel text = .ok (name, inner, tail)) : tail.length < text.length := by
  unfold takeLabel at taken
  split at taken
  · cases taken
  · next equals after cut =>
      dsimp only at taken
      split at taken
      · cases taken
      · next quotation =>
          cases taken
          have quoted := Quotation.take?_shorter quotation
          have blanks := skipBlanks_length after
          have behind := (List.dropWhile_suffix (l := text) (· ≠ '=')).length_le
          rw [cut, List.length_cons] at behind
          omega

/-- Reads labels up to the closing brace; gives them with what follows the brace. A label without
a name is left out. -/
def takeLabels (text : List Char) : Except LineError (List Label × List Char) :=
  match _start : skipBlanks text with
  | '}' :: tail => .ok ([], tail)
  | start =>
      match _taken : takeLabel start with
      | .error fault => .error (.labels fault)
      | .ok (name, inner, tail) =>
          match label name inner with
          | .error error => .error error
          | .ok label =>
              let kept := if name.isEmpty then [] else [label]
              match _rest : skipBlanks tail with
              | '}' :: after => .ok (kept, after)
              | ',' :: after =>
                  (takeLabels after).map fun (labels, tail) => (kept ++ labels, tail)
              | _ => .error (.labels (.noComma name))
termination_by text.length
decreasing_by
  have first := skipBlanks_length text
  rw [‹skipBlanks text = _›] at first
  have second := takeLabel_shorter ‹_›
  have third := skipBlanks_length tail
  rw [‹skipBlanks tail = _›, List.length_cons] at third
  omega

/-! ## Rows -/

/-- The time that follows a value; the default one if nothing does. -/
def time (value tail : List Char) (default : UInt64) : Except LineError UInt64 :=
  let digits := trimEnd (skipBlanks tail)
  if digits.isEmpty then .ok default
  else if !tail.head?.any isBlank then .error (.value value)
  else
    match Text.Numeral.word64? digits with
    | some time => .ok time
    | none => .error (.time digits)

/-- The block of labels, if there is one, and what follows it. -/
def takeBlock (text : List Char) : Except LineError (List Label × List Char) :=
  match text with
  | '{' :: block => (takeLabels block).map fun (labels, tail) => (labels, skipBlanks tail)
  | _ => .ok ([], text)

/-- The row of a text that is neither blank nor a comment and starts with the metric. -/
def row (text : List Char) (default : UInt64) : Except LineError Row := do
  let inMetric := fun char => !(char = '{' || isBlank char)
  let metric := text.takeWhile inMetric
  let (labels, rest) ← takeBlock (skipBlanks (text.dropWhile inMetric))
  if metric.isEmpty then throw .noMetric
  if rest.isEmpty then throw .noValue
  match Quotation.take? rest with
  | none => throw (.value rest)
  | some (inner, tail) =>
      match Quotation.unescape inner with
      | .error _ => throw (.value rest)
      | .ok value =>
          let time ← time rest tail default
          return ⟨String.ofList metric, labels, time, String.ofList value⟩

/-- The line without a carriage return at its end. -/
def chomp (line : List Char) : List Char :=
  if line.getLast? = some '\r' then line.dropLast else line

/-- The row of a line, if it stands for one. A row without a time gets the default one. -/
def parse (line : List Char) (default : UInt64) : Except LineError (Option Row) :=
  match skipBlanks (chomp line) with
  | [] | '#' :: _ => .ok none
  | text => (row text default).map some

/-! ## Imports -/

/-- The lines of a text, without the line feeds between them. -/
def split : List Char → List (List Char)
  | [] => [[]]
  | char :: rest =>
      if char = '\n' then [] :: split rest
      else
        match split rest with
        | first :: others => (char :: first) :: others
        | [] => [[char]]

/-- The rows of a text, and how many of its lines could not be read. -/
structure Import where
  rows : List Row
  invalid : Nat

/-- Reads every line of a text. -/
def parseAll (text : List Char) (default : UInt64) : Import :=
  let results := (split text).map (parse · default)
  ⟨results.filterMap fun result => result.toOption.join,
    results.countP fun result => !result.isOk⟩

end Line

end SeriesIndex
