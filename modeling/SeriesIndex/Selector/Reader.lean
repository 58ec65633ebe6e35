import SeriesIndex.Selector

/-!
# Reading selectors

A selector is written as a metric name, a block of matchers in braces, or both:

    metric{label op "value", label op "value"}

A comma may follow the last matcher, and blanks and line breaks may stand between the parts. A
value has quotes of either kind around it. In it a backslash joins the character after it; only
line feeds, tabs, backslashes and the quote have an escaped form, and every other pair stands for
itself.
-/

namespace SeriesIndex.Selector

open Text (isAlphabetic isAlphanumeric)

/-- A space, a tab or a line break. -/
def isBlank (char : Char) : Bool := char = ' ' || char = '\t' || char = '\r' || char = '\n'

def skipBlanks (text : List Char) : List Char := text.dropWhile isBlank

/-- The kind of a name: which characters it starts with, and which follow. -/
structure NameKind where
  first : Char → Bool
  later : Char → Bool

def metricNames : NameKind :=
  ⟨fun char => isAlphabetic char || char = '_' || char = ':',
    fun char => isAlphanumeric char || char = '_' || char = ':' || char = '.'⟩

def labelNames : NameKind :=
  ⟨fun char => isAlphabetic char || char = '_',
    fun char => isAlphanumeric char || char = '_' || char = '.'⟩

/-- The name that a text starts with, and what follows it. -/
def takeName? (kind : NameKind) : List Char → Option (List Char × List Char)
  | [] => none
  | char :: rest =>
      if kind.first char then some (char :: rest.takeWhile kind.later, rest.dropWhile kind.later)
      else none

def takeOp? : List Char → Option (MatchOp × List Char)
  | '=' :: '~' :: rest => some (.describedBy, rest)
  | '!' :: '~' :: rest => some (.notDescribedBy, rest)
  | '!' :: '=' :: rest => some (.notEqual, rest)
  | '=' :: rest => some (.equal, rest)
  | _ => none

/-- What a backslash and the character after it stand for. -/
def unescape (quote char : Char) : List Char :=
  if char = 'n' then ['\n']
  else if char = 't' then ['\t']
  else if char = '\\' || char = quote then [char]
  else ['\\', char]

/-- Reads up to the closing quote. -/
def takeUntil? (quote : Char) : List Char → Option (List Char × List Char)
  | [] => none
  | char :: rest =>
      if char = quote then some ([], rest)
      else if char = '\\' then
        match rest with
        | [] => none
        | escaped :: rest =>
            (takeUntil? quote rest).map
              fun (value, tail) => (unescape quote escaped ++ value, tail)
      else (takeUntil? quote rest).map fun (value, tail) => (char :: value, tail)

def takeQuoted? : List Char → Option (List Char × List Char)
  | '"' :: rest => takeUntil? '"' rest
  | '\'' :: rest => takeUntil? '\'' rest
  | _ => none

def takeMatcher? (text : List Char) : Option (Matcher × List Char) := do
  let (name, rest) ← takeName? labelNames text
  let (op, rest) ← takeOp? (skipBlanks rest)
  let (value, rest) ← takeQuoted? (skipBlanks rest)
  return (⟨String.ofList name, op, String.ofList value⟩, rest)

/-! Nothing that is read makes the rest longer. -/

theorem skipBlanks_length (text : List Char) : (skipBlanks text).length ≤ text.length :=
  (List.dropWhile_suffix isBlank).length_le

theorem takeName?_length {kind : NameKind} {text name rest : List Char}
    (taken : takeName? kind text = some (name, rest)) : rest.length ≤ text.length := by
  unfold takeName? at taken
  split at taken
  · cases taken
  · next char later =>
      split at taken
      · cases taken
        have behind := (List.dropWhile_suffix (l := later) kind.later).length_le
        simp only [List.length_cons]
        omega
      · cases taken

theorem takeOp?_length {text rest : List Char} {op : MatchOp}
    (taken : takeOp? text = some (op, rest)) : rest.length ≤ text.length := by
  unfold takeOp? at taken
  split at taken <;> cases taken <;> simp only [List.length_cons] <;> omega

theorem takeUntil?_length {quote : Char} {text value rest : List Char}
    (taken : takeUntil? quote text = some (value, rest)) : rest.length ≤ text.length := by
  fun_induction takeUntil? quote text generalizing value rest with
  | case1 => cases taken
  | case2 => cases taken; simp
  | case3 => cases taken
  | case4 _ _ _ ih =>
      obtain ⟨_, later, same⟩ := Option.map_eq_some_iff.mp taken
      cases same
      have shorter := ih later
      simp only [List.length_cons]
      omega
  | case5 _ _ _ _ ih =>
      obtain ⟨_, later, same⟩ := Option.map_eq_some_iff.mp taken
      cases same
      have shorter := ih later
      simp only [List.length_cons]
      omega

theorem takeQuoted?_length {text value rest : List Char}
    (taken : takeQuoted? text = some (value, rest)) : rest.length ≤ text.length := by
  unfold takeQuoted? at taken
  split at taken
  · exact Nat.le_succ_of_le (takeUntil?_length taken)
  · exact Nat.le_succ_of_le (takeUntil?_length taken)
  · cases taken

theorem takeMatcher?_length {text rest : List Char} {matcher : Matcher}
    (taken : takeMatcher? text = some (matcher, rest)) : rest.length ≤ text.length := by
  unfold takeMatcher? at taken
  obtain ⟨⟨name, afterName⟩, nameTaken, taken⟩ := Option.bind_eq_some_iff.mp taken
  obtain ⟨⟨op, afterOp⟩, opTaken, taken⟩ := Option.bind_eq_some_iff.mp taken
  obtain ⟨⟨value, tail⟩, valueTaken, taken⟩ := Option.bind_eq_some_iff.mp taken
  cases taken
  have first := takeName?_length nameTaken
  have second := takeOp?_length opTaken
  have third := takeQuoted?_length valueTaken
  have blanks := skipBlanks_length afterName
  have more := skipBlanks_length afterOp
  omega

/-- The matchers that follow a first one, each after a comma. -/
def takeMore (text : List Char) : List Matcher × List Char :=
  match _comma : skipBlanks text with
  | ',' :: after =>
      match _taken : takeMatcher? (skipBlanks after) with
      | some (matcher, rest) =>
          let (matchers, rest) := takeMore rest
          (matcher :: matchers, rest)
      | none => ([], text)
  | _ => ([], text)
termination_by text.length
decreasing_by
  have first := skipBlanks_length text
  rw [‹skipBlanks text = _›, List.length_cons] at first
  have second := skipBlanks_length after
  have third := takeMatcher?_length ‹_›
  omega

/-- Matchers with commas between them. -/
def takeMatchers (text : List Char) : List Matcher × List Char :=
  match takeMatcher? text with
  | some (matcher, rest) =>
      let (matchers, rest) := takeMore rest
      (matcher :: matchers, rest)
  | none => ([], text)

def skipComma : List Char → List Char
  | ',' :: rest => rest
  | text => text

/-- A block of matchers in braces. -/
def takeBlock? : List Char → Option (List Matcher × List Char)
  | '{' :: text =>
      let (matchers, rest) := takeMatchers (skipBlanks text)
      match skipBlanks (skipComma (skipBlanks rest)) with
      | '}' :: rest => some (matchers, rest)
      | _ => none
  | _ => none

/-- The matcher of a metric name, if a text starts with one. -/
def takeMetric (text : List Char) : List Matcher × List Char :=
  match takeName? metricNames text with
  | some (name, rest) => ([.metric (String.ofList name)], rest)
  | none => ([], text)

/-- The longest selector that a text starts with, which may have no matchers. -/
def takeSelector (text : List Char) : List Matcher × List Char :=
  let (metric, rest) := takeMetric (skipBlanks text)
  match takeBlock? (skipBlanks rest) with
  | some (matchers, rest) => (metric ++ matchers, rest)
  | none => (metric, skipBlanks rest)

/-- The selector of a text, with a matcher that a search can start with. -/
def parse (text : String) : Except SelectorError Selector :=
  let text := Text.trim text.toList
  if text.isEmpty then .error .empty
  else
    let (matchers, rest) := takeSelector text
    let rest := Text.trim rest
    let selector : Selector := ⟨matchers⟩
    if !rest.isEmpty then .error (.unexpected (String.ofList rest))
    else if matchers.isEmpty then .error .empty
    else if !selector.hasPositive then .error (.noPositive selector.render)
    else .ok selector

end SeriesIndex.Selector
