import Mathlib.Data.List.TakeWhile
import SeriesIndex.Selector.Reader

/-!
# The grammar of selectors

What a text has to look like to be a selector, and which matchers it then stands for. The grammar
is a relation that says nothing about how a text is read. The readers of names, operators and values
take exactly what the grammar allows them, and as much of it as there is.
-/

namespace SeriesIndex.Selector

/-! ## The grammar -/

/-- A run of blanks. -/
def Blanks (text : List Char) : Prop := ∀ char ∈ text, isBlank char = true

/-- A first character, and any number of later ones. -/
inductive NameKind.Spells (kind : NameKind) : List Char → Prop where
  | name {first : Char} {later : List Char} (begins : kind.first first = true)
      (continues : ∀ char ∈ later, kind.later char = true) : kind.Spells (first :: later)

/-- What stands between two quotes, and the value that it stands for. A backslash takes the next
character with it. -/
inductive Body (quote : Char) : List Char → List Char → Prop where
  | nil : Body quote [] []
  | plain {char : Char} {text value : List Char} (unquoted : char ≠ quote) (single : char ≠ '\\')
      (body : Body quote text value) : Body quote (char :: text) (char :: value)
  | lineFeed {text value : List Char} (body : Body quote text value) :
      Body quote ('\\' :: 'n' :: text) ('\n' :: value)
  | tab {text value : List Char} (body : Body quote text value) :
      Body quote ('\\' :: 't' :: text) ('\t' :: value)
  | itself {char : Char} {text value : List Char} (special : char = '\\' ∨ char = quote)
      (body : Body quote text value) : Body quote ('\\' :: char :: text) (char :: value)
  | pair {char : Char} {text value : List Char} (notFeed : char ≠ 'n') (notTab : char ≠ 't')
      (plain : ¬ (char = '\\' ∨ char = quote)) (body : Body quote text value) :
      Body quote ('\\' :: char :: text) ('\\' :: char :: value)

/-- The characters that quotes are made of. -/
def IsQuote (char : Char) : Prop := char = '"' ∨ char = '\''

/-- A value between quotes of either kind. -/
inductive Quoted : List Char → List Char → Prop where
  | between {quote : Char} {text value : List Char} (mark : IsQuote quote)
      (body : Body quote text value) : Quoted (quote :: (text ++ [quote])) value

/-- A label, an operator and a value. -/
inductive Term : List Char → Matcher → Prop where
  | of {label before after text value : List Char} {op : MatchOp} (name : labelNames.Spells label)
      (left : Blanks before) (right : Blanks after) (quoted : Quoted text value) :
      Term (label ++ (before ++ (op.text.toList ++ (after ++ text))))
        ⟨String.ofList label, op, String.ofList value⟩

/-- Terms that each follow a comma. -/
inductive Following : List Char → List Matcher → Prop where
  | none : Following [] []
  | more {before after text rest : List Char} {matcher : Matcher} {matchers : List Matcher}
      (left : Blanks before) (right : Blanks after) (term : Term text matcher)
      (others : Following rest matchers) :
      Following (before ++ ',' :: (after ++ (text ++ rest))) (matcher :: matchers)

/-- Any number of terms with commas between them. -/
inductive Terms : List Char → List Matcher → Prop where
  | none : Terms [] []
  | some {text rest : List Char} {matcher : Matcher} {matchers : List Matcher}
      (term : Term text matcher) (others : Following rest matchers) :
      Terms (text ++ rest) (matcher :: matchers)

/-- A comma, or nothing. -/
inductive Trailing : List Char → Prop where
  | none : Trailing []
  | comma : Trailing [',']

/-- A block of terms in braces. A comma may stand behind the last of them. -/
inductive Block : List Char → List Matcher → Prop where
  | braces {first second third text comma : List Char} {matchers : List Matcher}
      (left : Blanks first) (terms : Terms text matchers) (middle : Blanks second)
      (trailing : Trailing comma) (right : Blanks third) :
      Block ('{' :: (first ++ (text ++ (second ++ (comma ++ (third ++ ['}'])))))) matchers

/-- The name of a metric, or nothing. -/
inductive Metric : List Char → List Matcher → Prop where
  | none : Metric [] []
  | named {name : List Char} (spelled : metricNames.Spells name) :
      Metric name [.metric (String.ofList name)]

/-- A block, or nothing. -/
inductive OptionalBlock : List Char → List Matcher → Prop where
  | none : OptionalBlock [] []
  | some {text : List Char} {matchers : List Matcher} (block : Block text matchers) :
      OptionalBlock text matchers

/-- A selector is the name of a metric, a block of matchers, or both. -/
inductive Written : List Char → List Matcher → Prop where
  | selector {name blanks text : List Char} {named matchers : List Matcher}
      (metric : Metric name named) (between : Blanks blanks)
      (block : OptionalBlock text matchers) : Written (name ++ (blanks ++ text)) (named ++ matchers)

/-! ## Blanks -/

theorem skipBlanks_split (text : List Char) :
    ∃ blanks, Blanks blanks ∧ text = blanks ++ skipBlanks text := by
  refine ⟨text.takeWhile isBlank, ?_, List.takeWhile_append_dropWhile.symm⟩
  exact fun char inside => List.mem_takeWhile_imp inside

/-- Blanks make no difference to what follows them. -/
theorem skipBlanks_append {blanks : List Char} (only : Blanks blanks) (text : List Char) :
    skipBlanks (blanks ++ text) = skipBlanks text :=
  List.dropWhile_append_of_pos only

theorem skipBlanks_of_not {char : Char} (other : isBlank char = false) (text : List Char) :
    skipBlanks (char :: text) = char :: text :=
  List.dropWhile_cons_of_neg (by simp [other])

theorem isBlank_cases {char : Char} (blank : isBlank char = true) :
    char = ' ' ∨ char = '\t' ∨ char = '\r' ∨ char = '\n' := by
  simpa [isBlank, or_assoc] using blank

/-! ## Names -/

/-- The characters that may stand next to a name. -/
def marks : List Char := [' ', '\t', '\r', '\n', '=', '!', ',', '{', '}']

theorem mem_marks_of_blank {char : Char} (blank : isBlank char = true) : char ∈ marks := by
  rcases isBlank_cases blank with rfl | rfl | rfl | rfl <;> decide

/-- No name of the kind has a mark in it. -/
def NameKind.Apart (kind : NameKind) : Prop :=
  ∀ char ∈ marks, kind.first char = false ∧ kind.later char = false

theorem NameKind.apart_iff {kind : NameKind} :
    kind.Apart ↔ marks.all (fun char => !kind.first char && !kind.later char) = true := by
  simp only [Apart, List.all_eq_true, Bool.and_eq_true, Bool.not_eq_true']

theorem metricNames_apart : metricNames.Apart := NameKind.apart_iff.mpr (by decide)

theorem labelNames_apart : labelNames.Apart := NameKind.apart_iff.mpr (by decide)

/-- The text ends or goes on with a mark. -/
def Stops (text : List Char) : Prop := ∀ char ∈ text.head?, char ∈ marks

theorem stops_nil : Stops [] := nofun

theorem stops_cons {char : Char} (mark : char ∈ marks) (rest : List Char) :
    Stops (char :: rest) := by
  rintro _ ⟨⟩
  exact mark

theorem stops_blanks {blanks rest : List Char} (only : Blanks blanks) (stops : Stops rest) :
    Stops (blanks ++ rest) := by
  cases blanks with
  | nil => exact stops
  | cons char blanks => exact stops_cons (mem_marks_of_blank (only char (.head _))) _

theorem stops_op (op : MatchOp) (rest : List Char) : Stops (op.text.toList ++ rest) := by
  cases op with
  | equal => exact stops_cons (by decide : '=' ∈ marks) rest
  | notEqual => exact stops_cons (by decide : '!' ∈ marks) ('=' :: rest)
  | describedBy => exact stops_cons (by decide : '=' ∈ marks) ('~' :: rest)
  | notDescribedBy => exact stops_cons (by decide : '!' ∈ marks) ('~' :: rest)

theorem takeName?_some {kind : NameKind} {text name rest : List Char}
    (taken : takeName? kind text = some (name, rest)) :
    kind.Spells name ∧ text = name ++ rest := by
  unfold takeName? at taken
  split at taken
  · cases taken
  · next first later =>
      split at taken
      · next begins =>
          cases taken
          refine ⟨.name begins fun char inside => List.mem_takeWhile_imp inside, ?_⟩
          rw [List.cons_append, List.takeWhile_append_dropWhile]
      · cases taken

/-- A name is read up to the next mark. -/
theorem takeName?_append {kind : NameKind} (apart : kind.Apart) {name rest : List Char}
    (spelled : kind.Spells name) (stops : Stops rest) :
    takeName? kind (name ++ rest) = some (name, rest) := by
  cases spelled with
  | @name first later begins continues =>
      rw [List.cons_append, takeName?, if_pos begins, List.takeWhile_append_of_pos continues,
        List.dropWhile_append_of_pos continues]
      cases rest with
      | nil => simp
      | cons char rest =>
          have ends := (apart char (stops char rfl)).2
          simp [ends]

/-- A mark begins no name. -/
theorem takeName?_of_mark {kind : NameKind} (apart : kind.Apart) {char : Char}
    (mark : char ∈ marks) (rest : List Char) : takeName? kind (char :: rest) = none := by
  rw [takeName?, if_neg (by simp [(apart char mark).1])]

theorem NameKind.Spells.skipBlanks_append {kind : NameKind} (apart : kind.Apart)
    {name : List Char} (spelled : kind.Spells name) (rest : List Char) :
    skipBlanks (name ++ rest) = name ++ rest := by
  cases spelled with
  | @name first later begins continues =>
      refine skipBlanks_of_not (Bool.eq_false_iff.mpr fun blank => ?_) (later ++ rest)
      have never := (apart first (mem_marks_of_blank blank)).1
      rw [begins] at never
      cases never

/-! ## Operators -/

theorem takeOp?_some {text rest : List Char} {op : MatchOp}
    (taken : takeOp? text = some (op, rest)) : text = op.text.toList ++ rest := by
  unfold takeOp? at taken
  split at taken
  · cases taken; rfl
  · cases taken; rfl
  · cases taken; rfl
  · cases taken; rfl
  · cases taken

/-- An operator is read to its end. -/
theorem takeOp?_append (op : MatchOp) {rest : List Char} (stops : '~' ∉ rest.head?) :
    takeOp? (op.text.toList ++ rest) = some (op, rest) := by
  cases op with
  | notEqual => rfl
  | describedBy => rfl
  | notDescribedBy => rfl
  | equal =>
      change takeOp? ('=' :: rest) = some (.equal, rest)
      cases rest with
      | nil => rfl
      | cons char rest =>
          have other : char ≠ '~' := fun same => stops (same ▸ rfl)
          simp [takeOp?, other]

/-! ## Values -/

theorem unescape_body {quote char : Char} {text value : List Char} (body : Body quote text value) :
    Body quote ('\\' :: char :: text) (unescape quote char ++ value) := by
  unfold unescape
  split
  · next same => exact same ▸ .lineFeed body
  · next notFeed =>
      split
      · next same => exact same ▸ .tab body
      · next notTab =>
          split
          · next special => exact .itself (by simpa using special) body
          · next plain => exact .pair notFeed notTab (by simpa using plain) body

theorem takeUntil?_some {quote : Char} {text value rest : List Char}
    (taken : takeUntil? quote text = some (value, rest)) :
    ∃ body, Body quote body value ∧ text = body ++ quote :: rest := by
  fun_induction takeUntil? quote text generalizing value rest with
  | case1 => cases taken
  | case2 text =>
      cases taken
      exact ⟨[], .nil, rfl⟩
  | case3 => cases taken
  | case4 _ char text ih =>
      obtain ⟨_, later, same⟩ := Option.map_eq_some_iff.mp taken
      cases same
      obtain ⟨body, written, rfl⟩ := ih later
      exact ⟨_, unescape_body written, rfl⟩
  | case5 char text unquoted single ih =>
      obtain ⟨_, later, same⟩ := Option.map_eq_some_iff.mp taken
      cases same
      obtain ⟨body, written, rfl⟩ := ih later
      exact ⟨_, .plain unquoted single written, rfl⟩

theorem takeUntil?_append {quote : Char} (mark : IsQuote quote) {body value : List Char}
    (written : Body quote body value) (rest : List Char) :
    takeUntil? quote (body ++ quote :: rest) = some (value, rest) := by
  -- the closing quote is looked for before a backslash, which must not be one
  have backslash : ('\\' : Char) ≠ quote := by
    rcases mark with rfl | rfl <;> decide
  have taken : ∀ {text value : List Char} (char : Char),
      takeUntil? quote (text ++ quote :: rest) = some (value, rest) →
      takeUntil? quote ('\\' :: char :: text ++ quote :: rest) =
        some (unescape quote char ++ value, rest) := by
    intro text value char ih
    rw [List.cons_append, List.cons_append, takeUntil?.eq_def]
    simp [backslash, ih]
  induction written with
  | nil =>
      rw [List.nil_append, takeUntil?.eq_def]
      exact if_pos rfl
  | @plain char text value unquoted single _ ih =>
      rw [List.cons_append, takeUntil?.eq_def]
      simp [unquoted, single, ih]
  | lineFeed _ ih => exact taken 'n' ih
  | tab _ ih => exact taken 't' ih
  | @itself char text value special _ ih =>
      have stands : unescape quote char = [char] := by
        rcases special with rfl | rfl
        · rfl
        · rcases mark with rfl | rfl <;> rfl
      have read := taken char ih
      rwa [stands] at read
  | @pair char text value notFeed notTab plain _ ih =>
      have stands : unescape quote char = ['\\', char] := by
        simp [unescape, notFeed, notTab, plain]
      have read := taken char ih
      rwa [stands] at read

theorem takeQuoted?_iff {text value rest : List Char} :
    takeQuoted? text = some (value, rest) ↔
      ∃ quoted, Quoted quoted value ∧ text = quoted ++ rest := by
  constructor
  · intro taken
    unfold takeQuoted? at taken
    split at taken
    · obtain ⟨body, written, rfl⟩ := takeUntil?_some taken
      exact ⟨_, .between (.inl rfl) written, by simp⟩
    · obtain ⟨body, written, rfl⟩ := takeUntil?_some taken
      exact ⟨_, .between (.inr rfl) written, by simp⟩
    · cases taken
  · rintro ⟨_, @⟨quote, body, _, mark, written⟩, rfl⟩
    have read := takeUntil?_append mark written rest
    rw [List.cons_append, List.append_assoc]
    rcases mark with rfl | rfl
    · exact read
    · exact read

theorem Quoted.skipBlanks_append {text value : List Char} (quoted : Quoted text value)
    (rest : List Char) : skipBlanks (text ++ rest) = text ++ rest := by
  cases quoted with
  | between mark body =>
      rcases mark with rfl | rfl
      · exact skipBlanks_of_not (by decide) _
      · exact skipBlanks_of_not (by decide) _

/-- Behind an operator stands no tilde that could belong to it. -/
theorem Quoted.no_tilde {text value blanks : List Char} (quoted : Quoted text value)
    (only : Blanks blanks) (rest : List Char) : '~' ∉ (blanks ++ (text ++ rest)).head? := by
  cases blanks with
  | cons char blanks =>
      rintro ⟨⟩
      have blank := only '~' (.head _)
      cases blank
  | nil =>
      cases quoted with
      | between mark body =>
          rcases mark with rfl | rfl
          · nofun
          · nofun

/-! ## Terms -/

theorem takeMatcher?_iff {text rest : List Char} {matcher : Matcher} :
    takeMatcher? text = some (matcher, rest) ↔
      ∃ term, Term term matcher ∧ text = term ++ rest := by
  constructor
  · intro taken
    unfold takeMatcher? at taken
    obtain ⟨⟨label, afterName⟩, nameTaken, taken⟩ := Option.bind_eq_some_iff.mp taken
    obtain ⟨⟨op, afterOp⟩, opTaken, taken⟩ := Option.bind_eq_some_iff.mp taken
    obtain ⟨⟨value, tail⟩, valueTaken, taken⟩ := Option.bind_eq_some_iff.mp taken
    cases taken
    obtain ⟨spelled, rfl⟩ := takeName?_some nameTaken
    obtain ⟨before, left, split⟩ := skipBlanks_split afterName
    obtain ⟨after, right, tailSplit⟩ := skipBlanks_split afterOp
    obtain ⟨quoted, between, shape⟩ := takeQuoted?_iff.mp valueTaken
    refine ⟨_, .of spelled left right between, ?_⟩
    rw [split, takeOp?_some opTaken, tailSplit, shape]
    simp
  · rintro ⟨_, @⟨label, before, after, quoted, value, op, spelled, left, right, between⟩, rfl⟩
    have name := takeName?_append labelNames_apart spelled
      (stops_blanks left (stops_op op (after ++ (quoted ++ rest))))
    have operator :
        takeOp? (skipBlanks (before ++ (op.text.toList ++ (after ++ (quoted ++ rest))))) =
          some (op, after ++ (quoted ++ rest)) := by
      rw [skipBlanks_append left]
      have solid : skipBlanks (op.text.toList ++ (after ++ (quoted ++ rest))) =
          op.text.toList ++ (after ++ (quoted ++ rest)) := by
        cases op with
        | equal => rfl
        | notEqual => rfl
        | describedBy => rfl
        | notDescribedBy => rfl
      rw [solid]
      exact takeOp?_append op (between.no_tilde right rest)
    have read : takeQuoted? (skipBlanks (after ++ (quoted ++ rest))) = some (value, rest) := by
      rw [skipBlanks_append right, between.skipBlanks_append]
      exact takeQuoted?_iff.mpr ⟨quoted, between, rfl⟩
    simp only [takeMatcher?, List.append_assoc, name, operator, read, Option.bind_eq_bind,
      Option.bind_some]
    rfl

end SeriesIndex.Selector
