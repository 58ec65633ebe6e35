import SeriesIndex.Proofs.Selector.Grammar

/-!
# Selectors read what is written

A text is read as a selector exactly if the grammar says that it is one, and what is read is what
the grammar says it stands for. So matchers that are written out in braces, with their values in
quotes, are read back as they are.
-/

namespace SeriesIndex.Selector

theorem skipBlanks_skipBlanks (text : List Char) :
    skipBlanks (skipBlanks text) = skipBlanks text := by
  obtain ⟨blanks, only, split⟩ := skipBlanks_split text
  have skipped := skipBlanks_append only (skipBlanks text)
  rw [← split] at skipped
  exact skipped.symm

/-! ## Terms with commas -/

section Terms

variable {text after rest : List Char} {matcher : Matcher} {matchers : List Matcher}

theorem takeMore_some (taken : takeMore text = (matchers, rest)) :
    ∃ others, Following others matchers ∧ text = others ++ rest := by
  fun_induction takeMore text generalizing matchers rest with
  | case1 text after comma matcher later read left last _ ih =>
      cases taken
      obtain ⟨before, only, split⟩ := skipBlanks_split text
      obtain ⟨between, blank, behind⟩ := skipBlanks_split after
      obtain ⟨term, written, shape⟩ := takeMatcher?_iff.mp read
      obtain ⟨others, following, whole⟩ := ih ‹_›
      refine ⟨_, .more only blank written following, ?_⟩
      rw [split, comma, behind, shape, whole]
      simp
  | case2 =>
      cases taken
      exact ⟨[], .none, rfl⟩
  | case3 =>
      cases taken
      exact ⟨[], .none, rfl⟩

theorem takeMore_of_term (comma : skipBlanks text = ',' :: after)
    (read : takeMatcher? (skipBlanks after) = some (matcher, rest)) :
    takeMore text = (matcher :: (takeMore rest).1, (takeMore rest).2) := by
  rw [takeMore]
  split
  · next found =>
      cases comma.symm.trans found
      split
      · next taken =>
          cases read.symm.trans taken
          rfl
      · next none => cases read.symm.trans none
  · next other => exact absurd comma (other _)

theorem takeMore_of_comma (comma : skipBlanks text = ',' :: after)
    (none : takeMatcher? (skipBlanks after) = none) : takeMore text = ([], text) := by
  rw [takeMore]
  split
  · next found =>
      cases comma.symm.trans found
      split
      · next taken => cases none.symm.trans taken
      · rfl
  · rfl

theorem takeMore_of_other (other : ∀ after, skipBlanks text ≠ ',' :: after) :
    takeMore text = ([], text) := by
  rw [takeMore]
  split
  · next found => exact absurd found (other _)
  · rfl

theorem Term.skipBlanks_append (term : Term text matcher) (rest : List Char) :
    skipBlanks (text ++ rest) = text ++ rest := by
  cases term with
  | of name left right quoted =>
      rw [List.append_assoc]
      exact name.skipBlanks_append labelNames_apart _

/-- All terms are read, if what follows them is no further one. -/
theorem Following.takeMore_append (following : Following text matchers)
    (ends : takeMore rest = ([], rest)) : takeMore (text ++ rest) = (matchers, rest) := by
  induction following with
  | none => exact ends
  | @more before after text later matcher matchers left right term _ ih =>
      have comma : skipBlanks (before ++ ',' :: (after ++ (text ++ later)) ++ rest) =
          ',' :: (after ++ (text ++ (later ++ rest))) := by
        have whole : before ++ ',' :: (after ++ (text ++ later)) ++ rest =
            before ++ ',' :: (after ++ (text ++ (later ++ rest))) := by simp
        rw [whole, Selector.skipBlanks_append left]
        exact skipBlanks_of_not (by decide) _
      have read : takeMatcher? (skipBlanks (after ++ (text ++ (later ++ rest)))) =
          some (matcher, later ++ rest) := by
        rw [Selector.skipBlanks_append right, term.skipBlanks_append]
        exact takeMatcher?_iff.mpr ⟨text, term, rfl⟩
      rw [takeMore_of_term comma read, ih]

theorem takeMatcher?_of_mark {char : Char} (mark : char ∈ marks) (rest : List Char) :
    takeMatcher? (char :: rest) = none := by
  rw [takeMatcher?, takeName?_of_mark labelNames_apart mark]
  rfl

theorem takeMatchers_some (taken : takeMatchers text = (matchers, rest)) :
    ∃ terms, Terms terms matchers ∧ text = terms ++ rest := by
  unfold takeMatchers at taken
  split at taken
  · next matcher later read =>
      obtain ⟨term, written, rfl⟩ := takeMatcher?_iff.mp read
      cases more : takeMore later with
      | mk matchers left =>
          rw [more] at taken
          cases taken
          obtain ⟨others, following, rfl⟩ := takeMore_some more
          exact ⟨_, .some written following, by simp⟩
  · cases taken
    exact ⟨[], .none, rfl⟩

end Terms

/-! ## Blocks -/

section Blocks

variable {text rest : List Char} {matchers : List Matcher}

theorem skipComma_split (text : List Char) :
    ∃ comma, Trailing comma ∧ text = comma ++ skipComma text := by
  unfold skipComma
  split
  · exact ⟨_, .comma, rfl⟩
  · exact ⟨_, .none, rfl⟩

/-- What may stand between the last term and the closing brace begins no term and is skipped. -/
theorem closing {second comma third : List Char} (middle : Blanks second)
    (trailing : Trailing comma) (right : Blanks third) (rest : List Char) {text : List Char}
    (whole : text = second ++ (comma ++ (third ++ '}' :: rest))) :
    takeMatcher? (skipBlanks text) = none ∧ takeMore text = ([], text) ∧
      skipBlanks (skipComma (skipBlanks text)) = '}' :: rest := by
  have brace : skipBlanks (third ++ '}' :: rest) = '}' :: rest := by
    rw [skipBlanks_append right]
    exact skipBlanks_of_not (by decide) rest
  cases trailing with
  | none =>
      have skipped : skipBlanks text = '}' :: rest := by
        rw [whole, skipBlanks_append middle]
        exact brace
      rw [skipped]
      refine ⟨takeMatcher?_of_mark (by decide) rest, takeMore_of_other ?_, ?_⟩
      · rw [skipped]
        nofun
      · exact skipBlanks_of_not (by decide) rest
  | comma =>
      have skipped : skipBlanks text = ',' :: (third ++ '}' :: rest) := by
        rw [whole, skipBlanks_append middle]
        exact skipBlanks_of_not (by decide) _
      refine ⟨?_, takeMore_of_comma skipped ?_, ?_⟩
      · rw [skipped]
        exact takeMatcher?_of_mark (by decide) _
      · rw [brace]
        exact takeMatcher?_of_mark (by decide) rest
      · rw [skipped]
        exact brace

theorem takeBlock?_some (taken : takeBlock? text = some (matchers, rest)) :
    ∃ block, Block block matchers ∧ text = block ++ rest := by
  unfold takeBlock? at taken
  split at taken
  · next inner =>
      cases read : takeMatchers (skipBlanks inner) with
      | mk found later =>
          rw [read] at taken
          dsimp only at taken
          split at taken
          · next after brace =>
              cases taken
              obtain ⟨first, left, inside⟩ := skipBlanks_split inner
              obtain ⟨terms, written, shape⟩ := takeMatchers_some read
              obtain ⟨second, middle, tail⟩ := skipBlanks_split later
              obtain ⟨comma, trailing, behind⟩ := skipComma_split (skipBlanks later)
              obtain ⟨third, right, ending⟩ := skipBlanks_split (skipComma (skipBlanks later))
              refine ⟨_, .braces left written middle trailing right, ?_⟩
              rw [inside, shape, tail, behind, ending, brace]
              simp
          · cases taken
  · cases taken

/-- All terms are read, if what follows them begins none and is no comma before one. -/
theorem takeMatchers_append (terms : Terms text matchers)
    (stop : takeMatcher? (skipBlanks rest) = none) (ends : takeMore rest = ([], rest)) :
    ∃ later, takeMatchers (skipBlanks (text ++ rest)) = (matchers, later) ∧
      skipBlanks later = skipBlanks rest := by
  cases terms with
  | none =>
      refine ⟨skipBlanks rest, ?_, skipBlanks_skipBlanks rest⟩
      rw [takeMatchers, List.nil_append, stop]
  | @some text others matcher matchers term following =>
      have found : takeMatcher? (text ++ (others ++ rest)) = some (matcher, others ++ rest) :=
        takeMatcher?_iff.mpr ⟨text, term, rfl⟩
      refine ⟨rest, ?_, rfl⟩
      rw [List.append_assoc, term.skipBlanks_append, takeMatchers, found]
      dsimp only
      rw [following.takeMore_append ends]

theorem Block.takeBlock?_append (block : Block text matchers) (rest : List Char) :
    takeBlock? (text ++ rest) = some (matchers, rest) := by
  cases block with
  | @braces first second third terms comma matchers left written middle trailing right =>
      obtain ⟨stop, ends, last⟩ := closing middle trailing right rest rfl
      simp only [List.cons_append, List.append_assoc, List.nil_append, takeBlock?]
      generalize second ++ (comma ++ (third ++ '}' :: rest)) = tail at stop ends last ⊢
      obtain ⟨later, read, same⟩ := takeMatchers_append written stop ends
      rw [skipBlanks_append left, read]
      dsimp only
      rw [same, last]
      rfl

end Blocks

/-! ## Selectors -/

section Selectors

variable {text rest : List Char} {matchers : List Matcher}

theorem takeMetric_some (taken : takeMetric text = (matchers, rest)) :
    ∃ name, Metric name matchers ∧ text = name ++ rest := by
  unfold takeMetric at taken
  split at taken
  · next name later read =>
      cases taken
      obtain ⟨spelled, rfl⟩ := takeName?_some read
      exact ⟨name, .named spelled, rfl⟩
  · cases taken
    exact ⟨[], .none, rfl⟩

/-- What is read is a selector, with blanks before it at most. -/
theorem takeSelector_some (taken : takeSelector text = (matchers, rest)) :
    ∃ blanks written, Blanks blanks ∧ Written written matchers ∧
      text = blanks ++ (written ++ rest) := by
  obtain ⟨blanks, only, split⟩ := skipBlanks_split text
  unfold takeSelector at taken
  cases read : takeMetric (skipBlanks text) with
  | mk named later =>
      rw [read] at taken
      dsimp only at taken
      obtain ⟨name, metric, shape⟩ := takeMetric_some read
      obtain ⟨between, blank, behind⟩ := skipBlanks_split later
      split at taken
      · next found left block =>
          cases taken
          obtain ⟨braces, written, tail⟩ := takeBlock?_some block
          refine ⟨blanks, _, only, .selector metric blank (.some written), ?_⟩
          rw [split, shape, behind, tail]
          simp
      · cases taken
        have alone := Written.selector metric blank .none
        refine ⟨blanks, _, only, List.append_nil matchers ▸ alone, ?_⟩
        rw [split, shape]
        generalize skipBlanks later = left at behind ⊢
        rw [behind]
        simp

/-- A block begins with a mark that is no blank. -/
theorem OptionalBlock.front (block : OptionalBlock text matchers) :
    Stops text ∧ skipBlanks text = text := by
  cases block with
  | none => exact ⟨stops_nil, rfl⟩
  | some block =>
      cases block with
      | braces left terms middle trailing right =>
          exact ⟨stops_cons (by decide) _, skipBlanks_of_not (by decide) _⟩

theorem Metric.takeMetric_append (metric : Metric text matchers) {blanks : List Char}
    (between : Blanks blanks) (stops : Stops rest) (solid : skipBlanks rest = rest) :
    ∃ later, takeMetric (skipBlanks (text ++ (blanks ++ rest))) = (matchers, later) ∧
      skipBlanks later = rest := by
  have ahead : skipBlanks (blanks ++ rest) = rest := (skipBlanks_append between rest).trans solid
  cases metric with
  | none =>
      refine ⟨rest, ?_, solid⟩
      rw [List.nil_append, ahead, takeMetric]
      cases rest with
      | nil => rfl
      | cons char inner => rw [takeName?_of_mark metricNames_apart (stops char rfl)]
  | named spelled =>
      refine ⟨blanks ++ rest, ?_, ahead⟩
      rw [spelled.skipBlanks_append metricNames_apart, takeMetric,
        takeName?_append metricNames_apart spelled (stops_blanks between stops)]

/-- A selector is read whole. -/
theorem Written.takeSelector (written : Written text matchers) :
    takeSelector text = (matchers, []) := by
  cases written with
  | @selector name blanks braces named inner metric between block =>
      obtain ⟨stops, solid⟩ := block.front
      obtain ⟨later, read, behind⟩ := metric.takeMetric_append between stops solid
      rw [Selector.takeSelector, read]
      dsimp only
      rw [behind]
      cases block with
      | none =>
          rw [List.append_nil]
          rfl
      | some block =>
          have found := block.takeBlock?_append []
          rw [List.append_nil] at found
          rw [found]

end Selectors

/-! ## White space around a selector -/

theorem isWhitespace_of_blank {char : Char} (blank : isBlank char = true) :
    Text.isWhitespace char = true := by
  rcases isBlank_cases blank with rfl | rfl | rfl | rfl <;> decide

/-- Nothing is left of a text of white space only. -/
theorem all_of_trim_nil {text : List Char} (nothing : Text.trim text = []) :
    ∀ char ∈ text, Text.isWhitespace char = true := by
  have tail := List.reverse_eq_nil_iff.mp nothing
  have kept : ∀ char ∈ text.dropWhile Text.isWhitespace, Text.isWhitespace char = true :=
    fun char inside => List.dropWhile_eq_nil_iff.mp tail char (List.mem_reverse.mpr inside)
  intro char inside
  rw [← List.takeWhile_append_dropWhile (p := Text.isWhitespace) (l := text)] at inside
  rcases List.mem_append.mp inside with front | back
  · exact List.mem_takeWhile_imp front
  · exact kept char back

/-- No white space is left at the end. -/
theorem trim_last {text : List Char} :
    ∀ char ∈ (Text.trim text).getLast?, Text.isWhitespace char = false := by
  intro char last
  rw [Text.trim, List.getLast?_reverse] at last
  have kept := List.head?_dropWhile_not Text.isWhitespace
    (text.dropWhile Text.isWhitespace).reverse
  rw [last] at kept
  exact kept

/-- Nor is any left at the start. -/
theorem trim_head {text : List Char} :
    ∀ char ∈ (Text.trim text).head?, Text.isWhitespace char = false := by
  intro char first
  have front : Text.trim text <+: text.dropWhile Text.isWhitespace := by
    have suffix := List.dropWhile_suffix (l := (text.dropWhile Text.isWhitespace).reverse)
      Text.isWhitespace
    have turned := List.reverse_prefix.mpr suffix
    rwa [List.reverse_reverse] at turned
  obtain ⟨more, whole⟩ := front
  have kept := List.head?_dropWhile_not Text.isWhitespace text
  rw [← whole, List.head?_append, first] at kept
  exact kept

/-- If only white space is left behind a part of a trimmed text, then nothing is. -/
theorem eq_nil_of_suffix {text rest : List Char} (suffix : rest <:+ Text.trim text)
    (spent : Text.trim rest = []) : rest = [] := by
  apply List.getLast?_eq_none_iff.mp
  apply Option.eq_none_iff_forall_not_mem.mpr
  intro char last
  obtain ⟨front, whole⟩ := suffix
  have atEnd : char ∈ (Text.trim text).getLast? := by
    rw [← whole, List.getLast?_append, last]
    rfl
  have white := all_of_trim_nil spent char (List.mem_of_getLast? last)
  rw [trim_last char atEnd] at white
  cases white

theorem trim_braces (inner : List Char) :
    Text.trim ('{' :: (inner ++ ['}'])) = '{' :: (inner ++ ['}']) := by
  have left : ('{' :: (inner ++ ['}'])).dropWhile Text.isWhitespace = '{' :: (inner ++ ['}']) :=
    List.dropWhile_cons_of_neg (by decide)
  have turned : ('{' :: (inner ++ ['}'])).reverse = '}' :: (inner.reverse ++ ['{']) := by simp
  have right : ('}' :: (inner.reverse ++ ['{'])).dropWhile Text.isWhitespace =
      '}' :: (inner.reverse ++ ['{']) := List.dropWhile_cons_of_neg (by decide)
  rw [Text.trim, left, turned, right, ← turned, List.reverse_reverse]

/-! ## Whole texts -/

/-- A trimmed text that is read but for white space is read whole. -/
theorem written_of_trimmed {text rest : List Char} {matchers : List Matcher}
    (taken : takeSelector (Text.trim text) = (matchers, rest)) (spent : Text.trim rest = []) :
    Written (Text.trim text) matchers := by
  obtain ⟨blanks, written, only, grammar, whole⟩ := takeSelector_some taken
  have noRest : rest = [] := by
    have suffix : rest <:+ Text.trim text := by
      rw [whole, ← List.append_assoc]
      exact List.suffix_append _ _
    exact eq_nil_of_suffix suffix spent
  have noBlanks : blanks = [] := by
    cases blanks with
    | nil => rfl
    | cons char blanks =>
        have atStart : char ∈ (Text.trim text).head? := by
          rw [whole]
          rfl
        have white := isWhitespace_of_blank (only char (.head _))
        rw [trim_head char atStart] at white
        cases white
  rw [noRest, noBlanks, List.append_nil, List.nil_append] at whole
  exact whole ▸ grammar

/-- A text that is a selector is read as it, or refused since no search can start with it. -/
theorem parse_of_written {text : String} {matchers : List Matcher}
    (written : Written (Text.trim text.toList) matchers) (some_ : matchers ≠ []) :
    parse text =
      if hasPositive ⟨matchers⟩ then .ok ⟨matchers⟩
      else .error (.noPositive (render ⟨matchers⟩)) := by
  have read := written.takeSelector
  have notEmpty : Text.trim text.toList ≠ [] := by
    intro empty
    rw [empty] at read
    exact some_ (Prod.mk.inj read).1.symm
  have spent : Text.trim [] = [] := rfl
  cases positive : hasPositive ⟨matchers⟩ with
  | true => simp [parse, notEmpty, read, spent, some_, positive]
  | false => simp [parse, notEmpty, read, spent, some_, positive]

/-- A text is read as a selector exactly if it is one that a search can start with. -/
theorem parse_ok_iff {text : String} {matchers : List Matcher} :
    parse text = .ok ⟨matchers⟩ ↔
      matchers ≠ [] ∧ hasPositive ⟨matchers⟩ = true ∧ Written (Text.trim text.toList) matchers := by
  constructor
  · intro parsed
    unfold parse at parsed
    dsimp only at parsed
    split at parsed
    · cases parsed
    · cases read : takeSelector (Text.trim text.toList) with
      | mk found rest =>
          rw [read] at parsed
          dsimp only at parsed
          split at parsed
          · cases parsed
          · next spent =>
              split at parsed
              · cases parsed
              · next notNone =>
                  split at parsed
                  · cases parsed
                  · next positive =>
                      cases parsed
                      have written := written_of_trimmed read (by simpa using spent)
                      exact ⟨by simpa using notNone, by simpa using positive, written⟩
  · rintro ⟨notNone, positive, written⟩
    rw [parse_of_written written notNone, if_pos positive]

/-! ## Terms one after another -/

section Listed

variable {form : Matcher → List Char} {reads : Matcher → Matcher} {matchers : List Matcher}

theorem listed_following (terms : ∀ matcher ∈ matchers, Term (form matcher) (reads matcher))
    (first : Matcher) :
    ∃ others, Following others (matchers.map reads) ∧
      List.intercalate [',', ' '] ((first :: matchers).map form) = form first ++ others := by
  induction matchers generalizing first with
  | nil => exact ⟨[], .none, by simp [List.intercalate]⟩
  | cons next rest ih =>
      obtain ⟨here, later⟩ := List.forall_mem_cons.mp terms
      obtain ⟨others, following, whole⟩ := ih later next
      have none : Blanks [] := nofun
      have blank : Blanks [' '] := by
        simp [Blanks, isBlank]
      refine ⟨_, .more none blank here following, ?_⟩
      rw [List.map_cons] at whole ⊢
      rw [List.map_cons, List.intercalate_cons_cons, whole]
      simp

/-- Forms of matchers with commas between them are a block, in whatever way they read. -/
theorem listed_block (terms : ∀ matcher ∈ matchers, Term (form matcher) (reads matcher)) :
    Block ('{' :: (List.intercalate [',', ' '] (matchers.map form) ++ ['}']))
      (matchers.map reads) := by
  have none : Blanks [] := nofun
  have inner : Terms (List.intercalate [',', ' '] (matchers.map form)) (matchers.map reads) := by
    cases matchers with
    | nil => exact .none
    | cons first rest =>
        obtain ⟨here, later⟩ := List.forall_mem_cons.mp terms
        obtain ⟨others, following, whole⟩ := listed_following later first
        rw [whole]
        exact .some here following
  exact .braces none inner none .none none

end Listed

/-! ## Writing matchers -/

/-- The value with a backslash before each backslash and each quote. -/
def escaped (quote : Char) (value : List Char) : List Char :=
  value.flatMap fun char => if char = '\\' ∨ char = quote then ['\\', char] else [char]

theorem escaped_body (quote : Char) (value : List Char) :
    Body quote (escaped quote value) value := by
  induction value with
  | nil => exact .nil
  | cons char value ih =>
      rw [escaped, List.flatMap_cons]
      by_cases special : char = '\\' ∨ char = quote
      · rw [if_pos special]
        exact .itself special ih
      · rw [if_neg special]
        exact .plain (fun same => special (.inr same)) (fun same => special (.inl same)) ih

/-- A matcher as a term, its value in quotes. -/
def spellTerm (quote : Char) (matcher : Matcher) : List Char :=
  matcher.name.toList ++
    (matcher.op.text.toList ++ quote :: (escaped quote matcher.value.toList ++ [quote]))

/-- Matchers as a block. -/
def spell (quote : Char) (matchers : List Matcher) : List Char :=
  '{' :: (List.intercalate [',', ' '] (matchers.map (spellTerm quote)) ++ ['}'])

theorem spellTerm_term {quote : Char} (mark : IsQuote quote) {matcher : Matcher}
    (legal : labelNames.Spells matcher.name.toList) : Term (spellTerm quote matcher) matcher := by
  have none : Blanks [] := nofun
  have value := Quoted.between mark (escaped_body quote matcher.value.toList)
  have term : Term (spellTerm quote matcher)
      ⟨String.ofList matcher.name.toList, matcher.op, String.ofList matcher.value.toList⟩ :=
    .of legal none none value
  rwa [String.ofList_toList, String.ofList_toList] at term

theorem spell_block {quote : Char} (mark : IsQuote quote) {matchers : List Matcher}
    (legal : ∀ matcher ∈ matchers, labelNames.Spells matcher.name.toList) :
    Block (spell quote matchers) matchers := by
  have terms : ∀ matcher ∈ matchers, Term (spellTerm quote matcher) (id matcher) :=
    fun matcher inside => spellTerm_term mark (legal matcher inside)
  have block := listed_block terms
  rwa [List.map_id] at block

/-- Matchers that are written out are read back. -/
theorem parse_spell {quote : Char} (mark : IsQuote quote) {matchers : List Matcher}
    (legal : ∀ matcher ∈ matchers, labelNames.Spells matcher.name.toList)
    (positive : hasPositive ⟨matchers⟩ = true) :
    parse (String.ofList (spell quote matchers)) = .ok ⟨matchers⟩ := by
  have none : Blanks [] := nofun
  have whole : Written (spell quote matchers) matchers :=
    .selector .none none (.some (spell_block mark legal))
  refine parse_ok_iff.mpr ⟨?_, positive, ?_⟩
  · rintro rfl
    cases positive
  · rw [String.toList_ofList, spell, trim_braces]
    exact whole

/-- The texts that are read as selectors are those of the grammar, each as what it stands for. In
particular matchers of any values that are written out with quotes of either kind are read back. -/
theorem parse_reads_grammar :
    (∀ (text : String) (matchers : List Matcher),
      parse text = .ok ⟨matchers⟩ ↔
        matchers ≠ [] ∧ hasPositive ⟨matchers⟩ = true ∧
          Written (Text.trim text.toList) matchers) ∧
      ∀ (quote : Char) (matchers : List Matcher), IsQuote quote →
        (∀ matcher ∈ matchers, labelNames.Spells matcher.name.toList) →
        hasPositive ⟨matchers⟩ = true →
          parse (String.ofList (spell quote matchers)) = .ok ⟨matchers⟩ := by
  refine ⟨fun _ _ => parse_ok_iff, ?_⟩
  exact fun _ _ mark legal positive => parse_spell mark legal positive

/-- A value with a quote of either kind and a backslash. -/
def sampleMatchers : List Matcher :=
  [⟨"job", .equal, "it's \"a\\b\""⟩, ⟨"path", .notDescribedBy, "\\d+\n"⟩]

theorem parse_reads_grammar_sample :
    parse "\x7bjob=\"it's \\\"a\\\\b\\\"\", path!~\"\\\\d+\n\"\x7d" = .ok ⟨sampleMatchers⟩ := by
  have job : labelNames.Spells "job".toList :=
    .name (by decide) (List.all_eq_true.mp (by decide))
  have path : labelNames.Spells "path".toList :=
    .name (by decide) (List.all_eq_true.mp (by decide))
  have legal : ∀ matcher ∈ sampleMatchers, labelNames.Spells matcher.name.toList :=
    List.forall_mem_cons.mpr ⟨job, List.forall_mem_cons.mpr ⟨path, nofun⟩⟩
  exact parse_reads_grammar.2 '"' sampleMatchers (.inl rfl) legal rfl

end SeriesIndex.Selector
