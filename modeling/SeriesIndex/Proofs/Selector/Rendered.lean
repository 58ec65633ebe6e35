import SeriesIndex.Proofs.Selector.Written

/-!
# Reading selectors that were shown

A selector is shown as a block of its matchers, with each value quoted as texts are for a reader.
Such a block is a selector by the grammar, but the two sides do not escape alike: a character that
would not show is written as an escape, and that stands for itself when it is read. So a selector is
read back exactly if its values are made of characters that show, line feeds and tabs.
-/

namespace SeriesIndex

/-! ## Values -/

namespace Selector

/-- Where a value is read, the shown form of the character stands for the character. -/
def isReadBack (char : Char) : Bool := char = '\n' || char = '\t' || Text.isVisible char

theorem isReadBack_iff {char : Char} :
    isReadBack char = true ↔ char = '\n' ∨ char = '\t' ∨ Text.isVisible char = true := by
  simp [isReadBack, or_assoc]

/-- What the shown form of a character stands for where a value is read. -/
def echo (char : Char) : List Char :=
  if isReadBack char then [char] else Text.Quoted.escape char

section Characters

variable {char : Char} {text value : List Char}

theorem body_of_plain {front : List Char} (plain : ∀ char ∈ front, char ≠ '"' ∧ char ≠ '\\')
    (body : Body '"' text value) : Body '"' (front ++ text) (front ++ value) := by
  induction front with
  | nil => exact body
  | cons char front ih =>
      obtain ⟨⟨unquoted, single⟩, later⟩ := List.forall_mem_cons.mp plain
      exact .plain unquoted single (ih later)

/-- The digits of a number are neither quotes nor backslashes. -/
theorem hexadecimal_plain (number : Nat) :
    ∀ char ∈ Text.Quoted.hexadecimal number, char ≠ '"' ∧ char ≠ '\\' := by
  have digit : ∀ number, Nat.digitChar number ≠ '"' ∧ Nat.digitChar number ≠ '\\' :=
    fun number => ⟨Nat.digitChar_ne '"' (by decide), Nat.digitChar_ne '\\' (by decide)⟩
  induction number using Nat.strongRecOn with
  | ind number ih =>
      intro char inside
      rw [Text.Quoted.hexadecimal, Nat.toDigits_eq_if (by decide)] at inside
      split at inside
      · rw [List.mem_singleton.mp inside]
        exact digit number
      · next large =>
          rcases List.mem_append.mp inside with front | last
          · exact ih (number / 16) (by omega) char front
          · rw [List.mem_singleton.mp last]
            exact digit (number % 16)

/-- A character that is not read back is shown as an escape that nothing is made of. -/
theorem escape_of_lost (lost : isReadBack char = false) :
    ∃ kind more, Text.Quoted.escape char = '\\' :: kind :: more ∧
      kind ∉ ['n', 't', '\\', '"'] ∧ ∀ char ∈ more, char ≠ '"' ∧ char ≠ '\\' := by
  obtain ⟨⟨notFeed, notTab⟩, hidden⟩ : (char ≠ '\n' ∧ char ≠ '\t') ∧
      Text.isVisible char = false := by simpa [isReadBack] using lost
  have notSpecial : ¬ (char = '"' || char = '\\') := by
    intro special
    rcases (by simpa using special : char = '"' ∨ char = '\\') with rfl | rfl
    · cases hidden
    · cases hidden
  rw [Text.Quoted.escape, if_neg notSpecial, if_neg notFeed]
  split
  · exact ⟨'r', [], rfl, by decide, nofun⟩
  · split
    · exact ⟨'0', [], rfl, by decide, nofun⟩
    · rw [hidden]
      refine ⟨'u', '{' :: (Text.Quoted.hexadecimal char.toNat ++ ['}']), rfl, by decide, ?_⟩
      intro other inside
      rcases List.mem_cons.mp inside with rfl | inside
      · decide
      · rcases List.mem_append.mp inside with digit | last
        · exact hexadecimal_plain _ other digit
        · rw [List.mem_singleton.mp last]
          decide

theorem echo_of_readBack (same : isReadBack char = true) : echo char = [char] := if_pos same

theorem echo_of_lost (lost : isReadBack char = false) : echo char = Text.Quoted.escape char :=
  if_neg (by simp [lost])

/-- A character that shows is shown as itself, quotes and backslashes apart. -/
theorem escape_of_visible (visible : Text.isVisible char = true) (unquoted : char ≠ '"')
    (single : char ≠ '\\') : Text.Quoted.escape char = [char] := by
  have apart : ∀ {hidden}, Text.isVisible hidden = false → char ≠ hidden := by
    rintro hidden invisible rfl
    exact Bool.false_ne_true (invisible.symm.trans visible)
  rw [Text.Quoted.escape, if_neg (by simp [unquoted, single]), if_neg (apart rfl),
    if_neg (apart rfl), if_neg (apart rfl), if_neg (apart rfl), if_pos visible]

/-- The shown form of a character may stand in a value, where it stands for its echo. -/
theorem escape_body (char : Char) (body : Body '"' text value) :
    Body '"' (Text.Quoted.escape char ++ text) (echo char ++ value) := by
  cases same : isReadBack char with
  | false =>
      obtain ⟨kind, more, form, unknown, plain⟩ := escape_of_lost same
      simp only [List.mem_cons, List.not_mem_nil, or_false, not_or] at unknown
      obtain ⟨notFeed, notTab, notBackslash, notQuote⟩ := unknown
      rw [echo_of_lost same, form]
      exact .pair notFeed notTab (not_or.mpr ⟨notBackslash, notQuote⟩) (body_of_plain plain body)
  | true =>
      rw [echo_of_readBack same]
      rcases isReadBack_iff.mp same with rfl | rfl | visible
      · exact .lineFeed body
      · exact .tab body
      · by_cases special : char = '\\' ∨ char = '"'
        · rw [Text.Quoted.escape, if_pos (by simpa [or_comm] using special)]
          exact .itself special body
        · obtain ⟨single, unquoted⟩ := not_or.mp special
          rw [escape_of_visible visible unquoted single]
          exact .plain unquoted single body

theorem flatMap_escape_body (value : List Char) :
    Body '"' (value.flatMap Text.Quoted.escape) (value.flatMap echo) := by
  induction value with
  | nil => exact .nil
  | cons char rest ih =>
      rw [List.flatMap_cons, List.flatMap_cons]
      exact escape_body char ih

theorem length_le_echo (value : List Char) : value.length ≤ (value.flatMap echo).length := by
  induction value with
  | nil => exact Nat.le_refl _
  | cons char rest ih =>
      have some_ : 1 ≤ (echo char).length := by
        cases same : isReadBack char with
        | true => rw [echo_of_readBack same, List.length_singleton]
        | false =>
            obtain ⟨kind, more, form, -⟩ := escape_of_lost same
            simp [echo_of_lost same, form]
      rw [List.flatMap_cons, List.length_append, List.length_cons]
      omega

/-- A value stays as it is exactly if all its characters are read back. -/
theorem flatMap_echo_eq_iff {value : List Char} :
    value.flatMap echo = value ↔ ∀ char ∈ value, isReadBack char = true := by
  induction value with
  | nil => simp
  | cons char rest ih =>
      rw [List.flatMap_cons, List.forall_mem_cons, ← ih]
      cases same : isReadBack char with
      | true =>
          rw [echo_of_readBack same]
          simp
      | false =>
          -- the escape makes the value longer, and nothing behind it makes up for that
          obtain ⟨kind, more, form, -⟩ := escape_of_lost same
          refine iff_of_false (fun equal => ?_) (fun both => Bool.false_ne_true both.1)
          have lengths := congrArg List.length equal
          have atLeast := length_le_echo rest
          rw [echo_of_lost same, form, List.length_append] at lengths
          simp only [List.length_cons] at lengths
          omega

end Characters

end Selector

/-! ## Selectors -/

/-- The matcher that the shown form of a matcher is read as. -/
def Matcher.echo (matcher : Matcher) : Matcher :=
  { matcher with value := String.ofList (matcher.value.toList.flatMap Selector.echo) }

theorem Matcher.echo_eq_iff {matcher : Matcher} :
    matcher.echo = matcher ↔ ∀ char ∈ matcher.value.toList, Selector.isReadBack char = true := by
  obtain ⟨name, op, value⟩ := matcher
  rw [← Selector.flatMap_echo_eq_iff, ← String.ofList_inj, String.ofList_toList]
  simp [echo]

namespace Selector

/-- The selector that the shown form of a selector is read as. -/
def echoed (selector : Selector) : Selector := ⟨selector.matchers.map Matcher.echo⟩

theorem echoed_eq_iff {selector : Selector} :
    selector.echoed = selector ↔
      ∀ matcher ∈ selector.matchers, ∀ char ∈ matcher.value.toList, isReadBack char = true := by
  obtain ⟨matchers⟩ := selector
  have same : matchers.map Matcher.echo = matchers ↔
      ∀ matcher ∈ matchers, matcher.echo = matcher := by
    simpa using List.map_inj_left (l := matchers) (f := Matcher.echo) (g := id)
  simp only [echoed, mk.injEq, same, Matcher.echo_eq_iff]

/-! ### Labels of matchers that were read -/

section Legal

variable {text : List Char} {matcher : Matcher} {matchers : List Matcher}

theorem Term.legal (term : Term text matcher) : labelNames.Spells matcher.name.toList := by
  cases term with
  | of name left right quoted => rwa [String.toList_ofList]

theorem Following.legal (following : Following text matchers) :
    ∀ matcher ∈ matchers, labelNames.Spells matcher.name.toList := by
  induction following with
  | none => exact fun _ impossible => absurd impossible List.not_mem_nil
  | more left right term others ih => exact List.forall_mem_cons.mpr ⟨term.legal, ih⟩

theorem Block.legal (block : Block text matchers) :
    ∀ matcher ∈ matchers, labelNames.Spells matcher.name.toList := by
  cases block with
  | braces left terms middle trailing right =>
      cases terms with
      | none => exact fun _ impossible => absurd impossible List.not_mem_nil
      | some term others => exact List.forall_mem_cons.mpr ⟨term.legal, others.legal⟩

/-- The name of the metric can be written as a label. -/
theorem metricName_legal : labelNames.Spells Key.metricName.toList :=
  .name (by decide) (List.all_eq_true.mp (by decide))

theorem Written.legal (written : Written text matchers) :
    ∀ matcher ∈ matchers, labelNames.Spells matcher.name.toList := by
  cases written with
  | selector metric between block =>
      intro matcher inside
      rcases List.mem_append.mp inside with named | inner
      · cases metric with
        | none => exact absurd named List.not_mem_nil
        | named spelled =>
            rw [List.mem_singleton.mp named]
            exact metricName_legal
      · cases block with
        | none => exact absurd inner List.not_mem_nil
        | some block => exact block.legal matcher inner

end Legal

/-! ### Shown selectors -/

theorem render_term {matcher : Matcher} (legal : labelNames.Spells matcher.name.toList) :
    Term matcher.render.toList matcher.echo := by
  have none : Blanks [] := nofun
  have value := Quoted.between (.inl rfl) (flatMap_escape_body matcher.value.toList)
  have term : Term _ ⟨_, matcher.op, _⟩ := .of legal none none value
  rw [String.ofList_toList] at term
  have form : matcher.render.toList = matcher.name.toList ++ ([] ++ (matcher.op.text.toList ++
      ([] ++ '"' :: (matcher.value.toList.flatMap Text.Quoted.escape ++ ['"'])))) := by
    simp [Matcher.render, Text.quoted, Text.Quoted.encode]
  rw [form]
  exact term

/-- The shown form of a selector is a selector by the grammar. -/
theorem render_written {selector : Selector}
    (legal : ∀ matcher ∈ selector.matchers, labelNames.Spells matcher.name.toList) :
    Written (Text.trim selector.render.toList) selector.echoed.matchers := by
  have none : Blanks [] := nofun
  have block := listed_block fun matcher inside => render_term (legal matcher inside)
  have form : selector.render.toList = '{' :: (List.intercalate [',', ' ']
      (selector.matchers.map fun matcher => matcher.render.toList) ++ ['}']) := by
    simp [render, Function.comp_def]
  rw [form, trim_braces]
  exact .selector .none none (.some block)

/-- The shown form of a selector that has been read is read in turn, as the selector with the
escapes of what does not show in its values. It is the same selector exactly if there are none of
them, that is if all characters of its values show by themselves or are line feeds or tabs. -/
theorem parse_render {text : String} {selector : Selector} (parsed : parse text = .ok selector) :
    (parse selector.render =
      if selector.echoed.hasPositive then .ok selector.echoed
      else .error (.noPositive selector.echoed.render)) ∧
    (parse selector.render = .ok selector ↔
      ∀ matcher ∈ selector.matchers, ∀ char ∈ matcher.value.toList,
        char = '\n' ∨ char = '\t' ∨ Text.isVisible char = true) := by
  obtain ⟨some_, positive, written⟩ := parse_ok_iff.mp parsed
  have read : parse selector.render = if selector.echoed.hasPositive then .ok selector.echoed
      else .error (.noPositive selector.echoed.render) :=
    parse_of_written (render_written written.legal) (by simpa [echoed] using some_)
  have same : selector.echoed = selector ↔ ∀ matcher ∈ selector.matchers,
      ∀ char ∈ matcher.value.toList, char = '\n' ∨ char = '\t' ∨ Text.isVisible char = true := by
    simpa only [isReadBack_iff] using echoed_eq_iff
  refine ⟨read, ?_⟩
  rw [read, ← same]
  constructor
  · intro back
    split at back
    · exact Except.ok.inj back
    · cases back
  · intro back
    rw [back, if_pos positive]

/-- Values with quotes of either kind, a backslash and a line feed are read back. -/
theorem parse_render_sample :
    parse (String.ofList (spell '\'' sampleMatchers)) = .ok ⟨sampleMatchers⟩ ∧
      parse (render ⟨sampleMatchers⟩) = .ok ⟨sampleMatchers⟩ := by
  have job : labelNames.Spells "job".toList :=
    .name (by decide) (List.all_eq_true.mp (by decide))
  have path : labelNames.Spells "path".toList :=
    .name (by decide) (List.all_eq_true.mp (by decide))
  have legal : ∀ matcher ∈ sampleMatchers, labelNames.Spells matcher.name.toList :=
    List.forall_mem_cons.mpr ⟨job, List.forall_mem_cons.mpr ⟨path, nofun⟩⟩
  have parsed := parse_spell (.inr rfl) legal rfl
  have shown : (sampleMatchers.all fun matcher => matcher.value.toList.all isReadBack) = true := by
    decide +kernel
  refine ⟨parsed, (parse_render parsed).2.mpr fun matcher inside char shows => ?_⟩
  exact isReadBack_iff.mp
    (List.all_eq_true.mp (List.all_eq_true.mp shown matcher inside) char shows)

/-- A carriage return is shown as an escape, and that is not read as a carriage return. -/
theorem parse_render_carriageReturn :
    parse "\x7ba=\"\r\"\x7d" = .ok ⟨[⟨"a", .equal, "\r"⟩]⟩ ∧
      render ⟨[⟨"a", .equal, "\r"⟩]⟩ = "\x7ba=\"\\r\"\x7d" ∧
      parse "\x7ba=\"\\r\"\x7d" = .ok ⟨[⟨"a", .equal, "\\r"⟩]⟩ ∧
      ¬ ∀ text selector, parse text = .ok selector → parse selector.render = .ok selector := by
  have parsed : parse "\x7ba=\"\r\"\x7d" = .ok ⟨[⟨"a", .equal, "\r"⟩]⟩ := by decide +kernel
  have shown : render ⟨[⟨"a", .equal, "\r"⟩]⟩ = "\x7ba=\"\\r\"\x7d" := by decide +kernel
  have back : parse "\x7ba=\"\\r\"\x7d" = .ok ⟨[⟨"a", .equal, "\\r"⟩]⟩ := by decide +kernel
  refine ⟨parsed, shown, back, fun faithful => ?_⟩
  have same := faithful _ _ parsed
  rw [shown, back] at same
  exact absurd same (by decide)

end Selector

end SeriesIndex
