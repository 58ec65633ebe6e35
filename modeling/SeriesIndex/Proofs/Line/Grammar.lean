import Mathlib.Data.List.Basic
import Mathlib.Data.List.TakeWhile
import SeriesIndex.Line
import SeriesIndex.Proofs.Line.Quotation
import SeriesIndex.Proofs.Numeral
import SeriesIndex.Proofs.Outcome

/-!
# The grammar of lines

What a line has to look like to stand for a row. The grammar depends on which characters may stand
in the names of labels. Lines are read by the grammar that allows all but the equals sign in them,
and so a comma, a brace or a quote in front of a label can become part of its name. The stricter
grammar that keeps these marks out of names holds exactly for the lines whose rows have no such
name.
-/

namespace SeriesIndex.Line

/-! ## The grammar -/

/-- A run of blanks. -/
def Blanks (text : List Char) : Prop := ∀ char ∈ text, isBlank char = true

/-- A metric ends where the labels or a blank start. -/
def EndsMetric (char : Char) : Prop := char = '{' ∨ isBlank char = true

/-- A metric is not empty, and no number sign stands at its start. -/
structure Metric (metric : List Char) : Prop where
  filled : metric ≠ []
  plain : ∀ char ∈ metric, ¬ EndsMetric char
  noRemark : metric.head? ≠ some '#'

section Grammar

/- The characters that names are made of. -/
variable (plain : Char → Prop)

/-- A name has no blanks around it and does not start like the end of a block. -/
structure Named (name : List Char) : Prop where
  plain : ∀ char ∈ name, plain char
  start : ∀ char ∈ name.head?, char ≠ '}' ∧ isBlank char = false
  stop : ∀ char ∈ name.getLast?, isBlank char = false

/-- The label of a name and a value; one without a name is left out. -/
def labelOf (name value : List Char) : List Label :=
  if name.isEmpty then [] else [⟨String.ofList name, String.ofList value⟩]

/-- A name, an equals sign and a value in quotes. -/
inductive Term : List Char → List Label → Prop where
  | of {before name middle after inner value : List Char} (left : Blanks before)
      (named : Named plain name) (between : Blanks middle) (right : Blanks after)
      (stands : Quotation.unescape inner = .ok value) :
      Term (before ++ (name ++ (middle ++ '=' :: (after ++ written inner)))) (labelOf name value)

/-- Terms with single commas between them; behind the last one may stand a comma too. -/
inductive Terms : List Char → List Label → Prop where
  | none {blanks : List Char} (only : Blanks blanks) : Terms blanks []
  | last {text blanks : List Char} {labels : List Label} (term : Term plain text labels)
      (right : Blanks blanks) : Terms (text ++ blanks) labels
  | more {text blanks rest : List Char} {labels others : List Label}
      (term : Term plain text labels) (between : Blanks blanks) (terms : Terms rest others) :
      Terms (text ++ (blanks ++ ',' :: rest)) (labels ++ others)

/-- What stands between a metric and a value: blanks, or a block of labels in braces. -/
inductive Block : List Char → List Label → Prop where
  | none {blanks : List Char} (only : Blanks blanks) (apart : blanks ≠ []) : Block blanks []
  | braces {before text after : List Char} {labels : List Label} (left : Blanks before)
      (terms : Terms plain text labels) (right : Blanks after) :
      Block (before ++ '{' :: (text ++ '}' :: after)) labels

/-- What follows a value: a time apart from it, or nothing. -/
inductive Timed (default : UInt64) : List Char → UInt64 → Prop where
  | without {blanks : List Char} (only : Blanks blanks) : Timed default blanks default
  | with {before digits after : List Char} {time : UInt64} (left : Blanks before)
      (apart : before ≠ []) (numeral : Text.Numeral.word64? digits = some time)
      (right : Blanks after) : Timed default (before ++ (digits ++ after)) time

/-- A line that stands for a row. A carriage return may end it. -/
inductive Spells (default : UInt64) : List Char → Row → Prop where
  | row {blanks metric block inner value tail carriage : List Char} {labels : List Label}
      {time : UInt64} (left : Blanks blanks) (named : Metric metric)
      (labelled : Block plain block labels) (stands : Quotation.unescape inner = .ok value)
      (timed : Timed default tail time) (ends : carriage = [] ∨ carriage = ['\r']) :
      Spells default (blanks ++ (metric ++ (block ++ (written inner ++ (tail ++ carriage)))))
        ⟨String.ofList metric, labels, time, String.ofList value⟩

end Grammar

/-! ## Blanks and marks -/

section Marks

variable {keep : Char → Bool} {front rest text blanks : List Char} {mark : Char}

theorem takeWhile_mark (kept : ∀ char ∈ front, keep char = true) (stops : keep mark = false) :
    (front ++ mark :: rest).takeWhile keep = front := by
  rw [List.takeWhile_append_of_pos kept, List.takeWhile_cons, stops]
  simp

theorem dropWhile_mark (kept : ∀ char ∈ front, keep char = true) (stops : keep mark = false) :
    (front ++ mark :: rest).dropWhile keep = mark :: rest := by
  rw [List.dropWhile_append_of_pos kept, List.dropWhile_cons, stops]
  simp

theorem isBlank_iff : isBlank mark = true ↔ mark = ' ' ∨ mark = '\t' := by
  simp [isBlank]

theorem Blanks.nil : Blanks [] := nofun

theorem Blanks.space : Blanks [' '] := fun _ inside => List.mem_singleton.mp inside ▸ rfl

theorem skipBlanks_of_head (start : ∀ char ∈ text.head?, isBlank char = false) :
    skipBlanks text = text := by
  cases text with
  | nil => rfl
  | cons char rest =>
      rw [skipBlanks, List.dropWhile_cons, start char rfl]
      rfl

theorem Blanks.skip (only : Blanks blanks) (text : List Char) :
    skipBlanks (blanks ++ text) = skipBlanks text :=
  List.dropWhile_append_of_pos only

theorem Blanks.skip_all (only : Blanks blanks) : skipBlanks blanks = [] :=
  List.dropWhile_eq_nil_iff.mpr only

theorem skipBlanks_split (text : List Char) :
    ∃ blanks, Blanks blanks ∧ text = blanks ++ skipBlanks text :=
  ⟨text.takeWhile isBlank, fun _ inside => List.mem_takeWhile_imp inside,
    List.takeWhile_append_dropWhile.symm⟩

theorem skipBlanks_head (text : List Char) :
    ∀ char ∈ (skipBlanks text).head?, isBlank char = false := by
  intro char first
  have other := List.head?_dropWhile_not isBlank text
  rw [skipBlanks] at first
  rw [first] at other
  exact other

theorem trimEnd_of_last (stop : ∀ char ∈ text.getLast?, isBlank char = false) :
    trimEnd text = text := by
  have last : skipBlanks text.reverse = text.reverse :=
    skipBlanks_of_head (by rwa [List.head?_reverse])
  rw [trimEnd]
  exact (congrArg List.reverse last).trans text.reverse_reverse

theorem Blanks.trim (only : Blanks blanks) (text : List Char) :
    trimEnd (text ++ blanks) = trimEnd text := by
  have back : Blanks blanks.reverse := fun char inside => only char (List.mem_reverse.mp inside)
  rw [trimEnd, List.reverse_append]
  exact congrArg List.reverse (back.skip text.reverse)

theorem trimEnd_split (text : List Char) :
    ∃ blanks, Blanks blanks ∧ text = trimEnd text ++ blanks := by
  obtain ⟨blanks, only, split⟩ := skipBlanks_split text.reverse
  refine ⟨blanks.reverse, fun char inside => only char (List.mem_reverse.mp inside), ?_⟩
  have back := congrArg List.reverse split
  rwa [List.reverse_reverse, List.reverse_append] at back

theorem trimEnd_last (text : List Char) :
    ∀ char ∈ (trimEnd text).getLast?, isBlank char = false := by
  intro char last
  rw [trimEnd, List.getLast?_reverse] at last
  exact skipBlanks_head text.reverse char last

end Marks

/-! ## Labels -/

section Labels

variable {text name inner tail : List Char}

theorem label_ok {made : Label} (given : label name inner = .ok made) :
    ∃ value, Quotation.unescape inner = .ok value ∧
      made = ⟨String.ofList name, String.ofList value⟩ := by
  unfold label at given
  split at given
  · cases given
  · cases given
  · next value stands =>
      cases given
      exact ⟨value, stands, rfl⟩

theorem label_of_unescape {value : List Char} (stands : Quotation.unescape inner = .ok value) :
    label name inner = .ok ⟨String.ofList name, String.ofList value⟩ := by
  rw [label, stands]

/-- What is read as a label has a name up to its first equals sign. -/
theorem takeLabel_some (taken : takeLabel text = .ok (name, inner, tail))
    (start : ∀ char ∈ text.head?, char ≠ '}' ∧ isBlank char = false) :
    ∃ middle after, Named (· ≠ '=') name ∧ Blanks middle ∧ Blanks after ∧
      text = name ++ (middle ++ '=' :: (after ++ (written inner ++ tail))) := by
  unfold takeLabel at taken
  split at taken
  · cases taken
  · next equals behind cut =>
      dsimp only at taken
      split at taken
      · cases taken
      · next quotation =>
          cases taken
          obtain ⟨middle, between, front⟩ := trimEnd_split (text.takeWhile (· ≠ '='))
          obtain ⟨after, right, back⟩ := skipBlanks_split behind
          obtain rfl : equals = '=' := by
            have stops := List.head?_dropWhile_not (fun char => decide (char ≠ '=')) text
            rw [cut] at stops
            simpa using stops
          have whole : text = trimEnd (text.takeWhile (· ≠ '=')) ++
              (middle ++ '=' :: (after ++ (written inner ++ tail))) := by
            rw [← Quotation.take?_some quotation, ← back, ← cut, ← List.append_assoc, ← front,
              List.takeWhile_append_dropWhile]
          refine ⟨middle, after, ⟨?_, ?_, trimEnd_last _⟩, between, right, whole⟩
          · intro char inside
            have kept : char ∈ text.takeWhile (· ≠ '=') := by
              rw [front]
              exact List.mem_append_left _ inside
            simpa using List.mem_takeWhile_imp kept
          · intro char first
            refine start char ?_
            rw [whole, List.head?_append, Option.mem_def.mp first]
            rfl

/-- A label is read up to the quote that closes its value. -/
theorem takeLabel_append {middle after : List Char} (named : Named (· ≠ '=') name)
    (between : Blanks middle) (right : Blanks after) (body : Quotation.Body inner)
    (tail : List Char) :
    takeLabel (name ++ (middle ++ '=' :: (after ++ (written inner ++ tail)))) =
      .ok (name, inner, tail) := by
  have kept : ∀ char ∈ name ++ middle, decide (char ≠ '=') = true := by
    intro char inside
    rcases List.mem_append.mp inside with own | blank
    · exact decide_eq_true (named.plain char own)
    · rcases isBlank_iff.mp (between char blank) with rfl | rfl <;> rfl
  have quotation : skipBlanks (after ++ (written inner ++ tail)) = written inner ++ tail := by
    rw [right.skip]
    exact skipBlanks_of_head (by rintro _ ⟨⟩; rfl)
  rw [← List.append_assoc, takeLabel, dropWhile_mark kept (by simp), takeWhile_mark kept (by simp),
    between.trim, trimEnd_of_last named.stop]
  dsimp only
  rw [quotation, body.take?]

/-- A text that does not close the block starts with a term, if a label can be read. -/
theorem term_of_takeLabel {made : Label} (goesOn : ∀ after, skipBlanks text ≠ '}' :: after)
    (taken : takeLabel (skipBlanks text) = .ok (name, inner, tail))
    (given : label name inner = .ok made) :
    ∃ term, Term (· ≠ '=') term (if name.isEmpty then [] else [made]) ∧ text = term ++ tail := by
  have start : ∀ char ∈ (skipBlanks text).head?, char ≠ '}' ∧ isBlank char = false := by
    intro char first
    obtain ⟨after, form⟩ := List.head?_eq_some_iff.mp first
    exact ⟨fun closes => goesOn after (closes ▸ form), skipBlanks_head text char first⟩
  obtain ⟨before, left, split⟩ := skipBlanks_split text
  obtain ⟨middle, after, named, between, right, shape⟩ := takeLabel_some taken start
  obtain ⟨value, stands, rfl⟩ := label_ok given
  refine ⟨_, .of left named between right stands, ?_⟩
  rw [split, shape]
  simp

/-- What is read as the labels of a block is spelled by the grammar that keeps only equals signs out
of their names. -/
theorem takeLabels_some {labels : List Label} (taken : takeLabels text = .ok (labels, tail)) :
    ∃ block, Terms (· ≠ '=') block labels ∧ text = block ++ '}' :: tail := by
  fun_induction takeLabels text generalizing labels tail with
  | case1 text after closes =>
      cases taken
      obtain ⟨blanks, only, split⟩ := skipBlanks_split text
      exact ⟨blanks, .none only, closes ▸ split⟩
  | case2 => cases taken
  | case3 => cases taken
  | case4 text name inner rest made given kept after closes goesOn =>
      rename_i first
      cases taken
      obtain ⟨term, spelled, shape⟩ := term_of_takeLabel goesOn first given
      obtain ⟨blanks, only, split⟩ := skipBlanks_split rest
      refine ⟨_, .last spelled only, ?_⟩
      rw [shape, split, closes, List.append_assoc]
  | case5 text name inner rest made given kept after follows goesOn first =>
      rename_i ih
      obtain ⟨⟨others, left⟩, later, same⟩ := map_ok.mp taken
      cases same
      obtain ⟨term, spelled, shape⟩ := term_of_takeLabel goesOn first given
      obtain ⟨blanks, only, split⟩ := skipBlanks_split rest
      obtain ⟨block, terms, rfl⟩ := ih later
      refine ⟨_, .more spelled only terms, ?_⟩
      rw [shape, split, follows]
      simp
  | case6 => cases taken

/-- A name starts a label, and so does the equals sign if there is no name. -/
theorem Named.opens {plain : Char → Prop} (named : Named plain name) {middle : List Char}
    (between : Blanks middle) (rest : List Char) :
    ∃ blanks, Blanks blanks ∧
      skipBlanks (name ++ (middle ++ '=' :: rest)) = name ++ (blanks ++ '=' :: rest) ∧
      ∀ after, name ++ (blanks ++ '=' :: rest) ≠ '}' :: after := by
  cases name with
  | nil =>
      refine ⟨[], Blanks.nil, ?_, ?_⟩
      · exact (between.skip _).trans (skipBlanks_of_head (by rintro _ ⟨⟩; rfl))
      · rintro after ⟨⟩
  | cons char name =>
      obtain ⟨other, solid⟩ := named.start char rfl
      refine ⟨middle, between, skipBlanks_of_head ?_, ?_⟩
      · rintro _ ⟨⟩
        exact solid
      · rintro after same
        exact other (List.cons.inj same).1

/-- A term is read to its end, and the mark behind it says whether others follow. -/
theorem takeLabels_term {kept : List Label} (term : Term (· ≠ '=') text kept)
    {blanks : List Char} (only : Blanks blanks) {mark : Char} (ends : mark = '}' ∨ mark = ',')
    (more : List Char) :
    takeLabels (text ++ (blanks ++ mark :: more)) =
      if mark = '}' then .ok (kept, more)
      else (takeLabels more).map fun (labels, tail) => (kept ++ labels, tail) := by
  obtain @⟨before, name, middle, after, inner, value, left, named, between, right, stands⟩ := term
  obtain ⟨inside, inner_blank, start, goesOn⟩ := named.opens between
    (after ++ (written inner ++ (blanks ++ mark :: more)))
  have form : before ++ (name ++ (middle ++ '=' :: (after ++ written inner))) ++
      (blanks ++ mark :: more) = before ++ (name ++ (middle ++ '=' ::
        (after ++ (written inner ++ (blanks ++ mark :: more))))) := by simp
  have opened := (left.skip _).trans start
  have first := takeLabel_append named inner_blank right (Quotation.body_of_unescape stands)
    (blanks ++ mark :: more)
  have rest : skipBlanks (blanks ++ mark :: more) = mark :: more := by
    rw [only.skip]
    refine skipBlanks_of_head ?_
    rintro _ ⟨⟩
    rcases ends with rfl | rfl <;> rfl
  rw [form, takeLabels, opened]
  split
  · next closes => exact absurd closes (goesOn _)
  · split
    · next failed =>
        rw [first] at failed
        cases failed
    · next taken =>
        rw [first] at taken
        cases taken
        rw [label_of_unescape stands]
        dsimp only
        split
        · next after closes =>
            rw [rest] at closes
            cases closes
            rfl
        · next after follows =>
            rw [rest] at follows
            cases follows
            rfl
        · next neither closes follows =>
            rw [rest] at closes follows
            rcases ends with rfl | rfl
            · exact absurd rfl (closes more)
            · exact absurd rfl (follows more)

theorem takeLabels_append {block : List Char} {labels : List Label}
    (terms : Terms (· ≠ '=') block labels) (tail : List Char) :
    takeLabels (block ++ '}' :: tail) = .ok (labels, tail) := by
  induction terms with
  | @none blanks only =>
      have closes : skipBlanks (blanks ++ '}' :: tail) = '}' :: tail :=
        (only.skip _).trans (skipBlanks_of_head (by rintro _ ⟨⟩; rfl))
      rw [takeLabels]
      split
      · next after same =>
          cases closes.symm.trans same
          rfl
      · next other => exact absurd closes (other tail)
  | last term right =>
      rw [List.append_assoc, takeLabels_term term right (.inl rfl), if_pos rfl]
  | @more text blanks rest labels others term between _ ih =>
      have form : text ++ (blanks ++ ',' :: rest) ++ '}' :: tail =
          text ++ (blanks ++ ',' :: (rest ++ '}' :: tail)) := by simp
      rw [form, takeLabels_term term between (.inr rfl), if_neg (by decide), ih]
      rfl

end Labels

/-! ## Blocks -/

section Blocks

variable {text rest : List Char} {labels : List Label}

/-- A block ends the metric before it. -/
theorem Block.opens {plain : Char → Prop} (block : Block plain text labels) :
    ∃ mark more, EndsMetric mark ∧ text = mark :: more := by
  cases block with
  | none only apart =>
      obtain ⟨mark, more, rfl⟩ := List.exists_cons_of_ne_nil apart
      exact ⟨mark, more, .inr (only mark (.head _)), rfl⟩
  | @braces before text after labels left _ _ =>
      cases before with
      | nil => exact ⟨'{', _, .inl rfl, rfl⟩
      | cons mark before => exact ⟨mark, _, .inr (left mark (.head _)), rfl⟩

/-- Behind a metric stands a block, if anything follows that. -/
theorem takeBlock_some (ends : ∀ char ∈ text.head?, EndsMetric char) (filled : rest ≠ [])
    (taken : takeBlock (skipBlanks text) = .ok (labels, rest)) :
    ∃ block, Block (· ≠ '=') block labels ∧ text = block ++ rest := by
  obtain ⟨blanks, only, split⟩ := skipBlanks_split text
  unfold takeBlock at taken
  split at taken
  · next inside opens =>
      obtain ⟨⟨made, after⟩, read, same⟩ := map_ok.mp taken
      cases same
      obtain ⟨block, terms, rfl⟩ := takeLabels_some read
      obtain ⟨behind, right, tail⟩ := skipBlanks_split after
      refine ⟨_, .braces only terms right, ?_⟩
      rw [split, opens, tail]
      simp [right.skip, (skipBlanks_of_head (skipBlanks_head after))]
  · next other =>
      cases taken
      refine ⟨blanks, .none only fun empty => ?_, split⟩
      rw [empty, List.nil_append] at split
      obtain ⟨char, behind, form⟩ := List.exists_cons_of_ne_nil filled
      rcases ends char (by rw [split, form]; rfl) with brace | blank
      · exact other behind (brace ▸ form)
      · have solid := skipBlanks_head text char (by rw [form]; rfl)
        rw [blank] at solid
        cases solid

/-- A block is read up to a value. -/
theorem takeBlock_append (block : Block (· ≠ '=') text labels) (rest : List Char) :
    takeBlock (skipBlanks (text ++ '"' :: rest)) = .ok (labels, '"' :: rest) := by
  have value : skipBlanks ('"' :: rest) = '"' :: rest :=
    skipBlanks_of_head (by rintro _ ⟨⟩; rfl)
  cases block with
  | none only _ =>
      rw [only.skip, value]
      rfl
  | @braces before text after _ left terms right =>
      have form : before ++ '{' :: (text ++ '}' :: after) ++ '"' :: rest =
          before ++ '{' :: (text ++ '}' :: (after ++ '"' :: rest)) := by simp
      have opens : skipBlanks (before ++ '{' :: (text ++ '}' :: (after ++ '"' :: rest))) =
          '{' :: (text ++ '}' :: (after ++ '"' :: rest)) :=
        (left.skip _).trans (skipBlanks_of_head (by rintro _ ⟨⟩; rfl))
      rw [form, opens, takeBlock, takeLabels_append terms]
      dsimp only [Except.map]
      rw [right.skip, value]

end Blocks

/-! ## Times -/

section Times

variable {tail : List Char} {default given : UInt64}

/-- Neither a blank nor a carriage return is part of a numeral. -/
theorem numeral_plain {digits : List Char} (numeral : Text.Numeral.word64? digits = some given) :
    digits ≠ [] ∧ ∀ char ∈ digits, isBlank char = false ∧ char ≠ '\r' := by
  obtain ⟨filled, plain⟩ := Text.Numeral.plain_of_word64? numeral
  refine ⟨filled, fun char inside => ?_⟩
  rcases plain char inside with rfl | digit
  · exact ⟨rfl, by decide⟩
  · refine ⟨Bool.eq_false_iff.mpr fun blank => ?_, ?_⟩
    · rcases isBlank_iff.mp blank with rfl | rfl <;> cases digit
    · rintro rfl
      cases digit

/-- Blanks around a numeral are left out. -/
theorem numeral_trimmed {before digits after : List Char}
    (numeral : Text.Numeral.word64? digits = some given) (left : Blanks before)
    (right : Blanks after) : trimEnd (skipBlanks (before ++ (digits ++ after))) = digits := by
  obtain ⟨filled, plain⟩ := numeral_plain numeral
  obtain ⟨first, more, form⟩ := List.exists_cons_of_ne_nil filled
  have start : skipBlanks (digits ++ after) = digits ++ after := by
    refine skipBlanks_of_head ?_
    rw [form]
    rintro _ ⟨⟩
    exact (plain first (form ▸ .head _)).1
  rw [left.skip, start, right.trim]
  exact trimEnd_of_last fun char last => (plain char (List.mem_of_mem_getLast? last)).1

/-- The grammar of times is the one by which they are read. -/
theorem time_ok_iff (rest : List Char) :
    time rest tail default = .ok given ↔ Timed default tail given := by
  constructor
  · intro read
    obtain ⟨before, left, split⟩ := skipBlanks_split tail
    obtain ⟨after, right, back⟩ := trimEnd_split (skipBlanks tail)
    rw [time] at read
    split at read
    · next empty =>
        cases read
        refine .without fun char inside => ?_
        rw [List.isEmpty_iff.mp empty, List.nil_append] at back
        rw [split, back] at inside
        exact (List.mem_append.mp inside).elim (left char) (right char)
    · next filled =>
        split at read
        · cases read
        · next apart =>
            split at read
            · next numeral =>
                cases read
                rw [split, back]
                refine .with left (fun empty => ?_) numeral right
                -- a text that starts with a blank is not all that is left without its blanks
                rw [empty, List.nil_append] at split
                have solid := skipBlanks_head tail
                rw [← split] at solid
                cases start : tail.head? with
                | none => simp [start] at apart
                | some char => simp [start, solid char start] at apart
            · cases read
  · rintro (@⟨_, only⟩ | @⟨before, digits, after, _, left, apart, numeral, right⟩)
    · rw [time, only.skip_all]
      rfl
    · obtain ⟨blank, more, rfl⟩ := List.exists_cons_of_ne_nil apart
      obtain ⟨filled, -⟩ := numeral_plain numeral
      rw [time, numeral_trimmed numeral left right, if_neg (by simpa using filled), numeral]
      simp [left blank (.head _)]

theorem Timed.plain (timed : Timed default tail given) : '\r' ∉ tail := by
  have other : ∀ {blanks : List Char}, Blanks blanks → '\r' ∉ blanks := fun only inside =>
    absurd (only _ inside) (by decide)
  cases timed with
  | without only => exact other only
  | @«with» before digits after _ left _ numeral right =>
      intro inside
      rcases List.mem_append.mp inside with early | later
      · exact other left early
      · rcases List.mem_append.mp later with digit | late
        · exact ((numeral_plain numeral).2 _ digit).2 rfl
        · exact other right late

end Times

/-! ## Rows -/

section Rows

variable {text : List Char} {default : UInt64} {made : Row}

theorem not_endsMetric {char : Char} :
    (!(decide (char = '{') || isBlank char)) = true ↔ ¬ EndsMetric char := by
  simp [EndsMetric]

theorem endsMetric_head (text : List Char) :
    ∀ char ∈ (text.dropWhile fun char => !(decide (char = '{') || isBlank char)).head?,
      EndsMetric char := by
  intro char first
  have stops := List.head?_dropWhile_not (fun char => !(decide (char = '{') || isBlank char)) text
  rw [Option.mem_def.mp first] at stops
  simpa [EndsMetric, or_iff_not_imp_left] using stops

/-- What is read as a row is a metric, a block of labels, a value and a time. -/
theorem row_some (read : row text default = .ok made) :
    ∃ metric block inner value tail labels time,
      (metric ≠ [] ∧ ∀ char ∈ metric, ¬ EndsMetric char) ∧ Block (· ≠ '=') block labels ∧
      Quotation.unescape inner = .ok value ∧ Timed default tail time ∧
      made = ⟨String.ofList metric, labels, time, String.ofList value⟩ ∧
      text = metric ++ (block ++ (written inner ++ tail)) := by
  unfold row at read
  dsimp only at read
  obtain ⟨⟨labels, rest⟩, taken, read⟩ := bind_ok.mp read
  dsimp only at read
  split at read
  · cases read
  · next named =>
      split at read
      · cases read
      · next filled =>
          split at read
          · cases read
          · next inner tail quotation =>
              split at read
              · cases read
              · next value stands =>
                  obtain ⟨time, timed, read⟩ := bind_ok.mp read
                  cases read
                  obtain ⟨block, labelled, behind⟩ := takeBlock_some (endsMetric_head text)
                    (fun empty => filled (by rw [empty]; rfl)) taken
                  refine ⟨_, block, inner, value, tail, labels, time, ⟨?_, ?_⟩, labelled, stands,
                    (time_ok_iff rest).mp timed, rfl, ?_⟩
                  · exact fun empty => named (by rw [empty]; rfl)
                  · intro char inside
                    have kept := List.mem_takeWhile_imp inside
                    exact not_endsMetric.mp kept
                  · rw [← Quotation.take?_some quotation, ← behind, List.takeWhile_append_dropWhile]

/-- A metric with a block of labels, a value and a time is read as its row. -/
theorem row_append {metric block inner value tail : List Char} {labels : List Label}
    {given : UInt64} (named : Metric metric) (labelled : Block (· ≠ '=') block labels)
    (stands : Quotation.unescape inner = .ok value) (timed : Timed default tail given) :
    row (metric ++ (block ++ (written inner ++ tail))) default =
      .ok ⟨String.ofList metric, labels, given, String.ofList value⟩ := by
  obtain ⟨mark, more, ends, rfl⟩ := labelled.opens
  have kept := fun char inside => not_endsMetric.mpr (named.plain char inside)
  have stops := Bool.eq_false_iff.mpr (mt not_endsMetric.mp (not_not.mpr ends))
  have quotation := (Quotation.body_of_unescape stands).take? tail
  have taken := takeBlock_append labelled (inner ++ '"' :: tail)
  have form : written inner ++ tail = '"' :: (inner ++ '"' :: tail) := by simp [written]
  rw [form] at quotation ⊢
  rw [row]
  dsimp only
  rw [List.cons_append, takeWhile_mark kept stops, dropWhile_mark kept stops, ← List.cons_append,
    taken]
  refine bind_ok.mpr ⟨_, rfl, ?_⟩
  dsimp only
  rw [if_neg (by simpa using named.filled), if_neg (by simp), quotation]
  dsimp only
  rw [stands]
  exact bind_ok.mpr ⟨_, (time_ok_iff _).mpr timed, rfl⟩

end Rows

/-! ## Lines -/

section Lines

variable {line : List Char} {default : UInt64} {made : Row}

theorem chomp_split (line : List Char) :
    ∃ carriage, (carriage = [] ∨ carriage = ['\r']) ∧ line = chomp line ++ carriage := by
  unfold chomp
  split
  · next last => exact ⟨['\r'], .inr rfl, (List.dropLast_append_getLast? _ last).symm⟩
  · exact ⟨[], .inl rfl, (List.append_nil line).symm⟩

theorem chomp_append {text carriage : List Char} (open_ : text.getLast? ≠ some '\r')
    (ends : carriage = [] ∨ carriage = ['\r']) : chomp (text ++ carriage) = text := by
  rcases ends with rfl | rfl
  · simp [chomp, open_]
  · simp [chomp]

/-- Lines are read as rows by the grammar that allows all but an equals sign in the names of labels.
-/
theorem parse_some_iff :
    parse line default = .ok (some made) ↔ Spells (· ≠ '=') default line made := by
  constructor
  · intro read
    obtain ⟨carriage, ends, whole⟩ := chomp_split line
    obtain ⟨blanks, left, start⟩ := skipBlanks_split (chomp line)
    unfold parse at read
    split at read
    · cases read
    · cases read
    · next noRemark =>
        obtain ⟨_, taken, same⟩ := map_ok.mp read
        cases same
        obtain ⟨metric, block, inner, value, tail, labels, time, ⟨filled, plain⟩, labelled, stands,
          timed, rfl, shape⟩ := row_some taken
        have named : Metric metric := by
          refine ⟨filled, plain, fun remark => ?_⟩
          obtain ⟨rest, rfl⟩ := List.head?_eq_some_iff.mp remark
          exact noRemark _ shape
        have spelled := Spells.row left named labelled stands timed ends
        rw [whole, start, shape]
        simpa using spelled
  · rintro @⟨blanks, metric, block, inner, value, tail, carriage, labels, given, left, named,
      labelled, stands, timed, ends⟩
    obtain ⟨char, rest, rfl⟩ := List.exists_cons_of_ne_nil named.filled
    have noRemark : char ≠ '#' := fun same => named.noRemark (same ▸ rfl)
    have solid : isBlank char = false :=
      Bool.eq_false_iff.mpr fun blank => named.plain char (.head _) (.inr blank)
    have form : blanks ++ (char :: rest ++ (block ++ (written inner ++ (tail ++ carriage)))) =
        blanks ++ (char :: rest ++ (block ++ (written inner ++ tail))) ++ carriage := by simp
    have open_ : (blanks ++ (char :: rest ++ (block ++ (written inner ++ tail)))).getLast? ≠
        some '\r' := by
      have shape : blanks ++ (char :: rest ++ (block ++ (written inner ++ tail))) =
          blanks ++ (char :: rest ++ (block ++ ('"' :: inner))) ++ '"' :: tail := by
        simp [written]
      rw [shape, List.getLast?_append_of_ne_nil _ (List.cons_ne_nil _ _)]
      intro last
      rcases List.mem_cons.mp (List.mem_of_mem_getLast? last) with quote | inTail
      · exact absurd quote (by decide)
      · exact timed.plain inTail
    have start : skipBlanks (blanks ++ (char :: rest ++ (block ++ (written inner ++ tail)))) =
        char :: (rest ++ (block ++ (written inner ++ tail))) := by
      rw [left.skip]
      exact skipBlanks_of_head (by rintro _ ⟨⟩; exact solid)
    have read : row (char :: (rest ++ (block ++ (written inner ++ tail)))) default = _ :=
      row_append named labelled stands timed
    rw [parse, form, chomp_append open_ ends, start]
    split
    · next impossible => cases impossible
    · next note same => exact absurd (List.cons.inj same).1 noRemark
    · rw [read]
      rfl

end Lines

/-! ## Names without marks -/

section Names

variable {plain good : Char → Prop} {text : List Char} {labels : List Label}

/-- All names are made of good characters. -/
def Clean (good : Char → Prop) (labels : List Label) : Prop :=
  ∀ label ∈ labels, ∀ char ∈ label.name.toList, good char

theorem clean_labelOf {name value : List Char} :
    Clean good (labelOf name value) ↔ ∀ char ∈ name, good char := by
  cases name with
  | nil => simp [Clean, labelOf]
  | cons char name => simp [Clean, labelOf]

theorem term_iff :
    Term (fun char => plain char ∧ good char) text labels ↔
      Term plain text labels ∧ Clean good labels := by
  constructor
  · rintro ⟨left, named, between, right, stands⟩
    exact ⟨.of left ⟨fun char inside => (named.plain char inside).1, named.start, named.stop⟩
      between right stands, clean_labelOf.mpr fun char inside => (named.plain char inside).2⟩
  · rintro ⟨⟨left, named, between, right, stands⟩, clean⟩
    exact .of left
      ⟨fun char inside => ⟨named.plain char inside, clean_labelOf.mp clean char inside⟩,
      named.start, named.stop⟩ between right stands

theorem terms_iff :
    Terms (fun char => plain char ∧ good char) text labels ↔
      Terms plain text labels ∧ Clean good labels := by
  constructor
  · intro terms
    induction terms with
    | none only => exact ⟨.none only, nofun⟩
    | last term right =>
        obtain ⟨spelled, clean⟩ := term_iff.mp term
        exact ⟨.last spelled right, clean⟩
    | more term between _ ih =>
        obtain ⟨spelled, clean⟩ := term_iff.mp term
        exact ⟨.more spelled between ih.1, List.forall_mem_append.mpr ⟨clean, ih.2⟩⟩
  · rintro ⟨terms, clean⟩
    induction terms with
    | none only => exact .none only
    | last term right => exact .last (term_iff.mpr ⟨term, clean⟩) right
    | more term between _ ih =>
        obtain ⟨here, later⟩ := List.forall_mem_append.mp clean
        exact .more (term_iff.mpr ⟨term, here⟩) between (ih later)

theorem block_iff :
    Block (fun char => plain char ∧ good char) text labels ↔
      Block plain text labels ∧ Clean good labels := by
  constructor
  · rintro (⟨only, apart⟩ | ⟨left, terms, right⟩)
    · exact ⟨.none only apart, nofun⟩
    · obtain ⟨spelled, clean⟩ := terms_iff.mp terms
      exact ⟨.braces left spelled right, clean⟩
  · rintro ⟨⟨only, apart⟩ | ⟨left, terms, right⟩, clean⟩
    · exact .none only apart
    · exact .braces left (terms_iff.mpr ⟨terms, clean⟩) right

/-- A stricter grammar of names holds for the lines whose labels have such names. -/
theorem spells_iff {line : List Char} {default : UInt64} {made : Row} :
    Spells (fun char => plain char ∧ good char) default line made ↔
      Spells plain default line made ∧ Clean good made.labels := by
  constructor
  · rintro ⟨left, named, labelled, stands, timed, ends⟩
    obtain ⟨spelled, clean⟩ := block_iff.mp labelled
    exact ⟨.row left named spelled stands timed ends, clean⟩
  · rintro ⟨⟨left, named, labelled, stands, timed, ends⟩, clean⟩
    exact .row left named (block_iff.mpr ⟨labelled, clean⟩) stands timed ends

/-- The marks that labels are put together with. -/
def marks : List Char := [',', '{', '}', '"']

/-- A line is read as a row exactly if it has the form of one, where a name is whatever stands in
front of an equals sign. The stricter form, in which no mark is part of a name, is that of the lines
whose rows have no mark in a name. -/
theorem parse_names_iff (line : List Char) (default : UInt64) (made : Row) :
    (parse line default = .ok (some made) ↔ Spells (· ≠ '=') default line made) ∧
      (Spells (fun char => char ≠ '=' ∧ char ∉ marks) default line made ↔
        parse line default = .ok (some made) ∧
          ∀ label ∈ made.labels, ∀ char ∈ label.name.toList, char ∉ marks) :=
  ⟨parse_some_iff, spells_iff.trans (and_congr_left' parse_some_iff.symm)⟩

/-- The tag `baz` has no value, and with the comma behind it it becomes part of the name of the
label that follows. So the row of a line that does not have the stricter form has a comma in a name.
-/
theorem parse_names_absorbed :
    ∃ made, parse "a\x7bbaz , foo=\"bar\"\x7d \"2\"".toList 0 = .ok (some made) ∧
      (∃ label ∈ made.labels, ',' ∈ label.name.toList) ∧
      ¬ Spells (fun char => char ≠ '=' ∧ char ∉ marks) 0
        "a\x7bbaz , foo=\"bar\"\x7d \"2\"".toList made := by
  have name : Named (· ≠ '=') "baz , foo".toList := ⟨by simp, by simp [isBlank], by simp [isBlank]⟩
  have metric : Metric "a".toList := ⟨by decide, by simp [EndsMetric, isBlank], by decide⟩
  have label : Term (· ≠ '=') "baz , foo=\"bar\"".toList [⟨"baz , foo", "bar"⟩] :=
    .of Blanks.nil name Blanks.nil Blanks.nil (Quotation.unescape_escaped "bar".toList)
  have block : Block (· ≠ '=') "\x7bbaz , foo=\"bar\"\x7d ".toList [⟨"baz , foo", "bar"⟩] :=
    .braces Blanks.nil (.last label Blanks.nil) Blanks.space
  have line : Spells (· ≠ '=') 0 "a\x7bbaz , foo=\"bar\"\x7d \"2\"".toList
      ⟨"a", [⟨"baz , foo", "bar"⟩], 0, "2"⟩ :=
    .row Blanks.nil metric block (Quotation.unescape_escaped "2".toList) (.without Blanks.nil)
      (.inl rfl)
  refine ⟨_, parse_some_iff.mpr line, ⟨_, .head _, by decide⟩, fun strict => ?_⟩
  have clean := (spells_iff.mp strict).2 _ (.head _) ',' (by decide)
  exact clean (.head _)

end Names

end SeriesIndex.Line
