import SeriesIndex.Proofs.Line.Grammar

/-!
# Writing rows

Rows can be written as lines that are read as the same rows: values may be any texts, since what
would end a quotation or a line is escaped. Blank lines and comments may stand between them, and a
line may end in a carriage return.
-/

namespace SeriesIndex.Line

/-! ## Lines as they are written -/

def labelText (label : Label) : List Char :=
  label.name.toList ++ '=' :: Quotation.quoted label.value.toList

/-- Labels in braces, with commas between them. -/
def blockText (labels : List Label) : List Char :=
  '{' :: (List.intercalate [','] (labels.map labelText) ++ ['}'])

/-- How a row is written: with its time or not, and with braces even if there is nothing to put in
them or not. -/
structure Form where
  timed : Bool
  braced : Bool

namespace Form

def blockOf (form : Form) (labels : List Label) : List Char :=
  if labels.isEmpty && !form.braced then [] else blockText labels

def timeOf (form : Form) (time : UInt64) : List Char :=
  if form.timed then ' ' :: (toString time).toList else []

/-- The line of a row. -/
def text (form : Form) (row : Row) : List Char :=
  row.metric.toList ++ (form.blockOf row.labels ++
    ' ' :: (Quotation.quoted row.value.toList ++ form.timeOf row.time))

example : String.ofList (text ⟨true, true⟩ ⟨"log", [⟨"job", "a\\"⟩], 5, "one\ntwo"⟩) =
    "log\x7bjob=\"a\\\\\"\x7d \"one\\ntwo\" 5" := by decide +kernel

/-- The row that its line stands for, with the default time if the line has none. -/
def keeps (form : Form) (row : Row) (default : UInt64) : Row :=
  if form.timed then row else { row with time := default }

end Form

/-- A line stands for a row or is a remark. -/
inductive Entry where
  | ofRow (row : Row) (form : Form)
  | remark (text : List Char)

namespace Entry

def text : Entry → List Char
  | ofRow row form => form.text row
  | remark text => text

def row? (default : UInt64) : Entry → Option Row
  | ofRow row form => some (form.keeps row default)
  | remark _ => none

end Entry

/-- An entry whose line ends in a carriage return or not. -/
structure Ended where
  entry : Entry
  carriage : Bool

def Ended.text (line : Ended) : List Char :=
  line.entry.text ++ if line.carriage then ['\r'] else []

/-- Lines with line feeds between them. -/
def document (lines : List Ended) : List Char := List.intercalate ['\n'] (lines.map Ended.text)

/-! ## What can be written -/

/-- A metric that can stand at the start of a line. -/
structure LegalMetric (metric : List Char) : Prop where
  filled : metric ≠ []
  plain : ∀ char ∈ metric, char ∉ ['{', ' ', '\t', '\n']
  noRemark : metric.head? ≠ some '#'

/-- A name that can stand in front of a value. -/
structure LegalName (name : List Char) : Prop where
  filled : name ≠ []
  plain : ∀ char ∈ name, char ∉ ['=', '\n']
  start : ∀ char ∈ name.head?, char ∉ ['}', ' ', '\t']
  stop : ∀ char ∈ name.getLast?, char ∉ [' ', '\t']

structure LegalRow (row : Row) : Prop where
  metric : LegalMetric row.metric.toList
  labels : ∀ label ∈ row.labels, LegalName label.name.toList

/-- A remark is blank, or a number sign with anything behind it. -/
inductive Remark : List Char → Prop where
  | blank {text : List Char} (blank : ∀ char ∈ text, char = ' ' ∨ char = '\t') : Remark text
  | comment {before note : List Char} (blank : ∀ char ∈ before, char = ' ' ∨ char = '\t')
      (whole : '\n' ∉ note) : Remark (before ++ '#' :: note)

def Entry.Legal : Entry → Prop
  | ofRow row _ => LegalRow row
  | remark text => Remark text

/-! ## Lines by the grammar -/

section Spelled

variable {row : Row} {label : Label} {labels : List Label}

theorem LegalMetric.metric {metric : List Char} (legal : LegalMetric metric) : Metric metric := by
  refine ⟨legal.filled, fun char inside ends => legal.plain char inside ?_, legal.noRemark⟩
  rcases ends with rfl | blank
  · decide
  · rcases isBlank_iff.mp blank with rfl | rfl <;> decide

theorem LegalName.named {name : List Char} (legal : LegalName name) : Named (· ≠ '=') name := by
  refine ⟨fun char inside same => ?_, fun char first => ?_, fun char last => ?_⟩
  · exact legal.plain char inside (same ▸ .head _)
  · simpa [isBlank] using legal.start char first
  · simpa [isBlank] using legal.stop char last

theorem term_text (legal : LegalName label.name.toList) :
    Term (· ≠ '=') (labelText label) [label] := by
  have filled : label.name.toList.isEmpty = false := List.isEmpty_eq_false_iff.mpr legal.filled
  have same : labelOf label.name.toList label.value.toList = [label] := by simp [labelOf, filled]
  rw [← same]
  exact .of Blanks.nil legal.named Blanks.nil Blanks.nil (Quotation.unescape_escaped _)

/-- Labels with commas between them are terms with nothing else between them. -/
theorem terms_text (legal : ∀ label ∈ labels, LegalName label.name.toList) :
    Terms (· ≠ '=') (List.intercalate [','] (labels.map labelText)) labels := by
  induction labels with
  | nil => exact .none Blanks.nil
  | cons label rest ih =>
      obtain ⟨here, later⟩ := List.forall_mem_cons.mp legal
      cases rest with
      | nil =>
          rw [List.map_singleton, List.intercalate_singleton, ← List.append_nil (labelText label)]
          exact .last (term_text here) Blanks.nil
      | cons second rest =>
          rw [List.map_cons, List.map_cons, List.intercalate_cons_cons, ← List.map_cons,
            List.append_assoc]
          exact .more (term_text here) Blanks.nil (ih later)

/-- The labels of a row end where its value starts. -/
theorem block_text (form : Form) (legal : ∀ label ∈ labels, LegalName label.name.toList) :
    Block (· ≠ '=') (form.blockOf labels ++ [' ']) labels := by
  unfold Form.blockOf
  split
  · next bare =>
      obtain ⟨none, -⟩ : labels = [] ∧ form.braced = false := by simpa using bare
      rw [none]
      exact .none Blanks.space (List.cons_ne_nil _ _)
  · have shape : blockText labels ++ [' '] =
        '{' :: (List.intercalate [','] (labels.map labelText) ++ '}' :: [' ']) := by
      simp [blockText]
    rw [shape]
    exact .braces Blanks.nil (terms_text legal) Blanks.space

theorem toList_toString (time : UInt64) :
    (toString time).toList = Nat.toDigits 10 time.toNat :=
  Nat.toList_repr

/-- The time behind a value is read back, and if there is none then the default one is taken. -/
theorem timed_text (form : Form) (own default : UInt64) :
    Timed default (form.timeOf own) (if form.timed then own else default) := by
  unfold Form.timeOf
  split
  · have numeral : Text.Numeral.word64? (toString own).toList = some own := by
      rw [toList_toString, Text.Numeral.word64?_toDigits]
    have timed : Timed default ([' '] ++ ((toString own).toList ++ [])) own :=
      .with Blanks.space (List.cons_ne_nil _ _) numeral Blanks.nil
    rwa [List.append_nil] at timed
  · exact .without Blanks.nil

theorem carriage_ends (carriage : Bool) :
    (if carriage then ['\r'] else []) = [] ∨ (if carriage then ['\r'] else []) = ['\r'] := by
  cases carriage with
  | true => exact .inr rfl
  | false => exact .inl rfl

/-- The line of a row is one by the grammar. -/
theorem spells_text (form : Form) (legal : LegalRow row) (carriage : Bool) (default : UInt64) :
    Spells (· ≠ '=') default (form.text row ++ if carriage then ['\r'] else [])
      (form.keeps row default) := by
  have spelled := Spells.row Blanks.nil legal.metric.metric (block_text form legal.labels)
    (Quotation.unescape_escaped row.value.toList) (timed_text form row.time default)
    (carriage_ends carriage)
  have shape : form.text row ++ (if carriage then ['\r'] else []) =
      [] ++ (row.metric.toList ++ (form.blockOf row.labels ++ [' '] ++
        (written (Quotation.escaped row.value.toList) ++ (form.timeOf row.time ++
          if carriage then ['\r'] else [])))) := by
    simp [Form.text, Quotation.quoted, written]
  have same : form.keeps row default = ⟨String.ofList row.metric.toList, row.labels,
      if form.timed then row.time else default, String.ofList row.value.toList⟩ := by
    rw [String.ofList_toList, String.ofList_toList, Form.keeps]
    split
    · rfl
    · rfl
  rw [shape, same]
  exact spelled

theorem parse_text (form : Form) {row : Row} (legal : LegalRow row) (carriage : Bool)
    (default : UInt64) :
    parse (form.text row ++ if carriage then ['\r'] else []) default =
      .ok (some (form.keeps row default)) :=
  parse_some_iff.mpr (spells_text form legal carriage default)

end Spelled

/-! ## Lines -/

section Lines

theorem mem_intercalate {char : Char} {mark : List Char} {parts : List (List Char)}
    (inside : char ∈ List.intercalate mark parts) :
    char ∈ mark ∨ ∃ part ∈ parts, char ∈ part := by
  induction parts with
  | nil => exact absurd inside List.not_mem_nil
  | cons first rest ih =>
      cases rest with
      | nil =>
          rw [List.intercalate_singleton] at inside
          exact .inr ⟨first, .head _, inside⟩
      | cons second rest =>
          rw [List.intercalate_cons_cons] at inside
          rcases List.mem_append.mp inside with early | later
          · rcases List.mem_append.mp early with here | between
            · exact .inr ⟨first, .head _, here⟩
            · exact .inl between
          · rcases ih later with between | ⟨part, listed, found⟩
            · exact .inl between
            · exact .inr ⟨part, .tail _ listed, found⟩

/-- A row is written on one line. -/
theorem feed_not_mem_text (form : Form) {row : Row} (legal : LegalRow row) :
    '\n' ∉ form.text row := by
  have metric : '\n' ∉ row.metric.toList := fun feed =>
    legal.metric.plain _ feed (by decide)
  have labels : ∀ label ∈ row.labels, '\n' ∉ labelText label := by
    intro label inside feed
    rcases List.mem_append.mp feed with name | value
    · exact (legal.labels label inside).plain _ name (by decide)
    · exact Quotation.feed_not_mem_quoted _ (by simpa using value)
  have block : '\n' ∉ form.blockOf row.labels := by
    unfold Form.blockOf
    split
    · exact List.not_mem_nil
    · intro feed
      have inner : '\n' ∈ List.intercalate [','] (row.labels.map labelText) := by
        simpa [blockText] using feed
      rcases mem_intercalate inner with comma | ⟨part, listed, found⟩
      · exact absurd comma (by decide)
      · obtain ⟨label, inside, rfl⟩ := List.mem_map.mp listed
        exact labels label inside found
  have time : '\n' ∉ form.timeOf row.time := by
    unfold Form.timeOf
    split
    · intro feed
      rcases List.mem_cons.mp feed with blank | digit
      · exact absurd blank (by decide)
      · rw [toList_toString] at digit
        cases Nat.isDigit_of_mem_toDigits (by decide) (by decide) digit
    · exact List.not_mem_nil
  have value := Quotation.feed_not_mem_quoted row.value.toList
  simp [Form.text, metric, block, time, value]

/-- A number sign stays where it is, whatever the line ends in. -/
theorem chomp_note (before note : List Char) :
    ∃ rest, chomp (before ++ '#' :: note) = before ++ '#' :: rest := by
  unfold chomp
  split
  · next last =>
      cases note with
      | nil => simp at last
      | cons char note => exact ⟨(char :: note).dropLast, by simp⟩
  · exact ⟨note, rfl⟩

theorem parse_remark {text : List Char} (remark : Remark text) (carriage : Bool)
    (default : UInt64) :
    parse (text ++ if carriage then ['\r'] else []) default = .ok none := by
  cases remark with
  | blank blank =>
      have open_ : text.getLast? ≠ some '\r' := fun last =>
        absurd (blank _ (List.mem_of_mem_getLast? last)) (by decide)
      have nothing : skipBlanks text = [] :=
        List.dropWhile_eq_nil_iff.mpr fun char inside => isBlank_iff.mpr (blank char inside)
      rw [parse, chomp_append open_ (carriage_ends carriage), nothing]
  | @comment before note blank whole =>
      obtain ⟨rest, line⟩ := chomp_note before (note ++ if carriage then ['\r'] else [])
      have start : skipBlanks (before ++ '#' :: rest) = '#' :: rest :=
        dropWhile_mark (fun char inside => isBlank_iff.mpr (blank char inside)) rfl
      rw [parse, List.append_assoc, List.cons_append, line, start]
      rfl

/-- The line of an entry is read as the row that the entry stands for, if it stands for one. -/
theorem parse_ended {line : Ended} (legal : line.entry.Legal) (default : UInt64) :
    parse line.text default = .ok (line.entry.row? default) := by
  obtain ⟨entry, carriage⟩ := line
  cases entry with
  | ofRow row form => exact parse_text form legal carriage default
  | remark text => exact parse_remark legal carriage default

theorem feed_not_mem_ended {line : Ended} (legal : line.entry.Legal) : '\n' ∉ line.text := by
  obtain ⟨entry, carriage⟩ := line
  have own : '\n' ∉ entry.text := by
    cases entry with
    | ofRow row form => exact feed_not_mem_text form legal
    | remark text =>
        cases legal with
        | blank blank => exact fun feed => absurd (blank _ feed) (by decide)
        | @comment before note blank whole =>
            have front : '\n' ∉ before := fun feed => absurd (blank _ feed) (by decide)
            simp [Entry.text, front, whole]
  cases carriage with
  | true => simp [Ended.text, own]
  | false => simp [Ended.text, own]

end Lines

/-! ## Documents -/

section Documents

theorem split_whole {line : List Char} (whole : '\n' ∉ line) : split line = [line] := by
  induction line with
  | nil => rfl
  | cons char rest ih =>
      obtain ⟨other, later⟩ := not_or.mp (mt List.mem_cons.mpr whole)
      rw [split, if_neg (Ne.symm other), ih later]

theorem split_append {line : List Char} (whole : '\n' ∉ line) (rest : List Char) :
    split (line ++ '\n' :: rest) = line :: split rest := by
  induction line with
  | nil => rfl
  | cons char line ih =>
      obtain ⟨other, later⟩ := not_or.mp (mt List.mem_cons.mpr whole)
      rw [List.cons_append, split, if_neg (Ne.symm other), ih later]

/-- Lines are cut where they were joined. -/
theorem split_intercalate {lines : List (List Char)} (filled : lines ≠ [])
    (whole : ∀ line ∈ lines, '\n' ∉ line) : split (List.intercalate ['\n'] lines) = lines := by
  induction lines with
  | nil => exact absurd rfl filled
  | cons first rest ih =>
      obtain ⟨here, later⟩ := List.forall_mem_cons.mp whole
      cases rest with
      | nil => rw [List.intercalate_singleton, split_whole here]
      | cons second rest =>
          rw [List.intercalate_cons_cons, List.append_assoc, List.singleton_append,
            split_append here, ih (List.cons_ne_nil _ _) later]

theorem parse_split {lines : List Ended} (filled : lines ≠ [])
    (legal : ∀ line ∈ lines, line.entry.Legal) (default : UInt64) :
    (split (document lines)).map (parse · default) =
      lines.map fun line => .ok (line.entry.row? default) := by
  have cut : split (document lines) = lines.map Ended.text := by
    refine split_intercalate (by simpa using filled) fun text inside => ?_
    obtain ⟨line, listed, rfl⟩ := List.mem_map.mp inside
    exact feed_not_mem_ended (legal line listed)
  rw [cut, List.map_map]
  exact List.map_congr_left fun line listed => parse_ended (legal line listed) default

/-- A document of rows and remarks is read as its rows in their order, and no line of it is invalid.
Rows whose lines have no time get the default one. -/
theorem parseAll_document {lines : List Ended} (legal : ∀ line ∈ lines, line.entry.Legal)
    (default : UInt64) :
    parseAll (document lines) default = ⟨lines.filterMap (·.entry.row? default), 0⟩ := by
  by_cases filled : lines = []
  · subst filled
    rfl
  · have rows : (lines.map fun line => (.ok (line.entry.row? default) :
        Except LineError (Option Row))).filterMap (fun result => result.toOption.join) =
          lines.filterMap (·.entry.row? default) := by
      rw [List.filterMap_map]
      exact List.filterMap_congr fun line _ => rfl
    have invalid : (lines.map fun line => (.ok (line.entry.row? default) :
        Except LineError (Option Row))).countP (fun result => !result.isOk) = 0 := by
      rw [List.countP_map]
      exact List.countP_eq_zero.mpr fun line _ => by simp [Except.isOk, Except.toBool]
    rw [parseAll, parse_split filled legal, rows, invalid]

/-- A comment, a row with labels, a blank line, and a row that has neither labels nor a time. -/
def sampleLines : List Ended :=
  [⟨.remark "# import".toList, true⟩,
    ⟨.ofRow ⟨"log", [⟨"job", "a\\"⟩, ⟨"path", "\x7b\"/,\"\x7d"⟩], 5, "first\nsecond"⟩
      ⟨true, true⟩, true⟩,
    ⟨.remark " \t".toList, false⟩,
    ⟨.ofRow ⟨"up", [], 5, "# 1"⟩ ⟨false, false⟩, false⟩]

/-- The last row gets the default time, and the other one keeps its own. -/
theorem parseAll_document_sample :
    (∀ line ∈ sampleLines, line.entry.Legal) ∧
      parseAll (document sampleLines) 7 =
        ⟨[⟨"log", [⟨"job", "a\\"⟩, ⟨"path", "\x7b\"/,\"\x7d"⟩], 5, "first\nsecond"⟩,
          ⟨"up", [], 7, "# 1"⟩], 0⟩ := by
  have job : LegalName "job".toList := ⟨by decide, by simp, by simp, by simp⟩
  have path : LegalName "path".toList := ⟨by decide, by simp, by simp, by simp⟩
  have log : LegalMetric "log".toList := ⟨by decide, by simp, by simp⟩
  have up : LegalMetric "up".toList := ⟨by decide, by simp, by simp⟩
  have legal : ∀ line ∈ sampleLines, line.entry.Legal := by
    refine List.forall_mem_cons.mpr ⟨@Remark.comment [] _ nofun (by decide), ?_⟩
    refine List.forall_mem_cons.mpr ⟨⟨log, ?_⟩, ?_⟩
    · exact List.forall_mem_cons.mpr ⟨job, List.forall_mem_singleton.mpr path⟩
    · refine List.forall_mem_cons.mpr ⟨.blank (by simp), ?_⟩
      exact List.forall_mem_singleton.mpr ⟨up, nofun⟩
  exact ⟨legal, parseAll_document legal 7⟩

end Documents

end SeriesIndex.Line
