import SeriesIndex.Proofs.Engine.Served
import SeriesIndex.Proofs.Line.Account

/-!
# Imports

An import takes in a row for every line that stands for one, and counts the lines that cannot be
read; the others are remarks. A text can be imported in parts, and lines that cannot be read make no
difference to what an import leaves.
-/

namespace SeriesIndex

theorem Writer.measured_eq {rows : List Row} (named : ∀ row ∈ rows, row.metric ≠ "") :
    measured rows = rows :=
  List.filter_eq_self.mpr fun row listed => by simpa using named row listed

/-- Nothing fails on the store of an engine that is reached, so it answers. -/
theorem Engine.Reached.answering {engine : Engine} (reached : engine.Reached)
    (unfailing : engine.store.Unfailing) : engine.store.Answering :=
  ⟨unfailing, reached.sound.registry.written⟩

namespace Engine

section Imports

variable {engine : Engine} {tenant : Tenant} {text : String} {default : UInt64}

/-- The rows that a text stands for. -/
def rowsOf (text : String) (default : UInt64) : List Row :=
  (Line.parseAll text.toList default).rows

/-- The series that the rows of a text are given the identifiers of. -/
def identified (engine : Engine) (tenant : Tenant) (text : String) (default : UInt64) :
    List Writer.Registration :=
  Writer.identifiedAll tenant (rowsOf text default) ⟨0, [], []⟩ (engine.writer, engine.store)

theorem measured_rowsOf (text : String) (default : UInt64) :
    Writer.measured (rowsOf text default) = rowsOf text default :=
  Writer.measured_eq (Line.parseAll_measured default text.toList)

/-- A text that is shorter than 2⁶³ does not stand for so many rows that the counter wraps. -/
theorem Served.unwrapped_text {offered : Nat} (served : engine.Served offered) (tenant : Tenant)
    (default : UInt64) (short : text.length < 2 ^ 63) :
    Writer.Unwrapped tenant (rowsOf text default) ⟨0, [], []⟩ (engine.writer, engine.store) := by
  have rows := Line.length_rows_le default text.toList
  rw [String.length_toList] at rows
  refine served.unwrapped tenant ?_
  rw [rowsOf]
  omega

section Indexing

variable {after : Writer.State} {order : Writer.KeyOrder}

theorem importText_of_indexRows {count : Nat}
    (indexed : Writer.indexRows tenant (rowsOf text default) (engine.writer, engine.store) order =
      (.ok count, after)) :
    engine.importText tenant text default order =
      (.ok ⟨count, (Line.parseAll text.toList default).invalid⟩,
        { engine with writer := after.1, store := after.2 }) := by
  rw [rowsOf] at indexed
  rw [importText, ingest, indexed]
  rfl

theorem importText_of_refused {cause : StoreError}
    (refused : Writer.indexRows tenant (rowsOf text default) (engine.writer, engine.store) order =
      (.error cause, after)) :
    engine.importText tenant text default order =
      (.error (.store cause), { engine with writer := after.1, store := after.2 }) := by
  rw [rowsOf] at refused
  rw [importText, ingest, refused]
  rfl

end Indexing

/-- Where the medium does not fail, every row of a text is indexed, unless the labels of one of them
cannot be recorded. -/
theorem importText_answers (answering : engine.store.Answering) (tenant : Tenant) (text : String)
    (default : UInt64) (order : Writer.KeyOrder) :
    Meets (fun error => ∃ cause, error = .store cause ∧ Writer.Refused (rowsOf text default) cause)
      (· = ⟨(rowsOf text default).length, (Line.parseAll text.toList default).invalid⟩)
      (engine.importText tenant text default order).1 := by
  have counts := @Writer.indexRows_answers (engine.writer, engine.store) answering tenant
    (rowsOf text default) order
  generalize indexed : Writer.indexRows tenant (rowsOf text default)
    (engine.writer, engine.store) order = outcome at counts
  obtain ⟨answer, after⟩ := outcome
  cases answer with
  | error cause =>
      rw [importText_of_refused indexed]
      exact ⟨cause, rfl, counts⟩
  | ok count =>
      have whole : count = (Writer.measured (rowsOf text default)).length := counts
      rw [importText_of_indexRows indexed, whole, measured_rowsOf]
      rfl

/-- What an import leaves depends on the lines only that can be read. -/
theorem importText_of_filter {other : String}
    (same : ((Line.split text.toList).filter fun line => (Line.parse line default).isOk) =
      (Line.split other.toList).filter fun line => (Line.parse line default).isOk)
    (engine : Engine) (tenant : Tenant) (order : Writer.KeyOrder) :
    (engine.importText tenant text default order).1.map ImportSummary.rows =
        (engine.importText tenant other default order).1.map ImportSummary.rows ∧
      (engine.importText tenant text default order).2 =
        (engine.importText tenant other default order).2 := by
  have rows : (Line.parseAll text.toList default).rows =
      (Line.parseAll other.toList default).rows := by
    rw [Line.parseAll_rows, Line.parseAll_rows, same]
  rw [importText, importText]
  dsimp only
  rw [rows]
  refine ⟨?_, rfl⟩
  cases (engine.ingest tenant (Line.parseAll other.toList default).rows order).1 with
  | error error => rfl
  | ok count => rfl

/-- Where the medium does not fail and no counter wraps, a text can be imported in two parts. -/
theorem importText_parts (reached : engine.Reached) (unfailing : engine.store.Unfailing)
    {front back : String} (order early late : Writer.KeyOrder)
    (steady : Writer.Unwrapped tenant (rowsOf (front ++ "\n" ++ back) default) ⟨0, [], []⟩
      (engine.writer, engine.store)) :
    (∃ error whole between,
      engine.importText tenant (front ++ "\n" ++ back) default order = (.error error, whole) ∧
      engine.importText tenant front default early = (.error error, between)) ∨
    (∃ error whole first between after,
      engine.importText tenant (front ++ "\n" ++ back) default order = (.error error, whole) ∧
      engine.importText tenant front default early = (.ok first, between) ∧
      between.importText tenant back default late = (.error error, after)) ∨
    ∃ whole first between second after,
      engine.importText tenant (front ++ "\n" ++ back) default order =
        (.ok ⟨first.rows + second.rows, first.invalid + second.invalid⟩, whole) ∧
      engine.importText tenant front default early = (.ok first, between) ∧
      between.importText tenant back default late = (.ok second, after) ∧
      whole.store.table = after.store.table ∧ whole.writer.nextId = after.writer.nextId ∧
      engine.identified tenant (front ++ "\n" ++ back) default =
        engine.identified tenant front default ++ between.identified tenant back default := by
  have lines : (front ++ "\n" ++ back).toList = front.toList ++ '\n' :: back.toList := by
    simp [String.toList_append]
  have parsed := Line.parseAll_feed default front.toList back.toList
  rw [← lines] at parsed
  have rows : rowsOf (front ++ "\n" ++ back) default =
      rowsOf front default ++ rowsOf back default := congrArg Line.Import.rows parsed
  rw [rows] at steady
  rcases @Writer.indexRows_append tenant _ _ (engine.writer, engine.store) reached.sound unfailing
      steady order early late with ⟨cause, ended, first, both, frontRows⟩ |
      ⟨cause, ended, first, second, both, frontRows, backRows⟩ |
      ⟨ended, first, second, both, frontRows, backRows, table, counter, registrations⟩
  · rw [← rows] at both
    exact .inl ⟨_, _, _, importText_of_refused both, importText_of_refused frontRows⟩
  · rw [← rows] at both
    exact .inr (.inl ⟨_, _, _, _, _, importText_of_refused both,
      importText_of_indexRows frontRows, importText_of_refused backRows⟩)
  · rw [← rows] at both registrations
    refine .inr (.inr ⟨{ engine with writer := ended.1, store := ended.2 }, _, _, _, _, ?_,
      importText_of_indexRows frontRows, importText_of_indexRows backRows, table, counter,
      registrations⟩)
    rw [importText_of_indexRows both, rows, Writer.measured, List.filter_append,
      List.length_append, parsed]
    rfl

end Imports

/-- Where the medium does not fail, an import accounts for every line of a text: each is a row that
is indexed, or cannot be read and is counted, or is a remark. Storage fails on labels only that are
refused, and so not if the labels of all rows are small enough to be recorded. Importing two texts
one after the other comes to the same table and the same identifiers as importing both at once with
a line feed between them, or ends with the same error; no text is as long as 2⁶³. Texts that differ
by lines only that cannot be read are imported alike. -/
theorem importText_accounts {engine : Engine} {offered : Nat} (served : engine.Served offered)
    (unfailing : engine.store.Unfailing) (tenant : Tenant) (default : UInt64) :
    (∀ (text : String) (order : Writer.KeyOrder),
      (∀ summary, (engine.importText tenant text default order).1 = .ok summary →
        summary.rows = (Line.parseAll text.toList default).rows.length ∧
        summary.rows + summary.invalid + (Line.split text.toList).countP Line.isRemark =
          text.toList.count '\n' + 1) ∧
      (∀ error, (engine.importText tenant text default order).1 = .error error →
        ∃ cause, error = .store cause ∧ Writer.Refused (rowsOf text default) cause) ∧
      ((∀ row ∈ rowsOf text default, LabelRecord.Small row.canonicalLabels) →
        ∃ summary, (engine.importText tenant text default order).1 = .ok summary)) ∧
    (∀ front back : String, (front ++ "\n" ++ back).length < 2 ^ 63 →
      ∀ order early late : Writer.KeyOrder,
        (∃ error whole between,
          engine.importText tenant (front ++ "\n" ++ back) default order = (.error error, whole) ∧
          engine.importText tenant front default early = (.error error, between)) ∨
        (∃ error whole first between after,
          engine.importText tenant (front ++ "\n" ++ back) default order = (.error error, whole) ∧
          engine.importText tenant front default early = (.ok first, between) ∧
          between.importText tenant back default late = (.error error, after)) ∨
        ∃ whole first between second after,
          engine.importText tenant (front ++ "\n" ++ back) default order =
            (.ok ⟨first.rows + second.rows, first.invalid + second.invalid⟩, whole) ∧
          engine.importText tenant front default early = (.ok first, between) ∧
          between.importText tenant back default late = (.ok second, after) ∧
          whole.store.table = after.store.table ∧ whole.writer.nextId = after.writer.nextId ∧
          engine.identified tenant (front ++ "\n" ++ back) default =
            engine.identified tenant front default ++ between.identified tenant back default) ∧
    ∀ (text other : String) (order : Writer.KeyOrder),
      ((Line.split text.toList).filter fun line => (Line.parse line default).isOk) =
        ((Line.split other.toList).filter fun line => (Line.parse line default).isOk) →
      (engine.importText tenant text default order).1.map ImportSummary.rows =
          (engine.importText tenant other default order).1.map ImportSummary.rows ∧
        (engine.importText tenant text default order).2 =
          (engine.importText tenant other default order).2 := by
  refine ⟨fun text order => ?_, fun front back short order early late =>
    importText_parts served.reached unfailing order early late
      (served.unwrapped_text tenant default short),
    fun text other order same => importText_of_filter same engine tenant order⟩
  have answers :=
    importText_answers (served.reached.answering unfailing) tenant text default order
  generalize (engine.importText tenant text default order).1 = outcome at answers ⊢
  cases outcome with
  | ok summary =>
      obtain rfl : summary = _ := answers
      refine ⟨?_, nofun, fun _ => ⟨_, rfl⟩⟩
      rintro _ ⟨⟩
      exact ⟨rfl, Line.parseAll_accounts default text.toList⟩
  | error error =>
      obtain ⟨cause, rfl, refused⟩ := answers
      refine ⟨nofun, ?_, fun small => ?_⟩
      · rintro _ ⟨⟩
        exact ⟨cause, rfl, refused⟩
      · rw [← measured_rowsOf] at small
        exact absurd refused (Writer.not_refused small)

/-- A new engine imports two rows of one series in two parts, with a remark and a line that cannot
be read between them. -/
theorem importText_accounts_sample :
    ∃ (engine : Engine) (offered : Nat), engine.Served offered ∧ engine.store.Unfailing ∧
      (∃ summary, (engine.importText ⟨0, 0⟩ "m \"1\"\n# note\nm" 7).1 = .ok summary ∧
        summary.rows = 1 ∧ summary.invalid = 1) ∧
      ∃ whole first between second after,
        engine.importText ⟨0, 0⟩ "m \"1\"\n# note\nm\nm \"2\" 5" 7 =
          (.ok ⟨first.rows + second.rows, first.invalid + second.invalid⟩, whole) ∧
        engine.importText ⟨0, 0⟩ "m \"1\"\n# note" 7 = (.ok first, between) ∧
        between.importText ⟨0, 0⟩ "m\nm \"2\" 5" 7 = (.ok second, after) ∧
        whole.store.table = after.store.table := by
  have served : Served 0 (onStore (.default "data") (.ofTable .memory .empty)
      (Writer.firstIdAt (some 7))) := .start (.default "data") (some 7) rfl
  have unfailing : (Store.ofTable .memory .empty).Unfailing := ⟨fun _ _ => rfl, fun _ _ => rfl⟩
  obtain ⟨accounts, parts, -⟩ := importText_accounts served unfailing ⟨0, 0⟩ 7
  have small : ∀ text ∈ ["m \"1\"\n# note\nm", "m \"1\"\n# note\nm\nm \"2\" 5"],
      ∀ row ∈ rowsOf text 7, LabelRecord.Small row.canonicalLabels := by
    have lengths : ∀ text ∈ ["m \"1\"\n# note\nm", "m \"1\"\n# note\nm\nm \"2\" 5"],
        ∀ row ∈ rowsOf text 7,
          (Values.joined (LabelRecord.parts row.canonicalLabels)).length < 2 ^ 32 := by
      decide +kernel
    exact fun text listed row inside => LabelRecord.small_of_length (lengths text listed row inside)
  refine ⟨_, _, served, unfailing, ?_, ?_⟩
  · obtain ⟨counts, -, answers⟩ := accounts "m \"1\"\n# note\nm" .asSeen
    obtain ⟨summary, imported⟩ := answers (small _ (.head _))
    obtain ⟨rows, lines⟩ := counts summary imported
    have one : summary.rows = 1 := rows.trans (by decide +kernel)
    have remarks : (Line.split "m \"1\"\n# note\nm".toList).countP Line.isRemark = 1 := by
      decide +kernel
    have feeds : "m \"1\"\n# note\nm".toList.count '\n' = 2 := by decide +kernel
    exact ⟨summary, imported, one, by omega⟩
  · obtain ⟨-, -, answers⟩ := accounts ("m \"1\"\n# note" ++ "\n" ++ "m\nm \"2\" 5") .asSeen
    obtain ⟨summary, imported⟩ := answers (small _ (.tail _ (.head _)))
    rcases parts "m \"1\"\n# note" "m\nm \"2\" 5" (by decide +kernel) .asSeen .asSeen .asSeen with
      ⟨_, _, _, both, -⟩ | ⟨_, _, _, _, _, both, -⟩ |
      ⟨whole, first, between, second, after, both, early, late, table, -⟩
    · rw [both] at imported
      cases imported
    · rw [both] at imported
      cases imported
    · exact ⟨whole, first, between, second, after, both, early, late, table⟩

end Engine

end SeriesIndex
