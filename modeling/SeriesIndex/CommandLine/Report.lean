import SeriesIndex.Engine
import SeriesIndex.Text.Json

/-!
# Reports

What a search has found, as a table for people or as JSON, and how an error is told with its
causes.
-/

namespace SeriesIndex

namespace Found

/-- At most so many series, as a user asks for. -/
def atMost (found : Found) (limit : Nat) : Found :=
  { found with ids := found.ids.take limit, series := found.series.map (·.take limit) }

/-- A text with blanks behind it up to a width. -/
def padded (width : Nat) (text : String) : String :=
  text ++ String.ofList (List.replicate (width - text.length) ' ')

def idWidth : Nat := 20

def entryLine (entry : SeriesEntry) : String :=
  padded idWidth (toString entry.id.toNat) ++ " \x7b" ++
    ", ".intercalate (entry.labels.map (·.render)) ++ "\x7d"

def bodyLines (found : Found) : List String :=
  match found.series with
  | some series => series.map entryLine
  | none => found.ids.map fun id => padded idWidth (toString id.toNat)

/-- A line for each series between a heading and their number. -/
def table (found : Found) : String :=
  let lines := [padded idWidth "ID" ++ " Labels"] ++ found.bodyLines ++
    (if found.truncated then ["(result truncated at the configured max_series)"] else []) ++
    [s!"{found.ids.length} series"]
  String.join (lines.map (· ++ "\n"))

open Text.Json in
def labelJson (label : Label) : Layout :=
  object [("name", string label.name), ("value", string label.value)]

open Text.Json in
def entryJson (entry : SeriesEntry) : Layout :=
  object [("id", number entry.id.toNat), ("labels", array (entry.labels.map labelJson))]

open Text.Json in
def json (found : Found) : String :=
  let fields := [("ids", array (found.ids.map fun id => number id.toNat)),
    ("truncated", boolean found.truncated)]
  let series := match found.series with
    | some entries => [("series", array (entries.map entryJson))]
    | none => []
  render (object (fields ++ series)) ++ "\n"

end Found

/-! ## Causes -/

/-- The message of an error and those of the errors behind it. -/
def StoreError.causes (error : StoreError) : List String :=
  error.message :: match error with
    | io reason => [reason]
    | _ => []

def SearchError.causes (error : SearchError) : List String :=
  error.message :: match error with
    | scan _ _ cause | store cause => cause.causes
    | _ => []

def EngineError.causes (error : EngineError) : List String :=
  error.message :: match error with
    | store cause => cause.causes
    | search cause => cause.causes

namespace CommandLine

/-- A text with blanks in front up to a width. -/
def alignedRight (width : Nat) (text : String) : String :=
  String.ofList (List.replicate (width - text.length) ' ') ++ text

/-- A cause behind its number, if there are several. -/
def causeText (lead rest cause : String) : String :=
  lead ++ ("\n" ++ rest).intercalate (cause.splitOn "\n")

/-- An error and its causes: one alone, or several with their numbers. -/
def errorReport (causes : List String) : String :=
  match causes with
  | [] => ""
  | [message] => s!"Error: {message}\n"
  | [message, cause] =>
      s!"Error: {message}\n\nCaused by:\n" ++ causeText "    " "    " cause ++ "\n"
  | message :: causes =>
      let lines := causes.zipIdx.map fun (cause, number) =>
        causeText (alignedRight 5 (toString number) ++ ": ") "       " cause
      s!"Error: {message}\n\nCaused by:\n" ++ "\n".intercalate lines ++ "\n"

end CommandLine

end SeriesIndex
