import BenchBoard.Catalogue.Case
import BenchBoard.Sheet.Basic
import BenchBoard.Text.Style
/-!
# BenchBoard.Catalogue.Listing

**What there is to compare.** The listing shows all topics with their cases and entries, and
which entry of each case is the baseline. No result file is needed for it.
-/

namespace BenchBoard.Listing

open BenchBoard.Json BenchBoard.Text

/-! ### JSON -/

/-- A case is its name, its text, the name of its baseline and those of all entries. -/
def caseJson (c : Case) : Value :=
  .record [("name", .text c.name), ("desc", .text c.description),
    ("baseline", .text c.baselineEntry.name), ("entries", .texts (c.entries.map (·.name)))]

/-- The topics with their cases, all members in the order of their names. -/
def json (topics : Topics (List Case)) : Value :=
  (Value.record (topics.toList.map fun topic =>
    (topic.1, .array (topic.2.map caseJson)))).sorted

/-! ### CSV -/

/-- The columns of the sheet. -/
def headers : List String :=
  ["topic", "index", "case", "entry", "baseline"]

/-- The rows of a case at this place of its topic, one for each entry. -/
def caseRows (topic : String) (index : Nat) (c : Case) : List (List Cell) :=
  c.entries.mapIdx fun place entry =>
    [.ofText topic, .ofText (toString index), .ofText c.name, .ofText entry.name,
      .ofText (if place = c.baseline then "true" else "false")]

/-- The sheet of all entries. -/
def sheet (topics : Topics (List Case)) : Sheet :=
  (Sheet.new "topics" headers).pushAll
    (topics.toList.flatMap fun topic => (topic.2.mapIdx (caseRows topic.1)).flatten)

/-! ### Text -/

/-- The lines of a case at this place of its topic. -/
def caseText (color : Bool) (index : Nat) (c : Case) : String :=
  let description := if c.description.isEmpty then "" else s!" - {c.description}"
  let mark (place : Nat) :=
    if place = c.baseline then Style.yellow.paint color " (baseline)" else ""
  s!"  [{index}] {Style.green.paint color c.name}{description}\n" ++
    String.join (c.entries.mapIdx fun place entry =>
      s!"      {entry.name}{mark place}\n")

/-- The lines of all topics. -/
def text (color : Bool) (topics : Topics (List Case)) : String :=
  String.join (topics.toList.map fun topic =>
    Style.bold.paint color topic.1 ++ "\n" ++ String.join (topic.2.mapIdx (caseText color)))

def render (format : Format) (color : Bool) (topics : Topics (List Case)) : String :=
  match format with
  | .text => text color topics
  | .csv => (sheet topics).toCsv
  | .json => (json topics).pretty ++ "\n"

end BenchBoard.Listing
