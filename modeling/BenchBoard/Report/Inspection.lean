import BenchBoard.Sheet.Basic
import BenchBoard.Series.Codec
import BenchBoard.Json.Printer
import BenchBoard.Text.Style
/-!
# BenchBoard.Report.Inspection

**What one result file holds.** The series of a file is shown as a sheet with a row for each
size, as JSON, or as a summary for people: the case, the sizes, each metric with its values,
and the fitted complexity if there is one.
-/

namespace BenchBoard

open BenchBoard.Text

namespace Series

/-- The cells of the size at this place: its label and the value of each metric. -/
def cellsAt (series : Series) (index : Nat) (size : String) : List Cell :=
  .ofText size :: series.columns.map fun column => .ofText (column.values[index]?.getD "")

/-- A row for each size, a column for the label of the size and for each metric. -/
def sheet (series : Series) : Sheet :=
  (Sheet.new (series.caseName.getD "") ("size" :: series.metricNames)).pushAll
    (series.sizes.toList.mapIdx series.cellsAt)

end Series

namespace Inspection

/-- Texts in square brackets, with commas between them. -/
def listing (items : List String) : String :=
  "[" ++ String.intercalate ", " items ++ "]"

/-- A part of a fit; a dash stands for one that the file lacks. -/
def part (text : Option String) : String :=
  text.getD "-"

/-- The fitted complexity. -/
def fitText (color : Bool) (series : Series) : String :=
  "\n" ++ Style.cyan.paint color "Complexity:" ++ "\n" ++
    s!"  label:     {part series.fit.label}\n" ++
    s!"  real_time: {part series.fit.realTime} (rms {part series.deviation.realTime})\n" ++
    s!"  cpu_time:  {part series.fit.cpuTime} (rms {part series.deviation.cpuTime})\n"

/-- The line of a metric. -/
def columnText (color : Bool) (column : Column) : String :=
  s!"  {Style.yellow.paint color column.name}: {listing column.values.toList}\n"

/-- The summary for people. -/
def text (color : Bool) (results : Results) : String :=
  let series := results.series
  let heading := (Style.bold.and .underlined).paint color "Benchmark Series"
  let label (name : String) := Style.cyan.paint color name
  let caseName := Style.green.paint color (series.caseName.getD "(none)")
  s!"{heading}\n\n" ++
    label "Case:" ++ s!"     {caseName}\n" ++
    label "Records:" ++ s!"  {results.table.size}\n" ++
    label "Sizes:" ++ s!"    {listing series.sizes.toList}\n" ++
    "\n" ++ label "Metrics:" ++ "\n" ++
    String.join (series.columns.map (columnText color)) ++
    if series.hasFit then fitText color series else ""

/-- The inspection of a file in a form. -/
def render (format : Format) (color : Bool) (results : Results) : String :=
  match format with
  | .text => text color results
  | .csv => results.series.sheet.toCsv
  | .json => results.series.toJson.pretty ++ "\n"

end Inspection

end BenchBoard
