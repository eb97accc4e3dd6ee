import BenchBoard.Catalogue.Registry
import BenchBoard.Report.Plot
import BenchBoard.Report.Sheets
/-!
# BenchBoard.Report.Case

**Everything that is shown of a selected case.** A report gathers the plots and sheets of a
view: the curves of every metric that is compared, the sheets of the comparisons, those of
the fitted complexities, and on request the full results.

As one document, the JSON form is the whole report. The CSV form has a block for each sheet
under a line with its title. The text form names the case and its baseline and then shows the
sheets. The plots are in the JSON form only.
-/

namespace BenchBoard

open BenchBoard.Json

/-- What is shown of a selected case. -/
structure CaseReport where
  topic : String
  caseName : String
  description : String
  /-- The name of the baseline. -/
  baseline : String
  /-- The curves, metric by metric. -/
  plots : List Plot
  /-- A sheet for each metric. -/
  comparisons : List Sheet
  /-- The fits of both times, if there are any. -/
  complexity : List Sheet
  /-- The full results, if they were asked for. -/
  full : Option Sheet
  deriving DecidableEq

namespace CaseReport

/-- The report of a view, with the full results or without. -/
def ofView (view : View) (withFull : Bool) : CaseReport where
  topic := view.topic
  caseName := view.chosen.name
  description := view.chosen.description
  baseline := view.chosen.baselineEntry.name
  plots := view.comparisons.flatMap fun c => Plot.ofCase c.metric.field view.chosen
  comparisons := view.comparisons.map Comparison.sheet
  complexity := [TimeKind.real, TimeKind.cpu].filterMap (Complexity.sheet? · view.chosen)
  full := if withFull then some (FullResults.sheet view.chosen) else none

/-- All sheets in the order in which they are shown. -/
def sheets (report : CaseReport) : List Sheet :=
  report.comparisons ++ report.complexity ++ report.full.toList

/-- A report is the record of its parts; full results that were not asked for are left
out. -/
def toJson (report : CaseReport) : Value :=
  .record ([
    ("topic", .text report.topic),
    ("case", .text report.caseName),
    ("description", .text report.description),
    ("baseline", .text report.baseline),
    ("plots", .array (report.plots.map Plot.toJson)),
    ("comparisons", .array (report.comparisons.map Sheet.toJson)),
    ("complexity", .array (report.complexity.map Sheet.toJson))] ++
    report.full.toList.map fun sheet => ("full_results", sheet.toJson))

/-- The names of the fields of a report, in order. -/
def fieldNames : List String :=
  ["topic", "case", "description", "baseline", "plots", "comparisons", "complexity",
    "full_results"]

/-- Takes `toJson` back, up to the last places of the numbers. -/
def ofJson? : Reader CaseReport := fun v => do
  match ← fields? fieldNames 8 v with
  | [topic, caseName, description, baseline, plots, comparisons, complexity, full] =>
      return {
        topic := ← required readText topic
        caseName := ← required readText caseName
        description := ← required readText description
        baseline := ← required readText baseline
        plots := ← required (readList Plot.ofJson?) plots
        comparisons := ← required (readList Sheet.ofJson?) comparisons
        complexity := ← required (readList Sheet.ofJson?) complexity
        full := ← optional Sheet.ofJson? full }
  | _ => none

/-! ### The document -/

/-- A CSV block with its title in front. -/
def csvBlock (sheet : Sheet) : String :=
  s!"# {sheet.title}\n{sheet.toCsv}"

/-- The lines in front of the sheets. -/
def preface (report : CaseReport) : String :=
  let description := if report.description.isEmpty then "" else s!": {report.description}"
  s!"{report.topic} / {report.caseName}{description}\nbaseline: {report.baseline}\n\n"

def render (format : Format) (report : CaseReport) : String :=
  match format with
  | .text => report.preface ++ String.intercalate "\n" (report.sheets.map Sheet.toText)
  | .csv => String.intercalate "\n" (report.sheets.map csvBlock)
  | .json => report.toJson.pretty ++ "\n"

end CaseReport

end BenchBoard
