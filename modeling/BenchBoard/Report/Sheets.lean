import BenchBoard.Catalogue.Case
import BenchBoard.Sheet.Basic
/-!
# BenchBoard.Report.Sheets

**The sheets of a case.** Each comparison of a case has a sheet, and so has the fitted
complexity of either time. The full results show everything that the files of a case say.

Design points:

* A speedup that could not be computed leaves its cell empty; the reason is not shown.
* Without any fit there is no sheet of fits. An entry without a fit has a row of its own all
  the same, so that the sheets of a case list the same entries.
* The full results have a column for each field of any header, in the order in which the
  fields are first met. A field that is called `entry` itself shares the first column and is
  not shown.
-/

namespace BenchBoard

/-! ### Comparisons

A column for the size, one for the values of each entry, and one for the speedups of each
entry. -/

namespace Comparison

def speedupCell : SpeedupCell → Cell
  | .ok x => .number x
  | .error _ => .empty

/-- The cells of a row: the size as it is, the values, the speedups. -/
def cells (row : ComparisonRow) : List Cell :=
  .text row.size :: row.values.map Cell.ofText ++ row.speedups.map speedupCell

/-- The sheet of a comparison, titled by its metric. -/
def sheet (comparison : Comparison) : Sheet :=
  (Sheet.new comparison.metric.field ("size" :: comparison.columnNames)).pushAll
    (comparison.rows.map cells)

end Comparison

/-! ### Fitted complexities

For the wall-clock time and for the processor time there is a sheet with a row for each
loaded entry: the fitted class, its coefficient, the deviation from the fit, and the speedup
of the coefficient against the baseline's. -/

/-- The two times that a run measures. -/
inductive TimeKind
  | real
  | cpu
  deriving DecidableEq, Repr

namespace TimeKind

/-- The name in titles. -/
def name : TimeKind → String
  | real => realTimeField
  | cpu => cpuTimeField

/-- The fitted coefficient of this time. -/
def coefficient? (kind : TimeKind) (series : Series) : Option String :=
  match kind with
  | real => series.fit.realTime
  | cpu => series.fit.cpuTime

/-- The deviation from the fit of this time. -/
def deviation? (kind : TimeKind) (series : Series) : Option String :=
  match kind with
  | real => series.deviation.realTime
  | cpu => series.deviation.cpuTime

end TimeKind

namespace Complexity

/-- The headers of a sheet of fits. -/
def headers : List String :=
  ["entry", "complexity", "coefficient", "rms", "speedup"]

/-- The row of an entry, given the baseline's coefficient. -/
def row (kind : TimeKind) (reference : Option String) (entry : NamedSeries) : List Cell :=
  let (name, series) := entry
  [ .text name,
    .ofText (series.fit.label.getD ""),
    .ofText ((kind.coefficient? series).getD ""),
    .ofText ((kind.deviation? series).getD ""),
    Comparison.speedupCell (speedup reference (kind.coefficient? series) false) ]

/-- The sheet of the fits of one time, if any entry has a fit. -/
def sheet? (kind : TimeKind) (c : Case) : Option Sheet :=
  let entries := c.entries.filterMap Entry.named?
  if entries.any fun entry => entry.2.hasFit then
    let reference := c.baselineEntry.series?.bind kind.coefficient?
    some ((Sheet.new s!"complexity ({kind.name})" headers).pushAll
      (entries.map (row kind reference)))
  else none

end Complexity

/-! ### Full results

Every field of every record of every loaded entry in one sheet, behind a column with the name
of the entry. The records of an entry form a block, and a blank row stands between two
blocks. -/

namespace FullResults

/-- The header of the first column. -/
def entryHeader : String := "entry"

/-- The headers with the fields that are not among them yet. -/
def addFields (headers fields : List String) : List String :=
  fields.foldl (fun headers field =>
    if headers.contains field then headers else headers ++ [field]) headers

/-- The name and the results of an entry that is loaded. -/
def loaded? (entry : Entry) : Option (String × Results) :=
  entry.results.map fun results => (entry.name, results)

/-- The columns for the headers of these results. -/
def headers (loaded : List (String × Results)) : List String :=
  loaded.foldl (fun headers entry => addFields headers entry.2.table.header.fields)
    [entryHeader]

def row (headers : List String) (name : String) (record : Record) : List Cell :=
  .text name :: headers.tail.map fun header => .ofText (record.get header)

/-- The rows of one entry. -/
def block (headers : List String) (entry : String × Results) : List (List Cell) :=
  entry.2.table.records.map (row headers entry.1)

/-- The rows of all entries, with a blank row between two blocks. -/
def rows (headers : List String) (loaded : List (String × Results)) : List (List Cell) :=
  [[]].intercalate (loaded.map (block headers))

/-- The full results of a case. -/
def sheet (c : Case) : Sheet :=
  let loaded := c.entries.filterMap loaded?
  let headers := headers loaded
  (Sheet.new s!"{c.name} results" headers).pushAll (rows headers loaded)

end FullResults

end BenchBoard
