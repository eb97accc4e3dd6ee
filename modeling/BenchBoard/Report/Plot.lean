import BenchBoard.Catalogue.Case
/-!
# BenchBoard.Report.Plot

**Curves for charts.** The plot of a metric has, for each entry that is loaded and has the
metric, the labels of the sizes and the values as numbers. A value that is no number leaves
a gap.
-/

namespace BenchBoard

open BenchBoard.Json

/-- The curve of one entry. -/
structure Plot where
  entry : String
  /-- The field of the metric. -/
  metric : String
  /-- The labels of the sizes. -/
  sizes : List String
  /-- The value at each size, none where it is no number. -/
  values : List (Option Float)
  deriving DecidableEq

namespace Plot

/-- The number that a value spells, blanks around it ignored. -/
def value? (text : String) : Option Float :=
  Decimal.read? (Text.trim text)

/-- The curve of an entry, if it is loaded and has the metric. -/
def curve? (metric : String) (entry : Entry) : Option Plot := do
  let series ← entry.series?
  let values ← series.metric? metric
  return ⟨entry.name, metric, series.sizes.toList, values.toList.map value?⟩

/-- The curves of a case, in the order of its entries. -/
def ofCase (metric : String) (c : Case) : List Plot :=
  c.entries.filterMap (curve? metric)

/-- A curve is its entry, its metric, the sizes and the values. -/
def toJson (plot : Plot) : Value :=
  .record [("entry", .text plot.entry), ("metric", .text plot.metric),
    ("sizes", .texts plot.sizes), ("values", .array (plot.values.map .optionalFloat))]

/-- Takes `toJson` back, up to the last places of the numbers. -/
def ofJson? : Reader Plot := fun v => do
  match ← fields? ["entry", "metric", "sizes", "values"] 4 v with
  | [entry, metric, sizes, values] =>
      return ⟨← required readText entry, ← required readText metric,
        ← required (readList readText) sizes,
        ← required (readList (readOptional readFloat)) values⟩
  | _ => none

end Plot

end BenchBoard
