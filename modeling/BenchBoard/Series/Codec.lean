import BenchBoard.Series.Basic
import BenchBoard.Json.Decode
/-!
# BenchBoard.Series.Codec

**Series as JSON.** The fit and the deviation have no level of their own in the JSON form:
their parts are fields of the series, `null` where they are absent.
-/

namespace BenchBoard

open BenchBoard.Json

def Column.toJson (column : Column) : Value :=
  .record [("name", .text column.name), ("values", .texts column.values.toList)]

/-- Takes `Column.toJson` back. -/
def Column.ofJson? : Reader Column := fun v => do
  match ← fields? ["name", "values"] 2 v with
  | [name, values] =>
      return ⟨← required readText name, (← required (readList readText) values).toArray⟩
  | _ => none

namespace Series

/-- A series is one flat record. -/
def toJson (series : Series) : Value :=
  .record [
    ("case_name", .optionalText series.caseName),
    ("sizes", .texts series.sizes.toList),
    ("metrics", .array (series.columns.map Column.toJson)),
    ("complexity_label", .optionalText series.fit.label),
    ("complexity_real_time", .optionalText series.fit.realTime),
    ("complexity_cpu_time", .optionalText series.fit.cpuTime),
    ("complexity_rms_real_time", .optionalText series.deviation.realTime),
    ("complexity_rms_cpu_time", .optionalText series.deviation.cpuTime)]

/-- The names of the fields of a series, in order. -/
def fieldNames : List String :=
  ["case_name", "sizes", "metrics", "complexity_label", "complexity_real_time",
    "complexity_cpu_time", "complexity_rms_real_time", "complexity_rms_cpu_time"]

/-- Takes `toJson` back. -/
def ofJson? : Reader Series := fun v => do
  match ← fields? fieldNames 8 v with
  | [caseName, sizes, columns, label, fitReal, fitCpu, deviationReal, deviationCpu] =>
      return {
        caseName := ← optional readText caseName
        sizes := (← required (readList readText) sizes).toArray
        columns := ← required (readList Column.ofJson?) columns
        fit := ⟨← optional readText label, ← optional readText fitReal,
          ← optional readText fitCpu⟩
        deviation := ⟨← optional readText deviationReal, ← optional readText deviationCpu⟩ }
  | _ => none

end Series

end BenchBoard
