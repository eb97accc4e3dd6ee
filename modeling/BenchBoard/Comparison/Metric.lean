import BenchBoard.Series.Basic
import BenchBoard.Json.Decode
/-!
# BenchBoard.Comparison.Metric

**What is compared.** A metric is a field of the header together with its direction. Of a
time, less is better, and the speedup of an entry is the baseline's value divided by the
entry's. Of a throughput, more is better, and the ratio is inverted (`reciprocal`), so
that a speedup above one always means that the entry is faster.
-/

namespace BenchBoard

open BenchBoard.Json

/-- A metric column and its direction. -/
structure Metric where
  /-- The field of the header. -/
  field : String
  /-- Is more better? -/
  reciprocal : Bool
  deriving DecidableEq, Repr

namespace Metric

/-- The metrics that are compared unless others are asked for: both times and both
throughputs. -/
def standard : List Metric :=
  [⟨realTimeField, false⟩, ⟨cpuTimeField, false⟩, ⟨"bytes_per_second", true⟩,
    ⟨"items_per_second", true⟩]

/-- The metric of a field: with its usual direction if it is a standard one, and otherwise
with less being better. -/
def forField (field : String) : Metric :=
  (standard.find? (·.field == field)).getD ⟨field, false⟩

/-- The metric keeps the field that it was asked for. -/
theorem field_forField (field : String) : (forField field).field = field := by
  unfold forField
  cases h : standard.find? (·.field == field) with
  | none => rfl
  | some m => simpa using List.find?_some h

/-- A metric is its field and its direction. -/
def toJson (metric : Metric) : Value :=
  .record [("field", .text metric.field), ("reciprocal", .bool metric.reciprocal)]

end Metric

end BenchBoard
