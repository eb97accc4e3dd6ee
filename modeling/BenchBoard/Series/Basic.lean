import BenchBoard.Results.Table
import BenchBoard.Series.RecordKind
/-!
# BenchBoard.Series.Basic

**The series of one result file.** A series has the sizes that were measured, one column
of values per metric with a value for each size, and the fitted complexity if the run
computed one.

Design points:

* Sizes and values are arrays that grow by one entry per sized record, so all columns stay
  aligned with the sizes.
* Values are the texts of the file. Nothing is read as a number here, so nothing is lost.
* The fit and the deviation are overwritten as a whole by each record of their kind: the
  last such record counts.
* All sized records of a file name the same case. The first sized record fixes the case,
  and the first one that disagrees is the error.
-/

namespace BenchBoard

/-- The field with the wall-clock time. -/
def realTimeField : String := "real_time"

/-- The field with the processor time. -/
def cpuTimeField : String := "cpu_time"

/-- The field with the time unit; on a fit record, with the fitted complexity. -/
def timeUnitField : String := "time_unit"

/-- The values of one metric, aligned with the sizes of the series. -/
structure Column where
  /-- The field of the header. -/
  name : String
  values : Array String
  deriving DecidableEq, Repr

/-- A fitted complexity. A part is absent when the header lacks its field. -/
structure Fit where
  /-- The fitted class, such as `N` or `NlgN`. -/
  label : Option String := none
  /-- The coefficient of the wall-clock time. -/
  realTime : Option String := none
  /-- The coefficient of the processor time. -/
  cpuTime : Option String := none
  deriving DecidableEq, Repr

/-- How far the samples deviate from the fit, as a root mean square. -/
structure Deviation where
  realTime : Option String := none
  cpuTime : Option String := none
  deriving DecidableEq, Repr

/-- What one result file says about its case. -/
structure Series where
  /-- The case that all sized records name; absent as long as there is none. -/
  caseName : Option String := none
  /-- The labels of the sizes, in file order. -/
  sizes : Array String := #[]
  /-- The metrics, in header order. -/
  columns : List Column := []
  fit : Fit := {}
  deviation : Deviation := {}
  deriving DecidableEq, Repr

namespace Series

/-- The number of sizes. -/
def size (series : Series) : Nat :=
  series.sizes.size

/-- The values of a metric, if the file has its column. -/
def metric? (series : Series) (field : String) : Option (Array String) :=
  (series.columns.find? (·.name == field)).map (·.values)

/-- The value of a metric at a size, both if present. -/
def value? (series : Series) (field : String) (index : Nat) : Option String :=
  (series.metric? field).bind (·[index]?)

/-- The names of the metrics, in header order. -/
def metricNames (series : Series) : List String :=
  series.columns.map (·.name)

/-- Was a complexity fitted? -/
def hasFit (series : Series) : Bool :=
  series.fit.label.isSome || series.fit.realTime.isSome || series.fit.cpuTime.isSome

/-! ### Aggregation -/

/-- The series of a file with this header before any record is read. -/
def empty (header : Header) : Series where
  columns := header.metricFields.map fun name => ⟨name, #[]⟩

/-- The series with one more sample at its end. -/
def push (series : Series) (record : Record) (caseName size : String) : Series :=
  { series with
    caseName := some caseName
    sizes := series.sizes.push size
    columns := series.columns.map fun column =>
      { column with values := column.values.push (record.get column.name) } }

/-- The series after one more record. -/
def step (series : Series) (record : Record) : Except ResultError Series :=
  match RecordKind.classify record.name with
  | .fit => .ok { series with
      fit := ⟨record.get? timeUnitField, record.get? realTimeField,
        record.get? cpuTimeField⟩ }
  | .deviation => .ok { series with
      deviation := ⟨record.get? realTimeField, record.get? cpuTimeField⟩ }
  | .repetition => .ok series
  | .sized caseName size =>
      match series.caseName with
      | none => .ok (series.push record caseName size)
      | some expected =>
          if expected = caseName then .ok (series.push record caseName size)
          else .error (.inconsistentCase record.line expected caseName)

/-- The series of a table: its records taken in file order. -/
def aggregate (table : ResultTable) : Except ResultError Series :=
  table.records.foldlM step (empty table.header)

def parse (limits : Limits) (text : String) : Except ResultError Series := do
  aggregate (← ResultTable.parse limits text)

end Series

/-- A result file that has been read: its table and the series made from it. -/
structure Results where
  table : ResultTable
  series : Series
  deriving DecidableEq, Repr

/-- Reads a result file's text. -/
def Results.ofText (limits : Limits) (text : String) : Except ResultError Results := do
  let table ← ResultTable.parse limits text
  return ⟨table, ← Series.aggregate table⟩

end BenchBoard
