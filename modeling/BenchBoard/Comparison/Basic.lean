import BenchBoard.Comparison.Metric
import BenchBoard.Comparison.Speedup
/-!
# BenchBoard.Comparison.Basic

**The entries of a case side by side.** A comparison takes one metric and gives, for each
size of the baseline and each entry, the value of the entry and its speedup against the
baseline.

Design points:

* Rows are aligned by position, so all entries need as many sizes as the baseline. The
  first entry that has not is the error, and there is no partial comparison.
* Labels of sizes may differ: the rows carry the baseline's labels, and the entries whose
  labels differ are listed by `relabelled` for a warning.
* A cell depends on the baseline's value and the entry's value in its row and on nothing
  else. An entry without the metric has missing values.
* A baseline that is no entry gives a comparison without rows.
-/

namespace BenchBoard

/-- The entry of a comparison: its name and its series. -/
abbrev NamedSeries := String × Series

/-- An entry that was measured at another number of sizes than the baseline. -/
structure Misalignment where
  entry : String
  /-- The number of sizes of the baseline. -/
  expected : Nat
  /-- The number of sizes of the entry. -/
  actual : Nat
  deriving DecidableEq, Repr

def Misalignment.message (m : Misalignment) : String :=
  s!"entry '{m.entry}' has {m.actual} sizes, baseline has {m.expected}"

/-- A speedup or the reason why there is none. -/
abbrev SpeedupCell := Except SpeedupError Float

/-- One size of a comparison. -/
structure ComparisonRow where
  /-- The baseline's label of the size. -/
  size : String
  /-- The value of each entry, empty where it has none. -/
  values : List String
  /-- The speedup of each entry. -/
  speedups : List SpeedupCell

/-- The values and speedups of one metric. -/
structure Comparison where
  metric : Metric
  /-- The names of the entries, in case order. -/
  entries : List String
  /-- The place of the baseline among the entries. -/
  baseline : Nat
  /-- One row per size of the baseline. -/
  rows : List ComparisonRow

namespace Comparison

/-- The row of the `index`-th size. -/
def row (entries : List NamedSeries) (base : Series) (metric : Metric) (index : Nat)
    (size : String) : ComparisonRow :=
  let reference := base.value? metric.field index
  let values := entries.map fun entry => entry.2.value? metric.field index
  { size := size
    values := values.map (·.getD "")
    speedups := values.map fun value => speedup reference value metric.reciprocal }

/-- Compares a metric of the entries with that of the entry at `baseline`. -/
def compare (entries : List NamedSeries) (baseline : Nat) (metric : Metric) :
    Except Misalignment Comparison :=
  let names := entries.map (·.1)
  match entries[baseline]? with
  | none => .ok ⟨metric, names, baseline, []⟩
  | some (_, base) =>
    match entries.find? fun entry => entry.2.size != base.size with
    | some (name, series) => .error ⟨name, base.size, series.size⟩
    | none => .ok ⟨metric, names, baseline, base.sizes.toList.mapIdx (row entries base metric)⟩

/-- The entries whose labels of the sizes differ from the baseline's, up to the first entry
that is misaligned. -/
def relabelled (entries : List NamedSeries) (baseline : Nat) : List String :=
  match entries[baseline]? with
  | none => []
  | some (_, base) =>
      ((entries.takeWhile fun entry => entry.2.size == base.size).filter
        fun entry => entry.2.sizes != base.sizes).map (·.1)

/-- The names of the columns: one per entry for its values, then one per entry for its
speedups. -/
def columnNames (comparison : Comparison) : List String :=
  comparison.entries ++ comparison.entries.map (· ++ "[speedup]")

/-- The speedup in a row and of an entry, if there are such. -/
def speedup? (comparison : Comparison) (row entry : Nat) : Option SpeedupCell :=
  comparison.rows[row]?.bind (·.speedups[entry]?)

/-- How many speedups could not be computed. -/
def errorCount (comparison : Comparison) : Nat :=
  (comparison.rows.flatMap (·.speedups)).countP fun cell => !cell.isOk

end Comparison

end BenchBoard
