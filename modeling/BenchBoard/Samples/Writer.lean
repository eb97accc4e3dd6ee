import BenchBoard.Decimal.Layout
import BenchBoard.Decimal.Reading
/-!
# BenchBoard.Samples.Writer

**Writing a result file.** The writer makes the text that a benchmark run prints: some lines
about the machine, the header, a record for each sample, and two records for the fitted
complexity if there is one.

The names of the records are quoted, because the name of a case may hold commas. The rate
of items is derived from the processor time and left empty where that time is zero.
-/

namespace BenchBoard.Samples

/-- A measurement. -/
structure Sample where
  size : Nat
  /-- The wall-clock time in nanoseconds. -/
  realTime : Float
  /-- The processor time in nanoseconds. -/
  cpuTime : Float

/-- A complexity that was fitted to measurements. -/
structure FittedClass where
  label : String
  realTime : Float
  cpuTime : Float
  /-- The deviation of the wall-clock times. -/
  realDeviation : Float
  /-- The deviation of the processor times. -/
  cpuDeviation : Float

/-- The lines about the machine. -/
def preamble : List String :=
  ["2025-03-14T09:26:53+00:00", "Running ./bm_list", "Run on (8 X 3600 MHz CPU s)",
    "CPU Caches:", "  L1 Data 32 KiB (x4)", "  L2 Unified 256 KiB (x4)",
    "Load Average: 0.52, 0.58, 0.59"]

/-- The fields of a record. -/
def fields : List String :=
  ["name", "iterations", "real_time", "cpu_time", "time_unit", "bytes_per_second",
    "items_per_second", "label", "error_occurred", "error_message"]

/-- The header line. -/
def header : String :=
  String.intercalate "," fields

/-- How many items a second were processed, unless it took no time at all. -/
def Sample.itemsPerSecond? (sample : Sample) : Option Float :=
  if sample.cpuTime == 0.0 then none
  else some (Decimal.ofScaled sample.size 0 * 1e9 / sample.cpuTime)

/-- A number, or nothing. -/
def shown (x : Option Float) : String :=
  (x.map Decimal.exact).getD ""

/-- The record of a sample. -/
def Sample.line (caseName : String) (sample : Sample) : String :=
  let realTime := Decimal.exact sample.realTime
  let cpuTime := Decimal.exact sample.cpuTime
  s!"\"{caseName}/{sample.size}\",1000,{realTime},{cpuTime},ns,," ++
    s!"{shown sample.itemsPerSecond?},,,"

/-- The records of a fitted complexity: the coefficients and the deviations. -/
def FittedClass.lines (caseName : String) (fit : FittedClass) : List String :=
  [ s!"\"{caseName}_BigO\",,{Decimal.exact fit.realTime},{Decimal.exact fit.cpuTime}," ++
      s!"{fit.label},,,,,",
    s!"\"{caseName}_RMS\",,{Decimal.exact fit.realDeviation}," ++
      s!"{Decimal.exact fit.cpuDeviation},,,,,," ]

/-- The lines, each with its end. -/
def unlines (lines : List String) : String :=
  String.join (lines.map (· ++ "\n"))

def resultFile (caseName : String) (samples : List Sample) (fit : Option FittedClass) :
    String :=
  unlines (preamble ++ header :: samples.map (Sample.line caseName) ++
    fit.elim [] (FittedClass.lines caseName))

end BenchBoard.Samples
