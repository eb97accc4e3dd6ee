import BenchBoard.Comparison.Metric
import BenchBoard.Text.Blank
import BenchBoard.Decimal.Reading
/-!
# BenchBoard.Config

**What the dashboard can be told.** A configuration bundles what is not in the description
of the cases: where relative paths point, which metrics are compared, the limits on result
files, and how files are read.
-/

namespace BenchBoard

/-- How transient failures are dealt with. -/
structure Policy where
  /-- How often a file is asked for at most. Zero means once. -/
  maxAttempts : Nat
  /-- The pause between two attempts, in milliseconds. -/
  retryDelay : Nat
  deriving DecidableEq, Repr

namespace Policy

/-- Three attempts, a twentieth of a second apart. -/
def standard : Policy := ⟨3, 50⟩

/-- A single attempt. -/
def noRetry : Policy := ⟨1, 0⟩

/-- How many attempts follow the first one at most. -/
def retries (policy : Policy) : Nat :=
  policy.maxAttempts - 1

end Policy

/-- The configuration of the dashboard. -/
structure Config where
  /-- Where relative paths of a description point; without one, to where the description
  lies. -/
  root : Option String := none
  /-- The metrics that are compared. -/
  metrics : List Metric := Metric.standard
  limits : Limits := Limits.standard
  policy : Policy := Policy.standard
  /-- The bytes of a file that is read at most. -/
  maxFileSize : Nat := 64 * 1024 * 1024
  deriving DecidableEq, Repr

namespace Config

/-- The environment variable that overrides the greatest size of a file. -/
def maxFileSizeVariable : String := "BMDASH_MAX_FILE_SIZE"

/-- The greatest size of a file when the variable has this value. A value that is no number
is ignored. -/
def maxFileSizeFrom (value : Option String) : Nat :=
  ((value.map Text.trim).bind Decimal.readCount?).getD ({} : Config).maxFileSize

/-- The configuration when the variable has this value. -/
def ofEnvironment (value : Option String) : Config :=
  { maxFileSize := maxFileSizeFrom value }

end Config

end BenchBoard
