/-!
# BenchBoard.Results.Limits

**Bounds on a result file.** A result file is small in practice; the limits only bound the
damage that a corrupted or unrelated file can do. Each limit is inclusive: a quantity may
be as large as its bound. A quantity without a bound may have any size.
-/

namespace BenchBoard

/-- The quantities that are bounded. -/
inductive Quantity
  /-- The bytes of the whole text. -/
  | inputSize
  /-- The bytes of one line. -/
  | lineLength
  /-- The fields of the header. -/
  | columns
  /-- The data records. -/
  | records
  deriving DecidableEq, Repr

/-- How a message names the quantity. -/
def Quantity.name : Quantity → String
  | inputSize => "input size"
  | lineLength => "line length"
  | columns => "column"
  | records => "record"

/-- The greatest admitted value of each quantity; none where a quantity is not bounded. -/
structure Limits where
  maxInputSize : Option Nat
  maxLineLength : Option Nat
  maxColumns : Option Nat
  maxRecords : Option Nat
  deriving DecidableEq, Repr

namespace Limits

/-- 64 MiB of text, 64 KiB a line, 256 columns and a million records. -/
def standard : Limits where
  maxInputSize := some (64 * 1024 * 1024)
  maxLineLength := some (64 * 1024)
  maxColumns := some 256
  maxRecords := some 1000000

/-- No bounds at all. -/
def unlimited : Limits := ⟨none, none, none, none⟩

/-- The bound of a quantity, if it has one. -/
def bound (limits : Limits) : Quantity → Option Nat
  | .inputSize => limits.maxInputSize
  | .lineLength => limits.maxLineLength
  | .columns => limits.maxColumns
  | .records => limits.maxRecords

/-- The count that stands for no bound where a count has to be shown: the greatest one of a
64-bit machine. -/
def unboundedCount : Nat := UInt64.size - 1

/-- A bound as a count. -/
def shown (bound : Option Nat) : Nat :=
  bound.getD unboundedCount

end Limits

end BenchBoard
