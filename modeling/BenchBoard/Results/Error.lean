import BenchBoard.Csv.Line
import BenchBoard.Results.Limits
/-!
# BenchBoard.Results.Error

**Why a result file is refused.** Each constructor is a cause with the data that its
wording needs; the wording itself is in `ResultError.message` alone. Every error aborts
the whole file: no partial table and no partial series is ever given out.
-/

namespace BenchBoard

/-- Why a header line cannot serve as a schema. -/
inductive HeaderFault
  /-- The field in this column, counted from 1, has no name. -/
  | emptyFieldName (column : Nat)
  /-- No field is called `name`. -/
  | noNameField
  deriving DecidableEq, Repr

def HeaderFault.message : HeaderFault → String
  | emptyFieldName column => s!"empty field name in column {column}"
  | noNameField => "no 'name' field"

/-- Why no series can be made from a result file. Lines are counted from 1. -/
inductive ResultError
  /-- A line is not a CSV line. -/
  | malformedLine (line : Nat) (error : Csv.LineError)
  /-- No line begins with `name`. -/
  | schemaMissing
  /-- The header line was found but is no schema. -/
  | invalidHeader (line : Nat) (fault : HeaderFault)
  /-- Two columns of the header have this name. -/
  | duplicateHeaderField (line : Nat) (field : String)
  /-- A data line is not as wide as the header. -/
  | fieldCountMismatch (line expected actual : Nat)
  /-- Two sized records of one file name different cases. -/
  | inconsistentCase (line : Nat) (expected found : String)
  /-- A quantity is greater than its limit. -/
  | limitExceeded (quantity : Quantity) (bound actual : Nat)
  deriving DecidableEq, Repr

namespace ResultError

def message : ResultError → String
  | malformedLine line e =>
      s!"line {line}, column {e.column}: malformed CSV line: {e.fault.message}"
  | schemaMissing => "no header line starting with 'name' found"
  | invalidHeader line fault => s!"line {line}: invalid header: {fault.message}"
  | duplicateHeaderField line field => s!"line {line}: duplicate header field '{field}'"
  | fieldCountMismatch line expected actual =>
      s!"line {line}: expected {expected} fields, got {actual}"
  | inconsistentCase line expected found =>
      s!"line {line}: inconsistent case name: expected '{expected}', found '{found}'"
  | limitExceeded quantity bound actual =>
      s!"{quantity.name} limit exceeded: {actual} > {bound}"

/-- The line that the error is about, if it is about one. -/
def line? : ResultError → Option Nat
  | malformedLine line _ | invalidHeader line _ | duplicateHeaderField line _
  | fieldCountMismatch line _ _ | inconsistentCase line _ _ => some line
  | schemaMissing | limitExceeded _ _ _ => none

/-- Does the error come from the text itself, not from the meaning of its records? -/
def isParseError : ResultError → Bool
  | inconsistentCase _ _ _ => false
  | _ => true

end ResultError

/-- Refuses a quantity that is greater than its limit. -/
def Limits.check (limits : Limits) (quantity : Quantity) (actual : Nat) :
    Except ResultError Unit :=
  match limits.bound quantity with
  | none => .ok ()
  | some bound =>
      if bound < actual then .error (.limitExceeded quantity bound actual) else .ok ()

/-- A check passes exactly when the quantity is within its bound, if it has one. -/
theorem Limits.check_eq_ok_iff {limits : Limits} {quantity : Quantity} {actual : Nat} :
    limits.check quantity actual = .ok () ↔
      ∀ bound ∈ limits.bound quantity, actual ≤ bound := by
  unfold Limits.check
  cases limits.bound quantity with
  | none => simp
  | some bound =>
      by_cases h : bound < actual
      · simp [h]
      · simpa [h] using Nat.le_of_not_lt h

/-- Without limits every check passes. -/
@[simp] theorem Limits.check_unlimited (quantity : Quantity) (actual : Nat) :
    Limits.unlimited.check quantity actual = .ok () := by
  cases quantity <;> rfl

end BenchBoard
