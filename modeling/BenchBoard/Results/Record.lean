import BenchBoard.Results.Header
/-!
# BenchBoard.Results.Record

**One data line under its header.** A record pairs each field name of the header with the
trimmed value in the same place of the line. A line may be longer than the header when all
of its surplus is blank, for then it ends in stray commas; a shorter line is refused.
-/

namespace BenchBoard

open BenchBoard.Text

/-- A data line, keyed by the names of the header. -/
structure Record where
  /-- The line that the record stands on, counted from 1. -/
  line : Nat
  /-- Names and values, in header order. -/
  fields : List (String × String)
  deriving DecidableEq, Repr

namespace Record

/-- The record that the fields of line `line` make up. -/
def ofValues (header : Header) (values : List String) (line : Nat) :
    Except ResultError Record :=
  let expected := header.size
  if values.length < expected ∨ (values.drop expected).any (fun v => !allBlank v.toList) then
    .error (.fieldCountMismatch line expected values.length)
  else .ok ⟨line, header.fields.zip (values.map trim)⟩

/-- The value of a field, the first if it occurs twice. -/
def get? (record : Record) (field : String) : Option String :=
  record.fields.lookup field

/-- The value of a field, empty where the record lacks it. -/
def get (record : Record) (field : String) : String :=
  (record.get? field).getD ""

/-- What the record measures. -/
def name (record : Record) : String :=
  record.get nameField

/-- The values, in header order. -/
def values (record : Record) : List String :=
  record.fields.map (·.2)

end Record

end BenchBoard
