import BenchBoard.Results.Error
/-!
# BenchBoard.Results.Header

**The schema of a result file.** A header is the ordered list of the field names. One of
them is `name`, which says what a record measures; the others are metrics.

Design points:

* Names are trimmed, and empty names at the end are dropped: they come from a stray comma
  at the end of the line.
* The checks have an order, and the first that fails decides: an empty name, then a
  repeated name, then a missing `name`.
* The type does not carry the checks: a header also comes from stored tables, which
  are taken as they are. `Header.ofFields` is the checked way in.
-/

namespace BenchBoard

open BenchBoard.Text

/-- The field that every header and every record carries. -/
def nameField : String := "name"

/-- The field names of a result file, in file order. -/
structure Header where
  fields : List String
  deriving DecidableEq, Repr

namespace Header

/-- The texts without the empty ones at the end. -/
def dropTrailingEmpty (texts : List String) : List String :=
  (texts.reverse.dropWhile String.isEmpty).reverse

/-- The first text that has occurred before; `seen` are those in front of the list. -/
def firstRepeated (seen : List String) : List String → Option String
  | [] => none
  | text :: texts =>
      if text ∈ seen then some text else firstRepeated (text :: seen) texts

/-- The header that the fields of line `line` make up. -/
def ofFields (texts : List String) (line : Nat) : Except ResultError Header :=
  let fields := dropTrailingEmpty (texts.map trim)
  match fields.findIdx? String.isEmpty with
  | some column => .error (.invalidHeader line (.emptyFieldName (column + 1)))
  | none =>
    match firstRepeated [] fields with
    | some field => .error (.duplicateHeaderField line field)
    | none =>
      if nameField ∈ fields then .ok ⟨fields⟩
      else .error (.invalidHeader line .noNameField)

/-- The fields other than `name`, in file order. -/
def metricFields (header : Header) : List String :=
  header.fields.filter (· != nameField)

/-- The place of a field, counted from 0. -/
def position? (header : Header) (field : String) : Option Nat :=
  header.fields.findIdx? (· == field)

/-- Has the header the field? -/
def contains (header : Header) (field : String) : Bool :=
  (header.position? field).isSome

/-- The number of fields. -/
def size (header : Header) : Nat :=
  header.fields.length

end Header

end BenchBoard
