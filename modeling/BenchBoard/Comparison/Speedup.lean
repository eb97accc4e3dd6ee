import BenchBoard.Text.Blank
import BenchBoard.Decimal.Reading
/-!
# BenchBoard.Comparison.Speedup

**One speedup.** The speedup of an entry against a baseline is the ratio of two values that
are given as texts. Whatever is wrong with them concerns this one cell only, so a speedup
is a number or the reason why there is none.

Design points:

* Blanks around a value are ignored, and a value of blanks is a missing one.
* The baseline is looked at first: if both operands are unusable, its fault is reported.
* Zero is refused as either operand. A zero baseline would make every speedup zero, and a
  zero entry would make it infinite.
* A ratio of two usable operands can still overflow or underflow. Then the cell is out of
  range, for the ratio as well as for its inverse.
-/

namespace BenchBoard

open BenchBoard.Text

/-- Why a speedup cannot be computed. -/
inductive SpeedupError
  /-- An operand is zero. -/
  | divisionByZero
  /-- An operand is absent or blank. -/
  | missingValue
  /-- An operand is no finite number; this is its text without the blanks around it. -/
  | invalidNumber (text : String)
  /-- The ratio is infinite or zero. -/
  | outOfRange
  deriving DecidableEq, Repr

def SpeedupError.message : SpeedupError → String
  | divisionByZero => "division by zero"
  | missingValue => "missing value"
  | invalidNumber text => s!"invalid number '{text}'"
  | outOfRange => "speedup out of range"

/-- The finite number other than zero that a value stands for. -/
def operand (value : Option String) : Except SpeedupError Float :=
  let text := trim (value.getD "")
  if text.isEmpty then .error .missingValue
  else
    match Decimal.read? text with
    | none => .error (.invalidNumber text)
    | some x =>
        if !x.isFinite then .error (.invalidNumber text)
        else if x == 0.0 then .error .divisionByZero
        else .ok x

/-- The ratio of two operands, or its inverse. -/
def ratio (reciprocal : Bool) (baseline entry : Float) : Except SpeedupError Float :=
  let quotient := baseline / entry
  if !quotient.isFinite || quotient == 0.0 then .error .outOfRange
  else .ok (if reciprocal then 1.0 / quotient else quotient)

/-- The speedup of an entry's value against the baseline's. -/
def speedup (baseline entry : Option String) (reciprocal : Bool) :
    Except SpeedupError Float :=
  match operand baseline with
  | .error e => .error e
  | .ok b =>
    match operand entry with
    | .error e => .error e
    | .ok x => ratio reciprocal b x

end BenchBoard
