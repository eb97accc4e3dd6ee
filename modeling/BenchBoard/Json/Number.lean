import BenchBoard.Json.Value
import BenchBoard.Decimal.Layout
import BenchBoard.Decimal.Reading
/-!
# BenchBoard.Json.Number

**Numbers inside JSON text.** Natural numbers are exact. Floats are written with the fewest
digits that read back; a float that is not finite has no JSON form and is written as
`null`.

Reading a float is cheaper than exact, and therefore not an inverse of writing it. The
digits are gathered into one whole number as long as it fits into 64 bits. That number
is rounded to a float first and multiplied or divided by a power of ten after that, so the
result can differ from the nearest float in its last place.
-/

namespace BenchBoard.Json

open BenchBoard.Decimal

/-! ### Writing -/

/-- Positional from five zeros after the point up to sixteen digits in front of it, with at
least one fraction digit; powers of ten otherwise. -/
def floatStyle : Style where
  positional := fun leading => -5 ≤ leading && leading ≤ 15
  wholeFraction := true
  tie := .toEven

/-- The JSON form of a float. -/
def Value.float (x : Float) : Value :=
  if x.isFinite then .number (floatStyle.finite x).toList else .null

/-- The JSON form of a float or of its absence. -/
def Value.optionalFloat : Option Float → Value
  | none => .null
  | some x => .float x

/-! ### Reading natural numbers -/

/-- The natural number below `2 ^ 64` that a literal spells. A sign, a fraction or a power
of ten makes it none, whatever its value is. -/
def countOfLiteral? (literal : List Char) : Option Nat :=
  if literal.all isDigit then
    let n := digitsValue 0 literal
    if n < UInt64.size then some n else none
  else none

/-! ### Reading floats -/

/-- Appends digits to a number as long as it fits into 64 bits; gives the number and how
many digits it took. -/
def gather (value : Nat) : List Char → Nat × Nat
  | [] => (value, 0)
  | d :: ds =>
      let next := 10 * value + (d.toNat - '0'.toNat)
      if next < UInt64.size then
        let (value, taken) := gather next ds
        (value, taken + 1)
      else (value, 0)

/-- Ten to a power of at most 308. -/
def powerOfTen (n : Nat) : Float :=
  Float.ofScientific 1 false n

/-- The float times ten to the power; `none` if the result is out of range. Below the range
it is zero. -/
def scaleFloat (x : Float) (power : Int) : Option Float :=
  match power with
  | .ofNat n =>
      if n ≤ 308 then
        let scaled := x * powerOfTen n
        if scaled.isInf then none else some scaled
      else if x == 0.0 then some x
      else none
  | .negSucc m =>
      let n := m + 1
      if n ≤ 308 then some (x / powerOfTen n)
      else if n ≤ 616 then some (x / powerOfTen 308 / powerOfTen (n - 308))
      else some 0.0

/-- The float that the magnitude of a literal spells. -/
def floatOfMagnitude? (cs : List Char) : Option Float :=
  let whole := cs.takeWhile isDigit
  let (fraction, rest) := splitFraction (cs.dropWhile isDigit)
  let (value, wholeTaken) := gather 0 whole
  let (value, fractionTaken) := gather value fraction
  let power : Int := (whole.length : Int) - wholeTaken - fractionTaken
  match readPower? rest with
  | none => none
  | some written => scaleFloat value.toUInt64.toFloat (power + written)

/-- The float that a literal spells; `none` if it is out of range. -/
def floatOfLiteral? : List Char → Option Float
  | '-' :: cs => (floatOfMagnitude? cs).map (-·)
  | cs => floatOfMagnitude? cs

end BenchBoard.Json
