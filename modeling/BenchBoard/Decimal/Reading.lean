/-!
# BenchBoard.Decimal.Reading

**Reading a number.** A number is an optional sign and then either one of the words `inf`,
`infinity` and `nan`, in any letter case, or decimal digits with at most one point among
them and at least one digit in all, followed or not by `e` or `E` and a signed power of
ten. Only ASCII digits count, and nothing may stand around the number.

Design points:

* The digits are read as one natural number and a power of ten, exactly; the one rounding,
  to nearest with ties to even, is that of `Float.ofScientific`.
* A power of ten far outside the range of a `Float` is decided before it is computed: the
  value is infinite or zero whatever its digits are, and no huge number is built.
-/

namespace BenchBoard.Decimal

/-- Is the character one of the ten ASCII digits? -/
def isDigit (c : Char) : Bool :=
  '0' ≤ c && c ≤ '9'

/-- The natural number that the digits spell, continuing from `value`. -/
def digitsValue (value : Nat) (digits : List Char) : Nat :=
  digits.foldl (fun n c => 10 * n + (c.toNat - '0'.toNat)) value

/-- The number `digits * 10 ^ power`, rounded once. Beyond three hundred and ten decimal
places every number is infinite, and below three hundred and thirty it is zero. -/
def ofScaled (digits : Nat) (power : Int) : Float :=
  if digits = 0 then 0.0
  else
    let leading := ((digits.log2 : Int) * 30103 / 100000) + power
    if 310 < leading then 1.0 / 0.0
    else if leading < -330 then 0.0
    else Float.ofScientific digits (power < 0) power.natAbs

/-- Splits a sign off; `true` is the minus sign. -/
def splitSign : List Char → Bool × List Char
  | '-' :: cs => (true, cs)
  | '+' :: cs => (false, cs)
  | cs => (false, cs)

/-- The power of ten that an exponent part stands for. An empty one is the power 0. -/
def readPower? : List Char → Option Int
  | [] => some 0
  | c :: cs =>
      if c = 'e' ∨ c = 'E' then
        let (negative, digits) := splitSign cs
        if digits.isEmpty ∨ !digits.all isDigit then none
        else
          let n : Int := digitsValue 0 digits
          some (if negative then -n else n)
      else none

/-- The fraction digits after a point, and what follows them. Without a point there are
none. -/
def splitFraction : List Char → List Char × List Char
  | '.' :: cs => (cs.takeWhile isDigit, cs.dropWhile isDigit)
  | cs => ([], cs)

/-- A magnitude that is written in digits. -/
def readDigits? (cs : List Char) : Option Float :=
  let whole := cs.takeWhile isDigit
  let (fraction, rest) := splitFraction (cs.dropWhile isDigit)
  if whole.isEmpty ∧ fraction.isEmpty then none
  else
    (readPower? rest).map fun power =>
      ofScaled (digitsValue (digitsValue 0 whole) fraction) (power - fraction.length)

/-- A magnitude that is written as a word. -/
def readWord? (cs : List Char) : Option Float :=
  let word := String.ofList (cs.map Char.toLower)
  if word = "inf" ∨ word = "infinity" then some (1.0 / 0.0)
  else if word = "nan" then some (0.0 / 0.0)
  else none

/-- The number that the characters spell. -/
def readChars? (cs : List Char) : Option Float :=
  let (negative, magnitude) := splitSign cs
  ((readWord? magnitude).or (readDigits? magnitude)).map fun x =>
    if negative then -x else x

/-- The number that the text spells. -/
def read? (text : String) : Option Float :=
  readChars? text.toList

/-! ### Natural numbers -/

/-- The natural number below `2 ^ 64` that the text spells: digits only, with a plus sign in
front or not. -/
def readCount? (text : String) : Option Nat :=
  let digits := match text.toList with
    | '+' :: cs => cs
    | cs => cs
  if digits.isEmpty ∨ !digits.all isDigit then none
  else
    let n := digitsValue 0 digits
    if n < UInt64.size then some n else none

end BenchBoard.Decimal
