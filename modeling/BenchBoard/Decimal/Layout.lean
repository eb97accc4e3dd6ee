import BenchBoard.Decimal.Shortest
/-!
# BenchBoard.Decimal.Layout

**Writing the chosen digits.** Which digits a number has is decided in
`BenchBoard.Decimal.Shortest`; how they are laid out is decided here, by one record that
the module which writes the number fills in.

Two layouts exist. The *positional* one sets a point among the digits and fills up with
zeros. The *exponent* one sets the point after the first digit and names the power of ten
with its sign. The *exact* form of a number is always positional, so that every
spreadsheet reads it.
-/

namespace BenchBoard.Decimal

/-- How a number is laid out. -/
structure Style where
  /-- Is a number positional whose first digit stands for this power of ten? -/
  positional : Int → Bool
  /-- Has a whole number in positional layout a fraction of one zero? -/
  wholeFraction : Bool
  /-- Which of two equally near decimals is chosen. -/
  tie : Tie

/-- The decimal digits of a natural number. -/
def digitsOf (n : Nat) : List Char :=
  Nat.toDigits 10 n

/-- The digits with a point and as many zeros as their place needs. -/
def layPositional (wholeFraction : Bool) (digits : List Char) (exponent : Int) :
    List Char :=
  match exponent with
  | .ofNat zeros =>
      digits ++ List.replicate zeros '0' ++ (if wholeFraction then ['.', '0'] else [])
  | .negSucc n =>
      let places := n + 1
      if places < digits.length then
        let whole := digits.length - places
        digits.take whole ++ '.' :: digits.drop whole
      else '0' :: '.' :: List.replicate (places - digits.length) '0' ++ digits

/-- The digits with a point after the first, and the power of ten of that first digit. -/
def layExponent (digits : List Char) (leading : Int) : List Char :=
  let mantissa :=
    match digits with
    | [] => []
    | [d] => [d]
    | d :: ds => d :: '.' :: ds
  mantissa ++ 'e' :: (if leading < 0 then '-' else '+') :: digitsOf leading.natAbs

/-- The text of a decimal. -/
def Style.lay (style : Style) (d : Numeral) : List Char :=
  let digits := digitsOf d.digits
  let leading := d.exponent + (digits.length : Int) - 1
  if style.positional leading then layPositional style.wholeFraction digits d.exponent
  else layExponent digits leading

/-- The text of a finite number, with the sign of negative zero. -/
def Style.finite (style : Style) (x : Float) : String :=
  let magnitude := style.lay (shortest style.tie (Binary.ofFloat x))
  String.ofList (if isNegative x then '-' :: magnitude else magnitude)

/-! ### The exact form -/

def nonFinite (x : Float) : String :=
  if x.isNaN then "NaN" else if isNegative x then "-inf" else "inf"

/-- A number is written out in full, however large or small it is; a whole number has no
point. -/
def exactStyle : Style where
  positional := fun _ => true
  wholeFraction := false
  tie := .upward

/-- The text of a number with as many digits as it takes to read it back. -/
def exact (x : Float) : String :=
  if x.isFinite then exactStyle.finite x else nonFinite x

end BenchBoard.Decimal
