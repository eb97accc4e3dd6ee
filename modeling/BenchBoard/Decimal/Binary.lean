/-!
# BenchBoard.Decimal.Binary

**The exact value of a binary number.** A finite `Float` stands for an integer times a
power of two. This module takes it apart and compares such a value with a decimal, in
exact arithmetic on natural numbers: no operation on floats takes part.

Design points:

* `Binary` is the magnitude alone. The sign is asked for separately, so that negative zero
  keeps it.
* The reals that round to a value form an interval around it. Its lower half is narrower
  where the value is a power of two, because the neighbour below is half as far away.
  The ends belong to the interval exactly when the mantissa is even (`readsBack`).
-/

namespace BenchBoard.Decimal

/-- The magnitude of a finite number, `mantissa * 2 ^ exponent`. -/
structure Binary where
  mantissa : Nat
  exponent : Int
  /-- The gap to the value below is half the gap to the value above. -/
  narrowBelow : Bool
  deriving DecidableEq, Repr

/-- Is the sign bit set? Negative zero has it. -/
def isNegative (x : Float) : Bool :=
  x.toBits.toNat.testBit 63

namespace Binary

/-- The place above the fraction of a bit pattern, `2 ^ 52`. -/
def hiddenBit : Nat := 0x10000000000000

/-- The magnitude that a bit pattern stands for, when it stands for a finite number. -/
def ofBits (bits : UInt64) : Binary :=
  let fraction : Nat := bits.toNat % hiddenBit
  let biased : Nat := bits.toNat / hiddenBit % 0x800
  if biased = 0 then ⟨fraction, -1074, false⟩
  else ⟨hiddenBit + fraction, (biased : Int) - 1075, fraction == 0 && 1 < biased⟩

/-- The magnitude of a finite number. -/
def ofFloat (x : Float) : Binary :=
  ofBits x.toBits

end Binary

/-- A decimal numeral, `digits * 10 ^ exponent`. -/
structure Numeral where
  digits : Nat
  exponent : Int
  deriving DecidableEq, Repr

/-- Compares `a * 10 ^ i` with `b * 2 ^ j`. -/
def compareScaled (a : Nat) (i : Int) (b : Nat) (j : Int) : Ordering :=
  compare (a * Nat.pow 10 i.toNat * Nat.pow 2 (-j).toNat)
    (b * Nat.pow 2 j.toNat * Nat.pow 10 (-i).toNat)

/-- Does the decimal lie among the reals that round to `x`, to nearest with ties to even?
The ends of that interval are counted in quarters of the last binary place. -/
def Binary.readsBack (x : Binary) (d : Numeral) : Bool :=
  let lower := if x.narrowBelow then 4 * x.mantissa - 1 else 4 * x.mantissa - 2
  let upper := 4 * x.mantissa + 2
  let closed := x.mantissa % 2 == 0
  let fromBelow := compareScaled d.digits d.exponent lower (x.exponent - 2)
  let fromAbove := compareScaled d.digits d.exponent upper (x.exponent - 2)
  (fromBelow == .gt || (closed && fromBelow == .eq)) &&
    (fromAbove == .lt || (closed && fromAbove == .eq))

end BenchBoard.Decimal
