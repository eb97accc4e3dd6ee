import BenchBoard.Decimal.Binary
/-!
# BenchBoard.Decimal.Shortest

**The fewest digits that read back.** The shortest decimal of a number is the one with the
fewest digits among all that round to it, and of those the nearest.

Design points:

* For 1, 2, … 17 digits the two neighbours of the value on the decimal grid of that many
  digits are tested with `Binary.readsBack`. The first grid with a hit wins: if any point
  of a grid rounds to the value, one of its two neighbours does.
* Of two hits on one grid the nearer is taken. Both can be equally near, and then the
  caller's rule (`Tie`) decides.
* Seventeen digits always suffice. Should no grid hit, the answer is the exact value,
  never a guess.
-/

namespace BenchBoard.Decimal

/-- Which of two equally near decimals is taken. -/
inductive Tie
  /-- The one with the even last digit. -/
  | toEven
  /-- The larger one. -/
  | upward
  deriving DecidableEq, Repr

namespace Binary

/-- Is the value less than `10 ^ k`? -/
def isBelow (x : Binary) (k : Int) : Bool :=
  compareScaled 1 k x.mantissa x.exponent == .gt

/-- The least `k` with the value less than `10 ^ k`: an estimate from the binary logarithm,
which is at most two too small, put right by exact comparison. -/
def scale (x : Binary) : Int :=
  let estimate := ((x.mantissa.log2 : Int) + x.exponent) * 30103 / 100000
  if x.isBelow estimate then estimate
  else if x.isBelow (estimate + 1) then estimate + 1
  else estimate + 2

/-- The value divided by `10 ^ g`, as a numerator and a denominator. -/
def scaled (x : Binary) (g : Int) : Nat × Nat :=
  (x.mantissa * Nat.pow 2 x.exponent.toNat * Nat.pow 10 (-g).toNat,
    Nat.pow 2 (-x.exponent).toNat * Nat.pow 10 g.toNat)

/-- The neighbour of the value on the grid of the multiples of `10 ^ g` that reads back, the
nearer one if both do. -/
def onGrid (tie : Tie) (x : Binary) (g : Int) : Option Numeral :=
  let (num, den) := x.scaled g
  let low := num / den
  match x.readsBack ⟨low, g⟩, x.readsBack ⟨low + 1, g⟩ with
  | false, false => none
  | true, false => some ⟨low, g⟩
  | false, true => some ⟨low + 1, g⟩
  | true, true =>
    match compare (2 * num) ((2 * low + 1) * den), tie with
    | .lt, _ => some ⟨low, g⟩
    | .gt, _ => some ⟨low + 1, g⟩
    | .eq, .upward => some ⟨low + 1, g⟩
    | .eq, .toEven => some ⟨if low % 2 = 0 then low else low + 1, g⟩

/-- The exact value as a decimal. -/
def exactNumeral (x : Binary) : Numeral :=
  ⟨x.mantissa * Nat.pow 2 x.exponent.toNat * Nat.pow 5 (-x.exponent).toNat, min x.exponent 0⟩

end Binary

/-- Moves up to `count` zeros at the end of the digits into the exponent. -/
def Numeral.strip : Nat → Numeral → Numeral
  | 0, d => d
  | count + 1, d =>
      if d.digits ≠ 0 ∧ d.digits % 10 = 0 then
        strip count ⟨d.digits / 10, d.exponent + 1⟩
      else d

/-- The numbers of digits that are tried, fewest first. -/
def digitCounts : List Nat :=
  [1, 2, 3, 4, 5, 6, 7, 8, 9, 10, 11, 12, 13, 14, 15, 16, 17]

/-- The shortest decimal that rounds to the value. Zero is `0`. -/
def shortest (tie : Tie) (x : Binary) : Numeral :=
  if x.mantissa = 0 then ⟨0, 0⟩
  else
    let k := x.scale
    match digitCounts.findSome? fun (n : Nat) => x.onGrid tie (k - (n : Int)) with
    | some d => d.strip 18
    | none => x.exactNumeral

end BenchBoard.Decimal
