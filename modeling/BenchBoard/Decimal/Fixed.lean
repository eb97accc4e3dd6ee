import BenchBoard.Decimal.Layout
/-!
# BenchBoard.Decimal.Fixed

**A fixed number of places.** The exact value of the number, not its shortest decimal, is
rounded to the given number of places, and a value in the middle goes to the even
neighbour. So `0.125` to two places is `0.12`, and a number that is stored a little below
its decimal is rounded from where it is stored.

A negative number keeps its sign when it is rounded to zero, and so does negative zero.
-/

namespace BenchBoard.Decimal

/-- The integer nearest to `num / den`, of two equally near the even one. -/
def roundEven (num den : Nat) : Nat :=
  let low := num / den
  match compare (2 * (num % den)) den with
  | .lt => low
  | .gt => low + 1
  | .eq => if low % 2 = 0 then low else low + 1

/-- The rounded quotient is within half a unit of the exact one. -/
theorem roundEven_near (num : Nat) {den : Nat} (h : 0 < den) :
    2 * (roundEven num den * den) ≤ 2 * num + den ∧
      2 * num ≤ 2 * (roundEven num den * den) + den := by
  have split_num : den * (num / den) + num % den = num := Nat.div_add_mod num den
  have small : num % den < den := Nat.mod_lt _ h
  have next : (num / den + 1) * den = den * (num / den) + den := by
    rw [Nat.add_mul, Nat.one_mul, Nat.mul_comm]
  have same : num / den * den = den * (num / den) := Nat.mul_comm ..
  unfold roundEven
  generalize num / den = low at *
  generalize num % den = left at *
  generalize den * low = below at *
  dsimp only
  split
  · rename_i hc; rw [Nat.compare_eq_lt] at hc; omega
  · rename_i hc; rw [Nat.compare_eq_gt] at hc; omega
  · rename_i hc; rw [Nat.compare_eq_eq] at hc; split <;> omega

/-- A value in the middle of two integers goes to the even one. -/
theorem roundEven_even_of_tie {num den : Nat} (h : 2 * (num % den) = den) :
    roundEven num den % 2 = 0 := by
  have hc : compare (2 * (num % den)) den = .eq := by rw [Nat.compare_eq_eq]; exact h
  simp only [roundEven, hc]
  split <;> omega

/-- The digits with at least `width` of them, zeros in front. -/
def padZeros (width : Nat) (digits : List Char) : List Char :=
  List.replicate (width - digits.length) '0' ++ digits

/-- The magnitude rounded to `places` places. -/
def layFixed (places : Nat) (x : Binary) : List Char :=
  let (num, den) := x.scaled (-(places : Int))
  let digits := padZeros (places + 1) (digitsOf (roundEven num den))
  let whole := digits.length - places
  if places = 0 then digits else digits.take whole ++ '.' :: digits.drop whole

/-- The text of a number with `places` places. -/
def fixed (places : Nat) (x : Float) : String :=
  if x.isFinite then
    let magnitude := layFixed places (Binary.ofFloat x)
    String.ofList (if isNegative x then '-' :: magnitude else magnitude)
  else nonFinite x

end BenchBoard.Decimal
