import Tollgate.Number.Dyadic

/-!
Money in the spend store: whole micro-units of the currency, in signed 64-bit
words whose arithmetic saturates at the ends of the range.
-/

namespace Tollgate.Micros

def least : Int := -9223372036854775808

def greatest : Int := 9223372036854775807

def saturate (n : Int) : Int :=
  if n < least then least else if greatest < n then greatest else n

def add (a b : Int) : Int := saturate (a + b)

def sub (a b : Int) : Int := saturate (a - b)

/-- `x` rounded to a whole number, a half away from zero. -/
def round (x : Dyadic) : Int :=
  match x with
  | .nan => 0
  | .infinite true => least
  | .infinite false => greatest
  | .finite negative significand exponent =>
      let (num, den) := dyadicQuotient significand exponent
      let size := Int.ofNat (divHalfUp num den)
      saturate (if negative then -size else size)

/-- A currency amount in micro-units. The product is rounded to a double first. -/
def ofAmount (amount : Float) : Int :=
  round (Dyadic.ofFloat (amount * 1000000.0))

/-- The currency amount of so many micro-units, rounded to a double twice: as a
whole number, and as a quotient. -/
def toAmount (micros : Int) : Float :=
  Float.ofInt micros / 1000000.0

/-! Every word stays in range, and a value in range is kept. -/

theorem least_le_greatest : least ≤ greatest := by decide

theorem saturate_of_mem {n : Int} (low : least ≤ n) (high : n ≤ greatest) :
    saturate n = n := by
  unfold saturate
  rw [if_neg (by omega), if_neg (by omega)]

theorem least_le_saturate (n : Int) : least ≤ saturate n := by
  have ends := least_le_greatest
  unfold saturate
  split
  · exact Int.le_refl _
  · split
    · exact ends
    · omega

theorem saturate_le_greatest (n : Int) : saturate n ≤ greatest := by
  have ends := least_le_greatest
  unfold saturate
  split
  · exact ends
  · split
    · exact Int.le_refl _
    · omega

end Tollgate.Micros
