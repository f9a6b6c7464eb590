import Tollgate.Number.Dyadic

/-!
The shortest decimal that reads back as a given double. Every real between the
midpoints to the two neighbouring doubles rounds to it (the midpoints too when
the significand is even), and of the decimal grids `10 ^ p`, from coarse to
fine, the first with a point in that interval gives the digits.
-/

namespace Tollgate

structure Decimal where
  coefficient : Nat
  exponent : Int
deriving DecidableEq

inductive TieRule where
  | up
  | even
deriving DecidableEq

namespace Decimal

def digits (d : Decimal) : List Char :=
  Nat.toDigits 10 d.coefficient

def trimZeros : Nat → Decimal → Decimal
  | 0, d => d
  | fuel + 1, d =>
      if d.coefficient ≠ 0 ∧ d.coefficient % 10 = 0 then
        trimZeros fuel ⟨d.coefficient / 10, d.exponent + 1⟩
      else d

end Decimal

/-- The reals that round to `significand * 2 ^ exponent`, in quarters of its
last place. Below a power of two the gap is half as wide. -/
structure RoundingInterval where
  low : Nat
  value : Nat
  high : Nat
  closed : Bool

def RoundingInterval.ofDyadic (significand : Nat) (exponent : Int) :
    RoundingInterval where
  low := if significand = Nat.pow 2 52 ∧ exponent ≠ -1074 then 4 * significand - 1
    else 4 * significand - 2
  value := 4 * significand
  high := 4 * significand + 2
  closed := significand % 2 = 0

def RoundingInterval.holds (i : RoundingInterval) (num den candidate : Nat) :
    Bool :=
  let point := candidate * den
  if i.closed then i.low * num ≤ point && point ≤ i.high * num
  else i.low * num < point && point < i.high * num

/-- A quarter of the last place, `2 ^ (exponent - 2)`, in units of the grid
`10 ^ p`, as a quotient. -/
def gridQuotient (exponent p : Int) : Nat × Nat :=
  (Nat.pow 2 (exponent - 2).toNat * Nat.pow 10 (-p).toNat,
    Nat.pow 2 (2 - exponent).toNat * Nat.pow 10 p.toNat)

/-- The grid point of `10 ^ p` that is nearest to the value among those in the
interval. Only the two neighbours of the value can be it. -/
def RoundingInterval.onGrid (i : RoundingInterval) (tie : TieRule)
    (exponent p : Int) : Option Decimal :=
  let (num, den) := gridQuotient exponent p
  let below := i.value * num / den
  let above := below + 1
  match i.holds num den below && below != 0, i.holds num den above with
  | false, false => none
  | true, false => some ⟨below, p⟩
  | false, true => some ⟨above, p⟩
  | true, true =>
      let twice := 2 * (i.value * num)
      let middle := (below + above) * den
      if twice < middle then some ⟨below, p⟩
      else if middle < twice then some ⟨above, p⟩
      else match tie with
        | .up => some ⟨above, p⟩
        | .even => some ⟨if below % 2 = 0 then below else above, p⟩

/-- The number of digits before the decimal point of a positive value; zero or
negative for a value below one. Every double is above `10 ^ (-400)`. -/
def decimalMagnitude (significand : Nat) (exponent : Int) : Int :=
  let (num, den) := dyadicQuotient significand exponent
  Int.ofNat (Nat.toDigits 10 (num * Nat.pow 10 400 / den)).length - 400

/-- The shortest decimal of a positive finite double. Seventeen digits always
suffice. -/
def shortestDecimal (tie : TieRule) (significand : Nat) (exponent : Int) :
    Decimal :=
  let interval := RoundingInterval.ofDyadic significand exponent
  let magnitude := decimalMagnitude significand exponent
  let found := (List.range 17).findSome? fun n =>
    interval.onGrid tie exponent (magnitude - Int.ofNat (n + 1))
  (found.getD ⟨significand, 0⟩).trimZeros 20

end Tollgate
