/-!
Doubles as exact numbers. A finite double is a sign, a whole significand and a
power of two, so every question about its value (the nearest whole number, the
next whole number above, a decimal text) is one about natural numbers.
-/

namespace Tollgate

/-- A double taken apart; a finite one is `± significand * 2 ^ exponent`. -/
inductive Dyadic where
  | nan
  | infinite (negative : Bool)
  | finite (negative : Bool) (significand : Nat) (exponent : Int)
deriving DecidableEq

namespace Dyadic

/-- The binary64 fields: one sign bit, eleven exponent bits with bias 1023, and
fifty-two fraction bits below an implied leading one. -/
def ofBits (bits : Nat) : Dyadic :=
  let negative := bits / Nat.pow 2 63 % 2 == 1
  let biased := bits / Nat.pow 2 52 % Nat.pow 2 11
  let fraction := bits % Nat.pow 2 52
  if biased = 2047 then
    if fraction = 0 then .infinite negative else .nan
  else if biased = 0 then
    .finite negative fraction (-1074)
  else
    .finite negative (Nat.pow 2 52 + fraction) (Int.ofNat biased - 1075)

def ofFloat (x : Float) : Dyadic :=
  ofBits x.toBits.toNat

end Dyadic

def divHalfUp (num den : Nat) : Nat :=
  (2 * num + den) / (2 * den)

def divHalfEven (num den : Nat) : Nat :=
  let low := num / den
  let rest := num % den
  if 2 * rest < den then low
  else if den < 2 * rest then low + 1
  else if low % 2 = 0 then low else low + 1

def divCeil (num den : Nat) : Nat :=
  (num + den - 1) / den

def dyadicQuotient (significand : Nat) (exponent : Int) : Nat × Nat :=
  if 0 ≤ exponent then (significand * Nat.pow 2 exponent.toNat, 1)
  else (significand, Nat.pow 2 (-exponent).toNat)

end Tollgate
