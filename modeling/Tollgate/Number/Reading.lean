import Tollgate.Number.Dyadic

/-!
Reading decimal texts as doubles, rounded to the nearest one.
-/

namespace Tollgate

/-- The value of a list of digits in the given base; other characters count as
zero. -/
def digitsValue (base : Nat) (digits : List Char) : Nat :=
  digits.foldl (fun n c => n * base + (hexValue c).getD 0) 0
where
  hexValue (c : Char) : Option Nat :=
    if '0' ≤ c && c ≤ '9' then some (c.toNat - '0'.toNat)
    else if 'a' ≤ c && c ≤ 'f' then some (c.toNat - 'a'.toNat + 10)
    else if 'A' ≤ c && c ≤ 'F' then some (c.toNat - 'A'.toNat + 10)
    else none

def positiveInfinity : Float := 1.0 / 0.0

/-- The double nearest to `± coefficient * 10 ^ exponent`. Values from `10 ^ 309`
on are infinite, those below `10 ^ (-330)` are zero. -/
def decimalFloat (negative : Bool) (coefficient : Nat) (exponent : Int) :
    Float :=
  let magnitude := Int.ofNat (Nat.toDigits 10 coefficient).length + exponent
  let size : Float :=
    if coefficient = 0 || magnitude < -330 then 0
    else if 310 < magnitude then positiveInfinity
    else if 0 ≤ exponent then
      Float.ofScientific (coefficient * Nat.pow 10 exponent.toNat) false 0
    else Float.ofScientific coefficient true (-exponent).toNat
  if negative then -size else size

end Tollgate
