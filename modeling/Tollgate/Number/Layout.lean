import Tollgate.Number.Shortest

/-!
Texts of doubles. One record says how a style lays digits out; the digits are
always the shortest that read back. A second family writes a fixed number of
places, rounded from the exact value.
-/

namespace Tollgate

structure FloatStyle where
  /-- Positional notation is used for a magnitude (number of digits before the
  point) in this range, exponents outside it. -/
  positional : Int → Bool
  /-- A whole number keeps `.0` at its end. -/
  keepPoint : Bool
  exponentMark : String
  tie : TieRule

/-- Plain texts, as in messages: never an exponent, no point in whole numbers. -/
def FloatStyle.plain : FloatStyle where
  positional := fun _ => true
  keepPoint := false
  exponentMark := "e"
  tie := .up

/-- Texts of log lines: `50.0`, with an exponent below `1e-4` and from `1e16`. -/
def FloatStyle.logged : FloatStyle where
  positional := fun magnitude => -4 < magnitude && magnitude ≤ 16
  keepPoint := true
  exponentMark := "e"
  tie := .up

/-- Texts of JSON numbers: `5.0`, with an exponent below `1e-5` and from `1e16`. -/
def FloatStyle.json : FloatStyle where
  positional := fun magnitude => -5 < magnitude && magnitude ≤ 16
  keepPoint := true
  exponentMark := "e+"
  tie := .even

def zeros (count : Nat) : List Char :=
  List.replicate count '0'

def positionalText (keepPoint : Bool) (digits : List Char) (magnitude : Int) :
    List Char :=
  let count := Int.ofNat digits.length
  if count ≤ magnitude then
    digits ++ zeros (magnitude - count).toNat ++
      (if keepPoint then ['.', '0'] else [])
  else if 0 < magnitude then
    digits.take magnitude.toNat ++ '.' :: digits.drop magnitude.toNat
  else
    '0' :: '.' :: zeros (-magnitude).toNat ++ digits

def exponentText (mark : String) (digits : List Char) (magnitude : Int) :
    List Char :=
  let power := magnitude - 1
  let exponent :=
    if 0 ≤ power then mark.toList ++ Nat.toDigits 10 power.toNat
    else 'e' :: '-' :: Nat.toDigits 10 (-power).toNat
  match digits with
  | [] => exponent
  | [d] => d :: exponent
  | d :: rest => d :: '.' :: rest ++ exponent

def FloatStyle.layout (style : FloatStyle) (d : Decimal) : List Char :=
  let magnitude := Int.ofNat d.digits.length + d.exponent
  if style.positional magnitude then
    positionalText style.keepPoint d.digits magnitude
  else exponentText style.exponentMark d.digits magnitude

def signed (negative : Bool) (text : List Char) : String :=
  String.ofList (if negative then '-' :: text else text)

def FloatStyle.render (style : FloatStyle) (x : Float) : String :=
  match Dyadic.ofFloat x with
  | .nan => "NaN"
  | .infinite negative => signed negative ['i', 'n', 'f']
  | .finite negative 0 _ =>
      signed negative (if style.keepPoint then ['0', '.', '0'] else ['0'])
  | .finite negative significand exponent =>
      signed negative
        (style.layout (shortestDecimal style.tie significand exponent))

def fixedText (places : Nat) (scaled : Nat) : List Char :=
  let digits := Nat.toDigits 10 scaled
  let padded := zeros (places + 1 - digits.length) ++ digits
  let whole := padded.length - places
  padded.take whole ++ (if places = 0 then [] else '.' :: padded.drop whole)

/-- A double with `places` decimals, rounded from its exact value, a half to
the even neighbour. The sign is written also of a value that rounds to zero. -/
def renderFixed (places : Nat) (x : Float) : String :=
  match Dyadic.ofFloat x with
  | .nan => "NaN"
  | .infinite negative => signed negative ['i', 'n', 'f']
  | .finite negative significand exponent =>
      let (num, den) := dyadicQuotient significand exponent
      signed negative (fixedText places (divHalfEven (num * Nat.pow 10 places) den))

end Tollgate
