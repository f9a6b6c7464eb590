import Tollgate.Number.Reading

/-!
Percent signs in URLs: a percent sign and two hex digits stand for one byte.
-/

namespace Tollgate.Percent

def byteOfHex? (high low : UInt8) : Option UInt8 :=
  match hexDigit? high, hexDigit? low with
  | some h, some l => some (UInt8.ofNat (h * 16 + l))
  | _, _ => none
where
  hexDigit? (b : UInt8) : Option Nat :=
    digitsValue.hexValue (Char.ofNat b.toNat)

/-- The bytes that are meant. A percent sign without two hex digits after it
stands for itself. -/
def decode : List UInt8 → List UInt8
  | 0x25 :: high :: low :: rest =>
      match byteOfHex? high low with
      | some byte => byte :: decode rest
      | none => 0x25 :: decode (high :: low :: rest)
  | byte :: rest => byte :: decode rest
  | [] => []

def decodeText? (text : String) : Option String :=
  String.fromUTF8? ⟨(decode text.toUTF8.toList).toArray⟩

def upperHexDigit (n : Nat) : Char :=
  if n < 10 then Char.ofNat ('0'.toNat + n) else Char.ofNat ('A'.toNat + n - 10)

def encodeByte (byte : UInt8) : List Char :=
  ['%', upperHexDigit (byte.toNat / 16), upperHexDigit (byte.toNat % 16)]

/-- Writes the characters that are not `kept` as the bytes of their UTF-8. -/
def encode (kept : Char → Bool) (text : List Char) : List Char :=
  text.flatMap fun c =>
    if kept c then [c]
    else c.toString.toUTF8.toList.flatMap encodeByte

end Tollgate.Percent
