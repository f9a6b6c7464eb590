import Tollgate.Json.Value
import Tollgate.Number.Reading

/-!
Reading JSON texts. Members of objects come out in ascending order of their
names, and of equal names the last one counts. Whole numbers of 64 bits stay
whole; every other number is a double, and must be finite.
-/

namespace Tollgate.Json

abbrev Read (α : Type) := List Char → Option (α × List Char)

def isSpace (c : Char) : Bool :=
  c == ' ' || c == '\n' || c == '\t' || c == '\r'

def skipSpace (text : List Char) : List Char :=
  text.dropWhile isSpace

def isDigit (c : Char) : Bool :=
  '0' ≤ c && c ≤ '9'

/-! Numbers -/

def wholePart : Read (List Char)
  | '0' :: rest =>
      match rest with
      | c :: _ => if isDigit c then none else some (['0'], rest)
      | [] => some (['0'], rest)
  | text =>
      match text.takeWhile isDigit with
      | [] => none
      | digits => some (digits, text.dropWhile isDigit)

def fractionPart : Read (Option (List Char))
  | '.' :: rest =>
      match rest.takeWhile isDigit with
      | [] => none
      | digits => some (some digits, rest.dropWhile isDigit)
  | text => some (none, text)

def exponentSign : List Char → Bool × List Char
  | '-' :: rest => (true, rest)
  | '+' :: rest => (false, rest)
  | text => (false, text)

def exponentPart : Read (Option Int)
  | c :: rest =>
      if c = 'e' || c = 'E' then
        let (negative, rest) := exponentSign rest
        match rest.takeWhile isDigit with
        | [] => none
        | digits =>
            let power := Int.ofNat (digitsValue 10 digits)
            some (some (if negative then -power else power),
              rest.dropWhile isDigit)
      else some (none, c :: rest)
  | [] => some (none, [])

def numberOf (negative : Bool) (whole : List Char)
    (fraction : Option (List Char)) (power : Option Int) : Option Json :=
  let double (coefficient : Nat) (exponent : Int) : Option Json :=
    let x := decimalFloat negative coefficient exponent
    if x.isFinite then some (.float x) else none
  match fraction, power with
  | none, none =>
      let size := digitsValue 10 whole
      if negative then
        if size = 0 || 9223372036854775808 < size then double size 0
        else some (.integer (-(Int.ofNat size)))
      else if size < 18446744073709551616 then some (.integer (Int.ofNat size))
      else double size 0
  | _, _ =>
      let digits := fraction.getD []
      double (digitsValue 10 (whole ++ digits))
        (power.getD 0 - Int.ofNat digits.length)

def number : Read Json := fun text => do
  let (negative, text) := match text with
    | '-' :: rest => (true, rest)
    | text => (false, text)
  let (whole, text) ← wholePart text
  let (fraction, text) ← fractionPart text
  let (power, text) ← exponentPart text
  let value ← numberOf negative whole fraction power
  some (value, text)

/-! Strings -/

def unit : Read Nat := fun text =>
  let digits := text.take 4
  if digits.length = 4 && digits.all (fun c => (digitsValue.hexValue c).isSome)
  then some (digitsValue 16 digits, text.drop 4)
  else none

/-- A character by its UTF-16 units: one, or two that form a pair. -/
def escapedUnits : Read Char := fun text => do
  let (first, text) ← unit text
  if 0xD800 ≤ first && first < 0xDC00 then
    match text with
    | '\\' :: 'u' :: rest =>
        let (second, rest) ← unit rest
        if 0xDC00 ≤ second && second < 0xE000 then
          some (Char.ofNat
            (0x10000 + (first - 0xD800) * 0x400 + (second - 0xDC00)), rest)
        else none
    | _ => none
  else if 0xDC00 ≤ first && first < 0xE000 then none
  else some (Char.ofNat first, text)

def escape : Read Char
  | '"' :: rest => some ('"', rest)
  | '\\' :: rest => some ('\\', rest)
  | '/' :: rest => some ('/', rest)
  | 'b' :: rest => some ('\x08', rest)
  | 'f' :: rest => some ('\x0C', rest)
  | 'n' :: rest => some ('\n', rest)
  | 'r' :: rest => some ('\r', rest)
  | 't' :: rest => some ('\t', rest)
  | 'u' :: rest => escapedUnits rest
  | _ => none

def stringRest : Nat → Read (List Char)
  | 0, _ => none
  | _ + 1, [] => none
  | _ + 1, '"' :: rest => some ([], rest)
  | fuel + 1, '\\' :: rest => do
      let (c, rest) ← escape rest
      let (read, rest) ← stringRest fuel rest
      some (c :: read, rest)
  | fuel + 1, c :: rest =>
      if c.toNat < 0x20 then none
      else (stringRest fuel rest).map fun (read, rest) => (c :: read, rest)

def quotedString : Read String
  | '"' :: rest =>
      (stringRest (rest.length + 1) rest).map fun (read, rest) =>
        (String.ofList read, rest)
  | _ => none

/-! Values -/

def scalar : Read Json := fun text =>
  match text with
  | 'n' :: 'u' :: 'l' :: 'l' :: rest => some (.null, rest)
  | 't' :: 'r' :: 'u' :: 'e' :: rest => some (.boolean true, rest)
  | 'f' :: 'a' :: 'l' :: 's' :: 'e' :: rest => some (.boolean false, rest)
  | '"' :: _ => (quotedString text).map fun (s, rest) => (.string s, rest)
  | _ => number text

def arrayItems (item : Read Json) : Nat → Read (List Json)
  | 0, _ => none
  | fuel + 1, text => do
      let (value, text) ← item (skipSpace text)
      match skipSpace text with
      | ',' :: rest =>
          let (values, rest) ← arrayItems item fuel rest
          some (value :: values, rest)
      | ']' :: rest => some ([value], rest)
      | _ => none

def objectMembers (item : Read Json) : Nat → Read (List (String × Json))
  | 0, _ => none
  | fuel + 1, text => do
      let (name, text) ← quotedString (skipSpace text)
      match skipSpace text with
      | ':' :: rest =>
          let (value, text) ← item (skipSpace rest)
          match skipSpace text with
          | ',' :: rest =>
              let (members, rest) ← objectMembers item fuel rest
              some ((name, value) :: members, rest)
          | '}' :: rest => some ([(name, value)], rest)
          | _ => none
      | _ => none

/-- The members in order, without those that a later one replaces. -/
def orderMembers (members : List (String × Json)) : List (String × Json) :=
  members.foldl (fun kept e => put e.1 e.2 kept) []
where
  put (name : String) (value : Json) :
      List (String × Json) → List (String × Json)
    | [] => [(name, value)]
    | (n, v) :: rest =>
        if n = name then (name, value) :: rest
        else if name < n then (name, value) :: (n, v) :: rest
        else (n, v) :: put name value rest

/-- A value with at most `depth` levels of brackets and braces. -/
def value : Nat → Read Json
  | 0 => scalar
  | depth + 1 => fun text =>
      match text with
      | '[' :: rest =>
          match skipSpace rest with
          | ']' :: rest => some (.array [], rest)
          | rest =>
              (arrayItems (value depth) (rest.length + 1) rest).map
                fun (items, rest) => (.array items, rest)
      | '{' :: rest =>
          match skipSpace rest with
          | '}' :: rest => some (.object [], rest)
          | rest =>
              (objectMembers (value depth) (rest.length + 1) rest).map
                fun (members, rest) => (.object (orderMembers members), rest)
      | text => scalar text

def depthLimit : Nat := 127

def parse (text : String) : Option Json :=
  match value depthLimit (skipSpace text.toList) with
  | some (json, rest) => if skipSpace rest = [] then some json else none
  | none => none

end Tollgate.Json
