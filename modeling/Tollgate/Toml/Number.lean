import Tollgate.Toml.Scan
import Tollgate.Toml.Value

/-!
Numbers and dates. Dates are only checked: no setting is a date.
-/

namespace Tollgate.Toml

def isDecimalDigit (c : Char) : Bool :=
  '0' ≤ c && c ≤ '9'

/-- The digits ahead; single underscores between digits are dropped. -/
def moreDigits (isDigit : Char → Bool) : List Char → List Char × List Char
  | '_' :: c :: rest =>
      if isDigit c then
        let (digits, rest) := moreDigits isDigit rest
        (c :: digits, rest)
      else ([], '_' :: c :: rest)
  | c :: rest =>
      if isDigit c then
        let (digits, rest) := moreDigits isDigit rest
        (c :: digits, rest)
      else ([], c :: rest)
  | [] => ([], [])

def digitRun (isDigit : Char → Bool) : Scan (List Char)
  | c :: rest =>
      if isDigit c then
        let (digits, rest) := moreDigits isDigit rest
        some (c :: digits, rest)
      else none
  | [] => none

def sign : List Char → Bool × List Char
  | '-' :: rest => (true, rest)
  | '+' :: rest => (false, rest)
  | text => (false, text)

def wholeDigits : Scan (List Char)
  | '0' :: rest => some (['0'], rest)
  | text => digitRun isDecimalDigit text

def fraction? : List Char → Option (List Char × List Char)
  | '.' :: rest => digitRun isDecimalDigit rest
  | _ => none

def exponent? : List Char → Option (Int × List Char)
  | c :: rest =>
      if c = 'e' || c = 'E' then
        let (negative, rest) := sign rest
        (digitRun isDecimalDigit rest).map fun (digits, rest) =>
          let power := Int.ofNat (digitsValue 10 digits)
          (if negative then -power else power, rest)
      else none
  | [] => none

/-- A number with a fraction, an exponent or both. One that is too large to be
finite is refused above zero and is negative infinity below. -/
def plainFloat : Scan Float := fun text => do
  let (negative, text) := sign text
  let (whole, text) ← wholeDigits text
  let (fraction, power, text) ←
    match fraction? text with
    | some (fraction, text) =>
        match exponent? text with
        | some (power, text) => some (fraction, power, text)
        | none => some (fraction, 0, text)
    | none => (exponent? text).map fun (power, text) => ([], power, text)
  let value := decimalFloat negative (digitsValue 10 (whole ++ fraction))
    (power - Int.ofNat fraction.length)
  if value == positiveInfinity then none else some (value, text)

def specialFloat : Scan Float := fun text =>
  match sign text with
  | (negative, 'i' :: 'n' :: 'f' :: rest) =>
      some (if negative then -positiveInfinity else positiveInfinity, rest)
  | (_, 'n' :: 'a' :: 'n' :: rest) => some (0.0 / 0.0, rest)
  | _ => none

/-- Whole numbers are signed 64-bit words. -/
def inWord (value : Int) : Bool :=
  -9223372036854775808 ≤ value && value ≤ 9223372036854775807

def unsignedInteger (base : Nat) (isDigit : Char → Bool) : Scan Int :=
  fun text => do
    let (digits, rest) ← digitRun isDigit text
    let value := Int.ofNat (digitsValue base digits)
    if inWord value then some (value, rest) else none

def integer : Scan Int
  | '0' :: 'x' :: rest => unsignedInteger 16 isHexDigit rest
  | '0' :: 'o' :: rest => unsignedInteger 8 (fun c => '0' ≤ c && c ≤ '7') rest
  | '0' :: 'b' :: rest => unsignedInteger 2 (fun c => c == '0' || c == '1') rest
  | text => do
      let (negative, text) := sign text
      let (digits, rest) ← wholeDigits text
      let size := Int.ofNat (digitsValue 10 digits)
      let value := if negative then -size else size
      if inWord value then some (value, rest) else none

/-! Dates and times -/

def fixedNumber (count : Nat) : Scan Nat := fun text =>
  let digits := text.take count
  if digits.length = count && digits.all isDecimalDigit then
    some (digitsValue 10 digits, text.drop count)
  else none

def expect (c : Char) : List Char → Option (List Char)
  | d :: rest => if d = c then some rest else none
  | [] => none

def isLeapYear (year : Nat) : Bool :=
  year % 4 == 0 && (year % 100 != 0 || year % 400 == 0)

def daysInMonth (year month : Nat) : Nat :=
  if month = 2 then if isLeapYear year then 29 else 28
  else if month = 4 || month = 6 || month = 9 || month = 11 then 30
  else 31

def date? (text : List Char) : Option (List Char) := do
  let (year, text) ← fixedNumber 4 text
  let text ← expect '-' text
  let (month, text) ← fixedNumber 2 text
  let text ← expect '-' text
  let (day, text) ← fixedNumber 2 text
  if 1 ≤ month && month ≤ 12 && 1 ≤ day && day ≤ daysInMonth year month then
    some text
  else none

def hourMinute? (text : List Char) : Option (List Char) := do
  let (hour, text) ← fixedNumber 2 text
  let text ← expect ':' text
  let (minute, text) ← fixedNumber 2 text
  if hour ≤ 23 && minute ≤ 59 then some text else none

def time? (text : List Char) : Option (List Char) := do
  let text ← hourMinute? text
  let text ← expect ':' text
  let (second, text) ← fixedNumber 2 text
  if second ≤ 60 then
    match text with
    | '.' :: rest =>
        match rest.takeWhile isDecimalDigit with
        | [] => none
        | _ => some (rest.dropWhile isDecimalDigit)
    | _ => some text
  else none

def zone? : List Char → Option (List Char)
  | 'Z' :: rest => some rest
  | 'z' :: rest => some rest
  | '+' :: rest => hourMinute? rest
  | '-' :: rest => hourMinute? rest
  | text => some text

/-- What follows a date, a time, or both. -/
def datetime? (text : List Char) : Option (List Char) :=
  match date? text with
  | some rest =>
      match rest with
      | c :: after =>
          if c = 'T' || c = 't' || c = ' ' then
            match time? after with
            | some after => zone? after
            | none => some rest
          else some rest
      | [] => some rest
  | none => time? text

def numeric (text : List Char) : Option (Value × List Char) :=
  match datetime? text with
  | some rest => some (.datetime, rest)
  | none =>
      match plainFloat text with
      | some (value, rest) => some (.float value, rest)
      | none =>
          match specialFloat text with
          | some (value, rest) => some (.float value, rest)
          | none => (integer text).map fun (value, rest) =>
              (.integer value, rest)

end Tollgate.Toml
