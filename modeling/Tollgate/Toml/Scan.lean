import Tollgate.Number.Reading

/-!
The small tokens of TOML: blanks, line ends, keys and strings. A scanner takes
the text ahead and gives what it read with the text behind it.
-/

namespace Tollgate.Toml

abbrev Scan (α : Type) := List Char → Option (α × List Char)

/-! Blanks and line ends -/

def isBlank (c : Char) : Bool :=
  c == ' ' || c == '\t'

def skipBlanks (text : List Char) : List Char :=
  text.dropWhile isBlank

def afterNewline? : List Char → Option (List Char)
  | '\n' :: rest => some rest
  | '\r' :: '\n' :: rest => some rest
  | _ => none

def isPrintable (c : Char) : Bool :=
  c == '\t' || (0x20 ≤ c.toNat && c.toNat != 0x7F)

def skipComment : List Char → List Char
  | '#' :: rest => rest.dropWhile isPrintable
  | text => text

def afterLine? (text : List Char) : Option (List Char) :=
  match skipComment (skipBlanks text) with
  | [] => some []
  | rest => afterNewline? rest

def skipLines : Nat → List Char → List Char
  | 0, text => text
  | fuel + 1, text =>
      let text := skipBlanks text
      match afterNewline? (skipComment text) with
      | some rest => skipLines fuel rest
      | none => text

/-! Strings -/

def isHexDigit (c : Char) : Bool :=
  ('0' ≤ c && c ≤ '9') || ('a' ≤ c && c ≤ 'f') || ('A' ≤ c && c ≤ 'F')

def scalar (count : Nat) : Scan Char := fun text =>
  let digits := text.take count
  if digits.length = count && digits.all isHexDigit then
    let code := digitsValue 16 digits
    if code.isValidChar then some (Char.ofNat code, text.drop count) else none
  else none

def escape : Scan Char
  | 'b' :: rest => some ('\x08', rest)
  | 't' :: rest => some ('\t', rest)
  | 'n' :: rest => some ('\n', rest)
  | 'f' :: rest => some ('\x0C', rest)
  | 'r' :: rest => some ('\r', rest)
  | '"' :: rest => some ('"', rest)
  | '\\' :: rest => some ('\\', rest)
  | 'u' :: rest => scalar 4 rest
  | 'U' :: rest => scalar 8 rest
  | _ => none

def consTo (c : Char) : Option (List Char × List Char) →
    Option (List Char × List Char)
  | some (read, rest) => some (c :: read, rest)
  | none => none

def basicRest : Nat → Scan (List Char)
  | 0, _ => none
  | _ + 1, [] => none
  | _ + 1, '"' :: rest => some ([], rest)
  | fuel + 1, '\\' :: rest =>
      (escape rest).bind fun (c, rest) => consTo c (basicRest fuel rest)
  | fuel + 1, c :: rest =>
      if isPrintable c then consTo c (basicRest fuel rest) else none

def literalRest : Scan (List Char)
  | [] => none
  | c :: rest =>
      if c = '\'' then some ([], rest)
      else if isPrintable c then consTo c (literalRest rest)
      else none

/-- The end of a string in triple quotes, at its first closing quote: up to two
more quotes before the closing three belong to the string. -/
def closing (quote : Char) (text : List Char) :
    Option (List Char × List Char) :=
  let quotes := (text.takeWhile (· == quote)).length
  if quotes < 3 then none
  else
    let extra := if quotes ≤ 5 then quotes - 3 else 2
    some (List.replicate extra quote, text.drop (extra + 3))

/-- What follows a backslash at the end of a line: the next line that is not
blank, without its indentation. -/
def afterContinuation? (text : List Char) : Option (List Char) :=
  (afterNewline? (skipBlanks text)).map fun rest => skipAll rest.length rest
where
  skipAll : Nat → List Char → List Char
    | 0, text => text
    | fuel + 1, text =>
        let text := skipBlanks text
        match afterNewline? text with
        | some rest => skipAll fuel rest
        | none => text

def longBasicRest : Nat → Scan (List Char)
  | 0, _ => none
  | fuel + 1, text =>
      match closing '"' text with
      | some found => some found
      | none =>
          match afterNewline? text with
          | some rest => consTo '\n' (longBasicRest fuel rest)
          | none =>
              match text with
              | [] => none
              | '\\' :: rest =>
                  match afterContinuation? rest with
                  | some rest => longBasicRest fuel rest
                  | none => (escape rest).bind fun (c, rest) =>
                      consTo c (longBasicRest fuel rest)
              | c :: rest =>
                  if isPrintable c then consTo c (longBasicRest fuel rest)
                  else none

def longLiteralRest : Nat → Scan (List Char)
  | 0, _ => none
  | fuel + 1, text =>
      match closing '\'' text with
      | some found => some found
      | none =>
          match afterNewline? text with
          | some rest => consTo '\n' (longLiteralRest fuel rest)
          | none =>
              match text with
              | [] => none
              | c :: rest =>
                  if isPrintable c then consTo c (longLiteralRest fuel rest)
                  else none

/-- A line end right after the opening quotes is not part of the string. -/
def dropFirstNewline (text : List Char) : List Char :=
  (afterNewline? text).getD text

def asString (found : Option (List Char × List Char)) :
    Option (String × List Char) :=
  found.map fun (read, rest) => (String.ofList read, rest)

def string : Scan String
  | '"' :: '"' :: '"' :: rest =>
      asString (longBasicRest (rest.length + 1) (dropFirstNewline rest))
  | '"' :: rest => asString (basicRest (rest.length + 1) rest)
  | '\'' :: '\'' :: '\'' :: rest =>
      asString (longLiteralRest (rest.length + 1) (dropFirstNewline rest))
  | '\'' :: rest => asString (literalRest rest)
  | _ => none

/-! Keys -/

def isBareKeyChar (c : Char) : Bool :=
  ('a' ≤ c && c ≤ 'z') || ('A' ≤ c && c ≤ 'Z') || ('0' ≤ c && c ≤ '9')
    || c == '-' || c == '_'

def keyPart : Scan String
  | '"' :: rest => asString (basicRest (rest.length + 1) rest)
  | '\'' :: rest => asString (literalRest rest)
  | text =>
      match text.takeWhile isBareKeyChar with
      | [] => none
      | name => some (String.ofList name, text.dropWhile isBareKeyChar)

/-- Parts joined by dots, with blanks around each; at most `parts` of them. -/
def keyParts : Nat → Scan (List String)
  | 0, _ => none
  | parts + 1, text =>
      (keyPart (skipBlanks text)).bind fun (name, rest) =>
        match skipBlanks rest with
        | '.' :: rest =>
            (keyParts parts rest).map fun (names, rest) => (name :: names, rest)
        | rest => some ([name], rest)

/-- Nesting of keys and of values ends below this depth. -/
def depthLimit : Nat := 80

def key : Scan (List String × String) := fun text =>
  (keyParts (depthLimit - 1) text).bind fun (names, rest) =>
    names.getLast?.map fun last => ((names.dropLast, last), rest)

end Tollgate.Toml
