import Tollgate.Text.Percent

/-!
Web addresses, as clients read them: blanks at the ends and line breaks are
dropped, a backslash is a slash, dot segments are resolved, characters that may
not stand in a path or query are percent-encoded, and a fragment is not sent.
-/

namespace Tollgate

structure Url where
  host : String
  portNumber : Nat
  target : String
  /-- With its hash sign, if there is one. It is not sent. -/
  fragment : String := ""
deriving DecidableEq

namespace Url

def text (u : Url) : String :=
  "http://" ++ u.host
    ++ (if u.portNumber = 80 then "" else ":" ++ toString u.portNumber)
    ++ u.target ++ u.fragment

/-- The bytes of the longest address that a client sends a request to. -/
def longest : Nat := 65534

/-! Cleaning and splitting -/

def isControlOrBlank (c : Char) : Bool :=
  c.toNat ≤ 0x20

def trim (text : List Char) : List Char :=
  ((text.dropWhile isControlOrBlank).reverse.dropWhile isControlOrBlank).reverse

def clean (text : List Char) : List Char :=
  (trim text).filter fun c => c != '\t' && c != '\n' && c != '\r'

def isSlash (c : Char) : Bool :=
  c == '/' || c == '\\'

def scheme? (text : List Char) : Option (List Char × List Char) :=
  let isSchemeChar (c : Char) : Bool :=
    c.isAlphanum || c == '+' || c == '-' || c == '.'
  match text with
  | c :: _ =>
      if c.isAlpha then
        match text.dropWhile isSchemeChar with
        | ':' :: rest => some ((text.takeWhile isSchemeChar).map Char.toLower, rest)
        | _ => none
      else none
  | [] => none

def isAuthorityChar (c : Char) : Bool :=
  !isSlash c && c != '?' && c != '#'

def afterUser (authority : List Char) : List Char :=
  (authority.reverse.takeWhile (· != '@')).reverse

/-- The host, and the digits after a colon outside brackets. -/
def splitHost (authority : List Char) : List Char × List Char :=
  let reversed := authority.reverse
  let digits := reversed.takeWhile Char.isDigit
  match reversed.drop digits.length with
  | ':' :: host => (host.reverse, digits.reverse)
  | _ => (authority, [])

def isForbiddenInHost (c : Char) : Bool :=
  isControlOrBlank c || c.toNat == 0x7F || c == '<' || c == '>' || c == '^'
    || c == '|' || c == '%' || c == '[' || c == ']' || c == ':' || c == '@'

def host? (text : List Char) : Option String :=
  match text with
  | [] => none
  | '[' :: rest =>
      if rest.getLast? = some ']' then some (String.ofList text) else none
  | _ =>
      if text.any isForbiddenInHost then none
      else some (String.ofList (text.map Char.toLower))

def portNumber? (digits : List Char) : Option Nat :=
  if digits.isEmpty then some 80
  else
    let n := digitsValue 10 digits
    if n < 65536 then some n else none

/-! Paths and queries -/

def isPrintableAscii (c : Char) : Bool :=
  0x20 ≤ c.toNat && c.toNat < 0x7F

def isPathChar (c : Char) : Bool :=
  isPrintableAscii c && !" \"#<>?\x60\x7b\x7d".toList.contains c

def isQueryChar (c : Char) : Bool :=
  isPrintableAscii c && !" \"#<>'".toList.contains c

def isFragmentChar (c : Char) : Bool :=
  isPrintableAscii c && !" \"<>\x60".toList.contains c

/-- The segments of a path, between slashes of either kind. -/
def splitPath : List Char → List (List Char)
  | [] => [[]]
  | c :: rest =>
      if isSlash c then [] :: splitPath rest
      else match splitPath rest with
        | [] => [[c]]
        | first :: others => (c :: first) :: others

/-- A segment in which an encoded dot is a dot. -/
def plainDots : List Char → List Char
  | '%' :: '2' :: c :: rest =>
      if c = 'e' || c = 'E' then '.' :: plainDots rest
      else '%' :: '2' :: plainDots (c :: rest)
  | c :: rest => c :: plainDots rest
  | [] => []

def isDot (segment : List Char) : Bool :=
  plainDots segment == ['.']

def isDoubleDot (segment : List Char) : Bool :=
  plainDots segment == ['.', '.']

/-- A letter with a colon or a bar, as drives are named. -/
def isDrive (segment : List Char) : Bool :=
  match segment with
  | [letter, mark] => letter.isAlpha && (mark == ':' || mark == '|')
  | _ => false

/-- What is left of the segments, the last one first, when two dots go back. They
do not leave a drive. -/
def goBack : List (List Char) → List (List Char)
  | [] => []
  | segment :: reversed =>
      if isDrive segment then segment :: reversed else reversed

/-- Walks the segments: a dot stays where it is, two dots go back. A path that
ends with either ends with a slash. -/
def resolveDots (reversed : List (List Char)) :
    List (List Char) → List (List Char)
  | [] => reversed.reverse
  | segment :: rest =>
      let last := rest.isEmpty
      if isDoubleDot segment then
        let back := goBack reversed
        resolveDots (if last then [] :: back else back) rest
      else if isDot segment then
        resolveDots (if last then [] :: reversed else reversed) rest
      else resolveDots (segment :: reversed) rest

def normalizePath (path : List Char) : List Char :=
  let segments := match path with
    | c :: rest => if isSlash c then splitPath rest else splitPath path
    | [] => [[]]
  (resolveDots [] segments).flatMap fun segment =>
    '/' :: Percent.encode isPathChar segment

def targetOf (text : List Char) : String :=
  let text := text.takeWhile (· != '#')
  let path := normalizePath (text.takeWhile (· != '?'))
  let query := match text.dropWhile (· != '?') with
    | _ :: query => '?' :: Percent.encode isQueryChar query
    | [] => []
  String.ofList (path ++ query)

def fragmentOf (text : List Char) : String :=
  match text.dropWhile (· != '#') with
  | _ :: fragment => String.ofList ('#' :: Percent.encode isFragmentChar fragment)
  | [] => ""

/-- Reads an `http` address. Other schemes lead nowhere. -/
def parse? (text : String) : Option Url := do
  let (scheme, rest) ← scheme? (clean text.toList)
  if scheme = "http".toList then
    let rest := rest.dropWhile isSlash
    let authority := afterUser (rest.takeWhile isAuthorityChar)
    let (hostText, numberText) := splitHost authority
    let host ← host? hostText
    let portNumber ← portNumber? numberText
    let tail := rest.dropWhile isAuthorityChar
    some ⟨host, portNumber, targetOf tail, fragmentOf tail⟩
  else none

end Url

end Tollgate
