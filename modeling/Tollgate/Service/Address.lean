import Tollgate.Number.Reading
import Tollgate.Text.Split

/-!
Network addresses: texts such as `127.0.0.1:9090` and `[::1]:9090`, and back.
Where host names are allowed, addresses may also be written in older forms such
as `127.1` and `0x7f000001`.
-/

namespace Tollgate

inductive IpAddress where
  | v4 (bytes : List Nat)
  | v6 (groups : List Nat)
deriving DecidableEq

structure SocketAddress where
  ip : IpAddress
  portNumber : Nat
  /-- The network interface that a local address belongs to; zero is none. -/
  scope : Nat := 0
deriving DecidableEq

namespace IpAddress

/-! Reading -/

/-- A decimal number below 256 without needless zeros. -/
def byte? (text : List Char) : Option Nat :=
  let n := digitsValue 10 text
  if text.isEmpty || 3 < text.length || !text.all Char.isDigit
      || (1 < text.length && text.head? = some '0') || 255 < n then none
  else some n

def bytes? (text : List Char) : Option (List Nat) :=
  let parts := splitAtChar '.' text
  if parts.length = 4 then parts.mapM byte? else none

def isHexDigit (c : Char) : Bool :=
  (digitsValue.hexValue c).isSome

def group? (text : List Char) : Option Nat :=
  if text.isEmpty || 4 < text.length || !text.all isHexDigit then none
  else some (digitsValue 16 text)

/-- Groups between colons; the last two may be written as four bytes. -/
def groups? : List (List Char) → Option (List Nat)
  | [] => some []
  | [last] =>
      match group? last, bytes? last with
      | some group, _ => some [group]
      | none, some [a, b, c, d] => some [a * 256 + b, c * 256 + d]
      | none, _ => none
  | first :: rest => do
      let group ← group? first
      let groups ← groups? rest
      some (group :: groups)

def splitGap : List Char → List Char × Option (List Char)
  | ':' :: ':' :: rest => ([], some rest)
  | c :: rest =>
      let (before, after) := splitGap rest
      (c :: before, after)
  | [] => ([], none)

def groupsAfter? (text : List Char) : Option (List Nat) :=
  if text.isEmpty then some [] else groups? (splitAtChar ':' text)

/-- The groups before a gap, where four bytes may not stand. -/
def groupsBefore? (text : List Char) : Option (List Nat) :=
  if text.isEmpty then some [] else (splitAtChar ':' text).mapM group?

def eightGroups? (text : List Char) : Option (List Nat) :=
  match splitGap text with
  | (whole, none) => do
      let groups ← groupsAfter? whole
      if groups.length = 8 then some groups else none
  | (before, some after) => do
      let left ← groupsBefore? before
      let right ← groupsAfter? after
      let count := left.length + right.length
      if count < 8 then some (left ++ List.replicate (8 - count) 0 ++ right)
      else none

/-- A number without a sign, in the base that its first characters tell: `0x` for
hexadecimal, `0` for octal. -/
def anyBase? (text : List Char) : Option Nat :=
  let (base, digits) := match text with
    | '0' :: 'x' :: digits | '0' :: 'X' :: digits => (16, digits)
    | '0' :: digit :: digits => (8, digit :: digits)
    | digits => (10, digits)
  let fits (c : Char) : Bool :=
    match digitsValue.hexValue c with
    | some value => value < base
    | none => false
  if digits.isEmpty || !digits.all fits then none
  else some (digitsValue base digits)

/-- One to four numbers: bytes, and last a number for all bytes that are left. -/
def looseBytes? (text : List Char) : Option (List Nat) := do
  let numbers ← (splitAtChar '.' text).mapM anyBase?
  match numbers with
  | [n] => number 4 n []
  | [a, n] => number 3 n [a]
  | [a, b, n] => number 2 n [a, b]
  | [a, b, c, n] => number 1 n [a, b, c]
  | _ => none
where
  number (count n : Nat) (bytes : List Nat) : Option (List Nat) :=
    let tail := [n / 16777216, n / 65536 % 256, n / 256 % 256, n % 256]
    let spare := 4 - count
    if bytes.all (· < 256) && (tail.take spare).all (· = 0) && n < 4294967296 then
      some (bytes ++ tail.drop spare)
    else none

def scope? (text : List Char) : Option Nat :=
  let n := digitsValue 10 text
  if text.isEmpty || !text.all Char.isDigit || 4294967295 < n then none
  else some n

def scopedGroups? (text : List Char) : Option (List Nat × Nat) := do
  let groups ← eightGroups? (text.takeWhile (· != '%'))
  match text.dropWhile (· != '%') with
  | [] => some (groups, 0)
  | _ :: scopeText => (scope? scopeText).map (groups, ·)

/-! Writing -/

def hexText (n : Nat) : String := String.ofList (Nat.toDigits 16 n)

def joinGroups (groups : List Nat) : String :=
  ":".intercalate (groups.map hexText)

def leadingZeros (groups : List Nat) : Nat :=
  (groups.takeWhile (· = 0)).length

/-- The longest run of zeros, the first of several: its start and length. -/
def longestZeros (start : Nat) : List Nat → Nat × Nat
  | [] => (start, 0)
  | group :: rest =>
      let here := leadingZeros (group :: rest)
      let later := longestZeros (start + 1) rest
      if later.2 ≤ here then (start, here) else later

def bytesText (bytes : List Nat) : String :=
  ".".intercalate (bytes.map (toString ·))

def text : IpAddress → String
  | v4 bytes => bytesText bytes
  | v6 [0, 0, 0, 0, 0, 0xFFFF, high, low] =>
      "::ffff:" ++ bytesText [high / 256, high % 256, low / 256, low % 256]
  | v6 groups =>
      let (start, length) := longestZeros 0 groups
      if length < 2 then joinGroups groups
      else joinGroups (groups.take start) ++ "::" ++
        joinGroups (groups.drop (start + length))

/-! Listening -/

/-- Four bytes written as eight groups are the four bytes. -/
def canonical : IpAddress → IpAddress
  | v6 [0, 0, 0, 0, 0, 0xFFFF, high, low] =>
      v4 [high / 256, high % 256, low / 256, low % 256]
  | ip => ip

def isZero : IpAddress → Bool
  | v4 bytes => bytes.all (· = 0)
  | v6 groups => groups.all (· = 0)

def isV4 : IpAddress → Bool
  | v4 _ => true
  | v6 _ => false

/-- Whether an address takes another with it: zeros stand for every address of
their kind, and eight groups of them for both kinds. -/
def covers (a b : IpAddress) : Bool :=
  a = b || (a.isZero && (!a.isV4 || b.isV4))

end IpAddress

namespace SocketAddress

def portNumber? (text : List Char) : Option Nat :=
  let n := digitsValue 10 text
  if text.isEmpty || !text.all Char.isDigit || 65535 < n then none else some n

def splitHost (text : List Char) : Option (List Char × List Char) :=
  let last := text.reverse.takeWhile (· != ':')
  match text.reverse.drop last.length with
  | _ :: host => some (host.reverse, last.reverse)
  | [] => none

def ofText? (text : String) : Option SocketAddress := do
  let (host, numberText) ← splitHost text.toList
  let portNumber ← portNumber? numberText
  match host with
  | '[' :: rest =>
      if rest.getLast? = some ']' then
        let (groups, scope) ← IpAddress.scopedGroups? rest.dropLast
        some { ip := .v6 groups, portNumber, scope }
      else none
  | _ => do
      let bytes ← IpAddress.bytes? host
      some { ip := .v4 bytes, portNumber }

def text (a : SocketAddress) : String :=
  let scopeText := if a.scope = 0 then "" else "%" ++ toString a.scope
  match a.ip with
  | .v4 _ => a.ip.text ++ ":" ++ toString a.portNumber
  | .v6 _ => "[" ++ a.ip.text ++ scopeText ++ "]:" ++ toString a.portNumber

/-- An address where a host name may stand: its numbers may be written loosely,
and colons need no brackets. -/
def ofHost? (host : List Char) (portNumber : Nat) : Option SocketAddress :=
  match IpAddress.looseBytes? host, IpAddress.scopedGroups? host with
  | some bytes, _ => some { ip := .v4 bytes, portNumber }
  | none, some (groups, scope) => some { ip := .v6 groups, portNumber, scope }
  | none, none => none

/-- Whether two listeners on these addresses would be in each other's way. Zero
asks for any number that is free. -/
def collides (a b : SocketAddress) : Bool :=
  let first := a.ip.canonical
  let second := b.ip.canonical
  a.portNumber = b.portNumber && a.portNumber ≠ 0
    && (first.covers second || second.covers first)

/-- After a host name a plus sign may stand before the number. -/
def signedPortNumber? : List Char → Option Nat
  | '+' :: digits => portNumber? digits
  | digits => portNumber? digits

end SocketAddress

end Tollgate
