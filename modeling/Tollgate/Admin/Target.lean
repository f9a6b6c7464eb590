/-!
Request targets: a path with a query, a whole address, an authority alone, or
an asterisk. Only the path plays a part in answering.
-/

namespace Tollgate.Target

/-! Authorities: `host`, `host:8080`, `name@host`, `[::1]:8080` -/

/-- What has been seen of an authority. What stands before the last `@` or in
brackets does not count towards the colons and percent signs. -/
structure Authority where
  colons : Nat := 0
  opened : Bool := false
  closed : Bool := false
  percent : Bool := false
  /-- Whether the last character is an `@`. -/
  endsInAt : Bool := false

namespace Authority

def isPlain (c : Char) : Bool :=
  c.isAlphanum || "!$&'()*+,-.;=_~".toList.contains c

def add? (a : Authority) (c : Char) : Option Authority :=
  let a := { a with endsInAt := c == '@' }
  if c = ':' then
    if a.colons < 8 then some { a with colons := a.colons + 1 } else none
  else if c = '[' then
    if a.percent || a.opened then none else some { a with opened := true }
  else if c = ']' then
    if !a.opened || a.closed then none
    else some { a with closed := true, colons := 0, percent := false }
  else if c = '@' then some { a with colons := 0, percent := false }
  else if c = '%' then some { a with percent := true }
  else if isPlain c then some a
  else none

def isComplete (a : Authority) : Bool :=
  a.opened == a.closed && a.colons ≤ 1 && !a.endsInAt && !a.percent

def accepts (text : List Char) : Bool :=
  match text.foldlM add? {} with
  | some a => a.isComplete
  | none => false

end Authority

/-! Paths and queries -/

def isPathChar (c : Char) : Bool :=
  32 < c.toNat && !"#<>?\x60".toList.contains c

def isQueryChar (c : Char) : Bool :=
  32 < c.toNat && !"\"#<>".toList.contains c

def endsPath (c : Char) : Bool :=
  c == '?' || c == '#'

/-- The path before a query and a fragment; without one it is the root. -/
def pathOf? (text : List Char) : Option (List Char) :=
  let path := text.takeWhile (!endsPath ·)
  let queryFits := match text.dropWhile (!endsPath ·) with
    | '?' :: query => (query.takeWhile (· != '#')).all isQueryChar
    | _ => true
  if path.all isPathChar && queryFits then
    some (if path.isEmpty then ['/'] else path)
  else none

/-! Whole addresses -/

def isSchemeChar (c : Char) : Bool :=
  c.isAlphanum || c == '+' || c == '-' || c == '.' || c == '~'

def endsAuthority (c : Char) : Bool :=
  c == '/' || endsPath c

/-- The path of an address that has no scheme or whose scheme has been read. -/
def afterScheme? (hasScheme : Bool) (text : List Char) : Option (List Char) :=
  let authority := text.takeWhile (!endsAuthority ·)
  let rest := text.dropWhile (!endsAuthority ·)
  if !Authority.accepts authority then none
  else if hasScheme then
    if authority.isEmpty then none else pathOf? rest
  else if rest.isEmpty then some []
  else none

def longestScheme : Nat := 64

def longestTarget : Nat := 65534

/-- The path of a target, still percent-encoded. An authority alone has the
empty path. -/
def path? (target : String) : Option (List Char) :=
  if target.utf8ByteSize > longestTarget then none
  else match target.toList with
    | [] => none
    | ['*'] => some ['*']
    | '/' :: rest => pathOf? ('/' :: rest)
    | text =>
        let scheme := text.takeWhile isSchemeChar
        match text.drop scheme.length with
        | ':' :: '/' :: '/' :: rest =>
            if scheme.length ≤ longestScheme then afterScheme? true rest
            else none
        | _ => afterScheme? false text

end Tollgate.Target
