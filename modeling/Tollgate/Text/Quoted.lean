import Tollgate.Text.Invisible

/-!
Texts in quotes, as log lines show them: quotes and backslashes are escaped, and
characters that cannot be told from their looks are written by name or by
number.
-/

namespace Tollgate

def escapedInQuotes (c : Char) : List Char :=
  if c = '"' || c = '\\' then ['\\', c]
  else if c = '\n' then ['\\', 'n']
  else if c = '\r' then ['\\', 'r']
  else if c = '\t' then ['\\', 't']
  else if c = '\x00' then ['\\', '0']
  else if isInvisible c then
    ['\\', 'u', '\x7b'] ++ Nat.toDigits 16 c.toNat ++ ['\x7d']
  else [c]

def quoted (text : String) : String :=
  String.ofList ('"' :: text.toList.flatMap escapedInQuotes ++ ['"'])

/-- A path in quotes, where apostrophes are escaped too. -/
def quotedPath (path : String) : String :=
  let escaped (c : Char) : List Char :=
    if c = '\'' then ['\\', c] else escapedInQuotes c
  String.ofList ('"' :: path.toList.flatMap escaped ++ ['"'])

end Tollgate
