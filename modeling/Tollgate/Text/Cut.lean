/-!
Texts cut at byte positions. A position within a character is no place to cut.
-/

namespace Tollgate

def dropBytes? (count : Nat) : List Char → Option (List Char)
  | [] => if count = 0 then some [] else none
  | c :: rest =>
      if count = 0 then some (c :: rest)
      else if c.utf8Size ≤ count then dropBytes? (count - c.utf8Size) rest
      else none

def takeBytes? (count : Nat) : List Char → Option (List Char)
  | [] => if count = 0 then some [] else none
  | c :: rest =>
      if count = 0 then some []
      else if c.utf8Size ≤ count then
        (takeBytes? (count - c.utf8Size) rest).map (c :: ·)
      else none

def cut? (first last : Nat) (text : List Char) : Option (List Char) :=
  (dropBytes? first text).bind (takeBytes? (last - first))

end Tollgate
