import Tollgate.Text.LetterCase

/-!
Lower-casing of whole texts. Two characters need more than the simple mapping:
`İ` becomes two characters, and a capital sigma at the end of a word becomes
`ς`. The second makes the result depend on what follows.
-/

namespace Tollgate.LetterCase

def LowerRun.lowered? (run : LowerRun) (code : Nat) : Option Char :=
  if run.first ≤ code && code ≤ run.last
      && (code - run.first) % run.stride == 0 then
    some (Char.ofNat (Int.ofNat code + run.offset).toNat)
  else none

def lowerChar (c : Char) : Char :=
  if c.toNat < 128 then c.toLower
  else (lowerRuns.findSome? (·.lowered? c.toNat)).getD c

/-- Whether a letter follows, with nothing but ignorable characters between. -/
def startsCased (text : List Char) : Bool :=
  match text.dropWhile isIgnorable with
  | [] => false
  | c :: _ => isCased c

/-- A sigma ends a word when a letter stands before it and none after it. -/
def finalSigma (reversedBefore after : List Char) : Bool :=
  startsCased reversedBefore && !startsCased after

/-- Lower-cases `text`, given what stands before it, last character first. -/
def lowerAfter (reversedBefore : List Char) : List Char → List Char
  | [] => []
  | c :: rest =>
      let lowered :=
        if c = 'Σ' then
          [if finalSigma reversedBefore rest then 'ς' else 'σ']
        else if c = 'İ' then ['i', '\u0307']
        else [lowerChar c]
      lowered ++ lowerAfter (c :: reversedBefore) rest

end Tollgate.LetterCase

namespace Tollgate

def lowercase (text : String) : String :=
  String.ofList (LetterCase.lowerAfter [] text.toList)

end Tollgate
