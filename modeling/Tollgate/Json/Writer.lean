import Tollgate.Json.Value
import Tollgate.Number.Layout

/-!
Writing JSON: on one line, or one item a line with two blanks per level.
-/

namespace Tollgate.Json

def hexDigit (n : Nat) : Char :=
  if n < 10 then Char.ofNat ('0'.toNat + n) else Char.ofNat ('a'.toNat + n - 10)

def escapeChar (c : Char) : List Char :=
  if c = '"' then ['\\', '"']
  else if c = '\\' then ['\\', '\\']
  else if c = '\n' then ['\\', 'n']
  else if c = '\r' then ['\\', 'r']
  else if c = '\t' then ['\\', 't']
  else if c = '\x08' then ['\\', 'b']
  else if c = '\x0C' then ['\\', 'f']
  else if c.toNat < 0x20 then
    ['\\', 'u', '0', '0', hexDigit (c.toNat / 16), hexDigit (c.toNat % 16)]
  else [c]

def quote (text : String) : String :=
  String.ofList ('"' :: text.toList.flatMap escapeChar ++ ['"'])

inductive Layout where
  | line
  | indented
deriving DecidableEq

def openBrace : String := "\x7b"

def closeBrace : String := "\x7d"

def Layout.breakTo (layout : Layout) (level : Nat) : String :=
  match layout with
  | .line => ""
  | .indented => String.ofList ('\n' :: List.replicate (2 * level) ' ')

def Layout.colon : Layout → String
  | line => ":"
  | indented => ": "

/-- Items between two brackets; nothing stands between those of an empty
list. -/
def Layout.enclose (layout : Layout) (level : Nat) (left right : String)
    (items : List String) : String :=
  match items with
  | [] => left ++ right
  | _ =>
      left ++ ",".intercalate (items.map (layout.breakTo (level + 1) ++ ·)) ++
        layout.breakTo level ++ right

mutual
def writeAt (layout : Layout) (level : Nat) : Json → String
  | .null => "null"
  | .boolean true => "true"
  | .boolean false => "false"
  | .integer n => toString n
  | .float x => if x.isFinite then FloatStyle.json.render x else "null"
  | .string s => quote s
  | .array items =>
      layout.enclose level "[" "]" (writeItems layout (level + 1) items)
  | .object members =>
      layout.enclose level openBrace closeBrace
        (writeMembers layout (level + 1) members)

def writeItems (layout : Layout) (level : Nat) : List Json → List String
  | [] => []
  | item :: rest => writeAt layout level item :: writeItems layout level rest

def writeMembers (layout : Layout) (level : Nat) :
    List (String × Json) → List String
  | [] => []
  | (name, item) :: rest =>
      (quote name ++ layout.colon ++ writeAt layout level item)
        :: writeMembers layout level rest
end

def compact (json : Json) : String := writeAt .line 0 json

def pretty (json : Json) : String := writeAt .indented 0 json

end Tollgate.Json
