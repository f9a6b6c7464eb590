import Tollgate.Toml.Number

/-!
TOML documents: values, lines and headers. Reading gives the entries of the
root table or nothing; why a text is no document is not told.
-/

namespace Tollgate.Toml

/-! Values -/

def scalarValue : Scan Value := fun text =>
  match text with
  | '"' :: _ => (string text).map fun (s, rest) => (.string s, rest)
  | '\'' :: _ => (string text).map fun (s, rest) => (.string s, rest)
  | 't' :: 'r' :: 'u' :: 'e' :: rest => some (.boolean true, rest)
  | 'f' :: 'a' :: 'l' :: 's' :: 'e' :: rest => some (.boolean false, rest)
  | _ => numeric text

def arrayItems (item : Scan Value) : Nat → Scan (List Value)
  | 0, _ => none
  | fuel + 1, text =>
      match skipLines text.length text with
      | ']' :: rest => some ([], rest)
      | text => do
          let (value, text) ← item text
          match skipLines text.length text with
          | ',' :: rest =>
              let (values, rest) ← arrayItems item fuel rest
              some (value :: values, rest)
          | ']' :: rest => some ([value], rest)
          | _ => none

def keyValue (item : Scan Value) : Scan ((List String × String) × Value) :=
  fun text => do
    let (name, text) ← key text
    let text ← expect '=' text
    let (value, text) ← item (skipBlanks text)
    some ((name, value), text)

/-- The lines of a table in braces, added to those read so far. -/
def braceItems (item : Scan Value) : Nat → Entries → Scan Entries
  | 0, _, _ => none
  | fuel + 1, entries, text => do
      let (((path, name), value), text) ← keyValue item text
      let entries ← entries.addLine .inline path name value
      match skipBlanks text with
      | ',' :: rest => braceItems item fuel entries rest
      | '}' :: rest => some (entries, rest)
      | _ => none

/-- A value with at most `depth` levels of brackets and braces. -/
def value : Nat → Scan Value
  | 0 => scalarValue
  | depth + 1 => fun text =>
      match text with
      | '[' :: rest =>
          (arrayItems (value depth) (rest.length + 1) rest).map
            fun (items, rest) => (.array items, rest)
      | '{' :: rest =>
          match skipBlanks rest with
          | '}' :: rest => some (.table .inline [], rest)
          | rest =>
              (braceItems (value depth) (rest.length + 1) [] rest).map
                fun (entries, rest) => (.table .inline entries, rest)
      | text => scalarValue text

/-! Lines -/

inductive Section where
  | root
  | table (path : List String) (name : String)
  | element (path : List String) (name : String)

/-- A document being read: the tables that are complete, and the one that
lines are added to. -/
structure Draft where
  complete : Entries := []
  current : Entries := []
  place : Section := .root

namespace Draft

def close (d : Draft) : Option Entries :=
  match d.place with
  | .root => some d.current
  | .table path name =>
      let file (_ : Origin) (entries : Entries) : Option (Unit × Entries) :=
        match entries.find? name with
        | none => some ((), entries ++ [(name, .table .header d.current)])
        | some _ => none
      (Entries.alterAt .path file path .header d.complete).map (·.2)
  | .element path name =>
      let file (_ : Origin) (entries : Entries) : Option (Unit × Entries) :=
        match entries.find? name with
        | none => some ((), entries ++ [(name, .tables [d.current])])
        | some (.tables items) =>
            some ((), entries.put name (.tables (items ++ [d.current])))
        | some _ => none
      (Entries.alterAt .path file path .header d.complete).map (·.2)

/-- Begins the table of a header. A table made on the way to a longer header
is taken up again. -/
def openTable (d : Draft) (path : List String) (name : String) :
    Option Draft := do
  let complete ← d.close
  let take (_ : Origin) (entries : Entries) : Option (Entries × Entries) :=
    match entries.find? name with
    | none => some ([], entries)
    | some (.table .path inner) => some (inner, entries.erase name)
    | some _ => none
  let (current, complete) ← Entries.alterAt .path take path .header complete
  some ⟨complete, current, .table path name⟩

def openElement (d : Draft) (path : List String) (name : String) :
    Option Draft := do
  let complete ← d.close
  let reserve (_ : Origin) (entries : Entries) : Option (Unit × Entries) :=
    match entries.find? name with
    | none => some ((), entries ++ [(name, .tables [])])
    | some (.tables _) => some ((), entries)
    | some _ => none
  let (_, complete) ← Entries.alterAt .path reserve path .header complete
  some ⟨complete, [], .element path name⟩

def addLine (d : Draft) (path : List String) (name : String) (v : Value) :
    Option Draft :=
  (d.current.addLine .header path name v).map fun current =>
    { d with current }

def line (d : Draft) (text : List Char) : Option (Draft × List Char) :=
  match text with
  | '[' :: '[' :: rest => do
      let ((path, name), rest) ← key rest
      let rest ← expect ']' rest
      let rest ← expect ']' rest
      let rest ← afterLine? rest
      let d ← d.openElement path name
      some (d, rest)
  | '[' :: rest => do
      let ((path, name), rest) ← key rest
      let rest ← expect ']' rest
      let rest ← afterLine? rest
      let d ← d.openTable path name
      some (d, rest)
  | _ =>
      match afterLine? text with
      | some rest => some (d, rest)
      | none => do
          let (((path, name), v), rest) ←
            keyValue (value (depthLimit - 1)) text
          let rest ← afterLine? rest
          let d ← d.addLine path name v
          some (d, rest)

def lines : Nat → Draft → List Char → Option Draft
  | 0, _, _ => none
  | fuel + 1, d, text =>
      match skipBlanks text with
      | [] => some d
      | text => (d.line text).bind fun (d, rest) => lines fuel d rest

end Draft

/-- The root table of a document. A byte order mark in front is ignored. -/
def parse (text : List Char) : Option Entries :=
  let text := match text with
    | '\uFEFF' :: rest => rest
    | text => text
  (Draft.lines (text.length + 1) {} text).bind Draft.close

end Tollgate.Toml
