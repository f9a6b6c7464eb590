/-!
TOML values, and the rules on which line may add to which table.
-/

namespace Tollgate.Toml

inductive Origin where
  /-- By a header of its own. -/
  | header
  /-- On the way to a longer header. -/
  | path
  /-- On the way of a dotted key. -/
  | dotted
  /-- In braces; nothing may be added to it later. -/
  | inline
deriving DecidableEq

inductive Value where
  | string (text : String)
  | integer (value : Int)
  | float (value : Float)
  | boolean (value : Bool)
  | datetime
  | array (items : List Value)
  | table (origin : Origin) (entries : List (String × Value))
  /-- Tables collected by headers in double brackets. -/
  | tables (items : List (List (String × Value)))

abbrev Entries := List (String × Value)

namespace Entries

def find? (entries : Entries) (key : String) : Option Value :=
  (List.find? (·.1 == key) entries).map (·.2)

def erase (entries : Entries) (key : String) : Entries :=
  entries.filter (·.1 != key)

def put (entries : Entries) (key : String) (value : Value) : Entries :=
  entries.map fun e => if e.1 == key then (key, value) else e

/-- Changes the table that `path` leads to and hands on what `change` found
there. Missing tables on the way are made with origin `fresh`. A dotted key
does not enter a table that has a header; nothing enters a table in braces. Of
tables in double brackets the last one is entered. -/
def alterAt (fresh : Origin) (change : Origin → Entries → Option (β × Entries)) :
    List String → Origin → Entries → Option (β × Entries)
  | [], origin, entries => change origin entries
  | key :: rest, _, entries =>
      match entries.find? key with
      | none =>
          (alterAt fresh change rest fresh []).map fun (found, inner) =>
            (found, entries ++ [(key, .table fresh inner)])
      | some (.table .inline _) => none
      | some (.table origin inner) =>
          if fresh = .dotted && origin = .header then none
          else (alterAt fresh change rest origin inner).map
            fun (found, inner) => (found, entries.put key (.table origin inner))
      | some (.tables items) =>
          match items.reverse with
          | [] => none
          | last :: earlier =>
              (alterAt fresh change rest .header last).map fun (found, last) =>
                (found, entries.put key (.tables (last :: earlier).reverse))
      | some _ => none

/-- Adds one `key = value` line below `path`. The table must have been made by
dotted keys exactly when the path is not empty, and must not have the key. -/
def addLine (entries : Entries) (origin : Origin) (path : List String)
    (key : String) (value : Value) : Option Entries :=
  let add (origin : Origin) (inner : Entries) : Option (Unit × Entries) :=
    if (origin == .dotted) == path.isEmpty then none
    else if (inner.find? key).isSome then none
    else some ((), inner ++ [(key, value)])
  (alterAt .dotted add path origin entries).map (·.2)

end Entries

end Tollgate.Toml
