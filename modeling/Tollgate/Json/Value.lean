/-!
JSON values.
-/

namespace Tollgate

/-- A JSON value. Whole numbers are kept apart from doubles; members of an object
keep their order. -/
inductive Json where
  | null
  | boolean (value : Bool)
  | integer (value : Int)
  | float (value : Float)
  | string (text : String)
  | array (items : List Json)
  | object (members : List (String × Json))

namespace Json

/-- A number that no JSON text can hold is written as null. -/
def ofFloat (x : Float) : Json :=
  if x.isFinite then .float x else .null

def ofNat (n : Nat) : Json := .integer (Int.ofNat n)

def ofOption (f : α → Json) : Option α → Json
  | none => .null
  | some x => f x

def member? (json : Json) (name : String) : Option Json :=
  match json with
  | .object members => (members.find? (·.1 == name)).map (·.2)
  | _ => none

end Json

end Tollgate
