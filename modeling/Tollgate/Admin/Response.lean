import Tollgate.Json.Value

/-!
Answers of the admin interface.
-/

namespace Tollgate

inductive Body where
  | empty
  | text (content : String)
  | json (content : Json)

structure Response where
  status : Nat
  retryAfter : Option Nat := none
  body : Body := .empty

namespace Response

def ofJson (status : Nat) (content : Json) : Response :=
  { status, body := .json content }

/-- The form of all errors: a stable name and a text. -/
def failure (status : Nat) (kind message : String) : Response :=
  ofJson status (.object [("error", .string kind), ("message", .string message)])

end Response

end Tollgate
