import Tollgate.Admin.Response
import Tollgate.Admin.Target
import Tollgate.Text.Percent
import Tollgate.Text.Split

/-!
Requests to the admin interface, and where their paths lead.
-/

namespace Tollgate

structure Request where
  method : String
  /-- A path with a query, or a whole address. -/
  target : String
  authorization : Option String := none

/-- What a path names. Names in it are still percent-encoded. -/
inductive Route where
  | health
  | status
  | breakers
  | resetBreaker (dependency : String)
  | openBreaker (dependency : String)
  | budget (tenant : String)
deriving DecidableEq

namespace Route

def ofSegments? : List String → Option Route
  | ["", "health"] => some .health
  | ["", "admin", "status"] => some .status
  | ["", "admin", "breakers"] => some .breakers
  | ["", "admin", "breakers", dependency, "reset"] =>
      some (.resetBreaker dependency)
  | ["", "admin", "breakers", dependency, "open"] =>
      some (.openBreaker dependency)
  | ["", "admin", "budget", tenant] =>
      if tenant = "" then none else some (.budget tenant)
  | _ => none

def ofPath? (path : List Char) : Option Route :=
  ofSegments? ((splitAtChar '/' path).map String.ofList)

def method : Route → String
  | health | status | breakers | budget _ => "GET"
  | resetBreaker _ | openBreaker _ => "POST"

/-- A request for a head is answered like one for the whole. -/
def accepts (r : Route) (method : String) : Bool :=
  method == r.method || (method == "HEAD" && r.method == "GET")

end Route

end Tollgate
