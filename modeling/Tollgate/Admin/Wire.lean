import Tollgate.Admin.Response
import Tollgate.Admin.Route
import Tollgate.Json.Writer
import Tollgate.Text.Blank

/-!
Requests and responses on a connection: what arrives of a request, what is sent
of a response, and both as single lines.
-/

namespace Tollgate

def isMethodChar (c : Char) : Bool :=
  c.isAlphanum || "!#$%&'*+-.^_\x60|~".toList.contains c

def isHeaderChar (c : Char) : Bool :=
  c == '\t' || (32 ≤ c.toNat && c.toNat != 127)

/-- The request that arrives, if it does. Blanks around a header value are lost. -/
def Request.received? (r : Request) : Option Request :=
  let authorization := r.authorization.map fun value =>
    trimBy (fun c => c == ' ' || c == '\t') value.toList
  let methodFits := r.method != "" && r.method.toList.all isMethodChar
  let headerFits := authorization.all (·.all isHeaderChar)
  if methodFits && headerFits then
    some { r with authorization := authorization.map String.ofList }
  else none

/-- What is sent of a response. For the head alone no body is. -/
def Response.sentFor (response : Response) (r : Request) : Response :=
  if r.method == "HEAD" then { response with body := .empty } else response

def Request.line (r : Request) : String :=
  " ".intercalate (r.method :: r.target :: r.authorization.toList)

/-- Reads a request. A line without a target asks for the empty one. -/
def Request.ofLine (line : String) : Request :=
  match line.splitOn " " with
  | method :: target :: [] => { method, target }
  | method :: target :: rest =>
      { method, target, authorization := some (" ".intercalate rest) }
  | _ => { method := line, target := "" }

def Body.line : Body → String
  | empty => ""
  | text content => content
  | json content => content.compact

def Response.line (r : Response) : String :=
  toString r.status ++ " " ++ r.body.line

end Tollgate
