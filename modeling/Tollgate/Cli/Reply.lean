import Tollgate.Json.Reader
import Tollgate.Json.Writer

/-!
What the management program makes of an answer of the admin interface.
-/

namespace Tollgate.Cli

structure Reply where
  status : Nat
  body : String

def statusNames : List (Nat × String) := [
  (100, "Continue"), (101, "Switching Protocols"), (102, "Processing"),
  (103, "Early Hints"), (200, "OK"), (201, "Created"), (202, "Accepted"),
  (203, "Non Authoritative Information"), (204, "No Content"),
  (205, "Reset Content"), (206, "Partial Content"), (207, "Multi-Status"),
  (208, "Already Reported"), (226, "IM Used"), (300, "Multiple Choices"),
  (301, "Moved Permanently"), (302, "Found"), (303, "See Other"),
  (304, "Not Modified"), (305, "Use Proxy"), (307, "Temporary Redirect"),
  (308, "Permanent Redirect"), (400, "Bad Request"), (401, "Unauthorized"),
  (402, "Payment Required"), (403, "Forbidden"), (404, "Not Found"),
  (405, "Method Not Allowed"), (406, "Not Acceptable"),
  (407, "Proxy Authentication Required"), (408, "Request Timeout"),
  (409, "Conflict"), (410, "Gone"), (411, "Length Required"),
  (412, "Precondition Failed"), (413, "Payload Too Large"),
  (414, "URI Too Long"), (415, "Unsupported Media Type"),
  (416, "Range Not Satisfiable"), (417, "Expectation Failed"),
  (418, "I'm a teapot"), (421, "Misdirected Request"),
  (422, "Unprocessable Entity"), (423, "Locked"), (424, "Failed Dependency"),
  (425, "Too Early"), (426, "Upgrade Required"), (428, "Precondition Required"),
  (429, "Too Many Requests"), (431, "Request Header Fields Too Large"),
  (451, "Unavailable For Legal Reasons"), (500, "Internal Server Error"),
  (501, "Not Implemented"), (502, "Bad Gateway"), (503, "Service Unavailable"),
  (504, "Gateway Timeout"), (505, "HTTP Version Not Supported"),
  (506, "Variant Also Negotiates"), (507, "Insufficient Storage"),
  (508, "Loop Detected"), (510, "Not Extended"),
  (511, "Network Authentication Required")]

def statusText (status : Nat) : String :=
  let name := ((statusNames.find? (·.1 == status)).map (·.2)).getD
    "<unknown status code>"
  toString status ++ " " ++ name

structure Report where
  exitCode : Nat
  output : String := ""
  complaint : Option String := none

/-- A success prints its body, laid out anew; one without content prints
nothing. -/
def Reply.report (r : Reply) : Report :=
  if r.status < 200 || 300 ≤ r.status then
    { exitCode := 1
      complaint := some ("Error: Admin API returned status " ++
        statusText r.status ++ "\nResponse: " ++ r.body ++ "\n") }
  else if r.status = 204 then { exitCode := 0 }
  else match Json.parse r.body with
    | some json => { exitCode := 0, output := json.pretty ++ "\n" }
    | none => { exitCode := 1 }

end Tollgate.Cli
