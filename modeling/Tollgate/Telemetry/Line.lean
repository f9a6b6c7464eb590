import Tollgate.Json.Value
import Tollgate.Number.Layout
import Tollgate.Telemetry.Event

/-!
Log lines: an event as a line of text, or as a JSON object.
-/

namespace Tollgate

namespace FieldValue

def text : FieldValue → String
  | quoted text => Tollgate.quoted text
  | shown text => text
  | number n => toString n
  | float x => FloatStyle.logged.render x

def json : FieldValue → Json
  | quoted text | shown text => .string text
  | number n => .integer n
  | float x => .ofFloat x

end FieldValue

inductive LogFormat where
  | text
  | json
deriving DecidableEq

inductive LogLine where
  | text (line : String)
  | json (line : Json)

namespace LogEvent

def text (e : LogEvent) : String :=
  e.level.name ++ " " ++ e.target ++ ": " ++ " ".intercalate
    (e.message :: e.fields.map fun (name, value) => name ++ "=" ++ value.text)

/-- An event as JSON. The message is one of the fields. -/
def json (e : LogEvent) : Json :=
  .object [
    ("level", .string e.level.name),
    ("target", .string e.target),
    ("fields", .object (("message", .string e.message) ::
      e.fields.map fun (name, value) => (name, value.json)))]

def line (e : LogEvent) : LogFormat → LogLine
  | .text => .text e.text
  | .json => .json e.json

end LogEvent

end Tollgate
