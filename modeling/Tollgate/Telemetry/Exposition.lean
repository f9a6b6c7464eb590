import Tollgate.Telemetry.Record

/-!
The metrics page: one line for each counter and gauge.
-/

namespace Tollgate

/-- The text of a label value between its quotes. A backslash is held until it
is clear what it is for: one before a quote begins the escape of the quote, the
first of two stands for both, and any other is written twice. -/
def escapedLabel (held : Bool) : List Char → List Char
  | [] => settled held
  | c :: rest =>
      if c = '\n' then '\\' :: 'n' :: escapedLabel held rest
      else if c = '"' then '\\' :: '"' :: escapedLabel false rest
      else if c = '\\' then settled held ++ escapedLabel (!held) rest
      else settled held ++ c :: escapedLabel false rest
where
  settled (held : Bool) : List Char := if held then ['\\', '\\'] else []

def labelText (name value : String) : String :=
  name ++ "=" ++ String.ofList ('"' :: escapedLabel false value.toList ++ ['"'])

def Sample.line (s : Sample Nat) : String :=
  let labels := match s.labels with
    | [] => ""
    | labels =>
        "\x7b" ++ ",".intercalate
          (labels.map fun (name, value) => labelText name value) ++ "\x7d"
  s.name ++ labels ++ " " ++ toString s.value

def Telemetry.exposition (t : Telemetry) : List String :=
  let gauges := t.gauges.map fun s =>
    ({ s with value := s.value.gauge } : Sample Nat)
  sortBy (· ≤ ·) ((t.counters ++ gauges).map Sample.line)

end Tollgate
