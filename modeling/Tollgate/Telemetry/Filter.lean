import Tollgate.Number.Reading
import Tollgate.Telemetry.Event
import Tollgate.Text.Alphanumeric
import Tollgate.Text.Blank
import Tollgate.Text.Cut
import Tollgate.Text.Split

/-!
Log filters: which events are logged, by their level, the part of the program
that they come from, and the fields that they have. Of the directives that
apply to an event the most specific one decides.
-/

namespace Tollgate

/-- Lets events up to a level pass, by the level's rank. Rank zero lets nothing
pass. -/
structure LogDirective where
  /-- Applies to the parts of the program whose name starts so. -/
  target : Option String := none
  /-- Applies to events that have all of these fields. -/
  fields : List String := []
  /-- Applies within certain spans or to certain values only. No event of the
  program is in a span, and none is told by its values. -/
  narrowed : Bool := false
  maxRank : Nat

structure LogFilter where
  directives : List LogDirective

inductive DirectiveFault where
  | malformed
  /-- A part would have to be cut out within a character. -/
  | torn
deriving DecidableEq

namespace LogDirective

/-! Levels -/

def levelNames : List (String × Nat) := [
  ("off", 0), ("error", 1), ("warn", 2), ("info", 3), ("debug", 4),
  ("trace", 5)]

def rank? (text : List Char) : Option Nat :=
  let digits := match text with
    | '+' :: rest => rest
    | _ => text
  if !digits.isEmpty && digits.all Char.isDigit then
    let rank := digitsValue 10 digits
    if rank ≤ 5 then some rank else none
  else levelNames.lookup (String.ofList (text.map Char.toLower))

/-! Reading `target[span{field,field=value}]=level` -/

inductive Part where
  | start
  | name
  | span (first : Nat)
  | field (first : Nat)
  | afterFields
  | afterSpan
  | level (first : Nat)

structure Draft where
  part : Part := .start
  target : Option String := none
  fields : List String := []
  narrowed : Bool := false

abbrev Attempt (α : Type) := Except DirectiveFault α

def cut (first last : Nat) (text : List Char) : Attempt (List Char) :=
  match cut? first last text with
  | some part => .ok part
  | none => .error .torn

def startsTarget (c : Char) : Bool :=
  isAlphanumeric c || c == '-' || c == ':' || c == '_'

namespace Draft

def addField (d : Draft) (field : List Char) : Draft :=
  let name := String.ofList (field.takeWhile (· != '='))
  { d with
    fields := d.fields ++ [name]
    narrowed := d.narrowed || field.contains '=' }

/-- Takes in the character at a position of the text without blanks at its ends.
Parts are cut out of the whole text, blanks included. -/
def step (whole : List Char) (position : Nat) (d : Draft) (c : Char) :
    Attempt Draft :=
  match d.part with
  | .start =>
      if c = '[' then .ok { d with part := .span (position + 1) }
      else if startsTarget c then .ok { d with part := .name }
      else .error .malformed
  | .name =>
      if c = '=' || c = '[' then do
        let target ← cut 0 position whole
        .ok { d with
          target := some (String.ofList target)
          part := if c = '=' then .level (position + 1)
            else .span (position + 1) }
      else .ok d
  | .span first =>
      if c = ']' then do
        let _ ← cut first position whole
        .ok { d with narrowed := true, part := .afterSpan }
      else if c = '{' then do
        let span ← cut first position whole
        .ok { d with narrowed := !span.isEmpty, part := .field (position + 1) }
      else .ok d
  | .field first =>
      if c = '}' then do
        let field ← cut first position whole
        if field.isEmpty then .error .malformed
        else .ok { d.addField field with part := .afterFields }
      else .ok d
  | .afterFields =>
      if c = ']' then .ok { d with part := .afterSpan } else .error .malformed
  | .afterSpan =>
      if c = '=' then .ok { d with part := .level (position + 1) }
      else .error .malformed
  | .level _ => .ok d

def steps (whole : List Char) (position : Nat) (d : Draft) :
    List Char → Attempt Draft
  | [] => .ok d
  | c :: rest => do
      let d ← d.step whole position c
      d.steps whole (position + c.utf8Size) rest

def directive (d : Draft) (maxRank : Nat) : LogDirective where
  target := d.target
  fields := d.fields
  narrowed := d.narrowed
  maxRank := maxRank

/-- The directive, at the end of its text. Without a level it is for all. -/
def finish (whole : List Char) (d : Draft) : Attempt LogDirective :=
  match d.part with
  | .name =>
      match rank? whole with
      | some maxRank => .ok (d.directive maxRank)
      | none => .ok { d.directive 5 with target := some (String.ofList whole) }
  | .afterSpan => .ok (d.directive 5)
  | .level first =>
      match dropBytes? first whole with
      | none => .error .torn
      | some [] => .ok (d.directive 5)
      | some level =>
          match rank? level with
          | some maxRank => .ok (d.directive maxRank)
          | none => .error .malformed
  | .start | .span _ | .field _ | .afterFields => .error .malformed

end Draft

/-- Reads a directive. Blanks around it are passed over in finding its parts, but
the positions of the parts are not moved: blanks before it shift them. -/
def parse (text : List Char) : Attempt LogDirective := do
  let draft ← Draft.steps text 0 {} (trimBy isWhiteSpace text)
  draft.finish text

/-! Deciding -/

def appliesTo (d : LogDirective) (event : LogEvent) : Bool :=
  let names := "message" :: event.fields.map (·.1)
  let targetFits := match d.target with
    | none => true
    | some start => start.toList.isPrefixOf event.target.toList
  !d.narrowed && targetFits && d.fields.all names.contains

/-- The longer target is more specific; none is less specific than any. -/
def targetSize (d : LogDirective) : Nat :=
  match d.target with
  | none => 0
  | some target => target.utf8ByteSize + 1

def namesAfter : List String → List String → Bool
  | [], _ => false
  | _ :: _, [] => true
  | a :: as, b :: bs => b < a || (a = b && namesAfter as bs)

/-- Whether `a` decides on events to which `b` applies as well: by the target, by
the number of fields, then by the names of the fields. -/
def precedes (a b : LogDirective) : Bool :=
  if a.targetSize ≠ b.targetSize then b.targetSize < a.targetSize
  else if a.fields.length ≠ b.fields.length then
    b.fields.length < a.fields.length
  else namesAfter a.fields b.fields

end LogDirective

namespace LogFilter

/-- A filter without directives lets errors pass. -/
def ofDirectives : List LogDirective → LogFilter
  | [] => ⟨[{ maxRank := LogLevel.error.rank }]⟩
  | directives => ⟨directives⟩

def parts (text : String) : List (List Char) :=
  (splitAtChar ',' text.toList).filter (!·.isEmpty)

def parse (text : String) : LogDirective.Attempt LogFilter := do
  let directives ← (parts text).mapM LogDirective.parse
  .ok (ofDirectives directives)

/-- The directives that can be read, unless one is torn. -/
def readable? : List (List Char) → Option (List LogDirective)
  | [] => some []
  | part :: rest =>
      match LogDirective.parse part with
      | .ok directive => (readable? rest).map (directive :: ·)
      | .error .malformed => readable? rest
      | .error .torn => none

def parseLenient? (text : String) : Option LogFilter :=
  (readable? (parts text)).map ofDirectives

/-- The directive that decides on an event. Of two alike the later one does. -/
def decisive? (f : LogFilter) (event : LogEvent) : Option LogDirective :=
  (f.directives.filter (·.appliesTo event)).foldl keepBetter none
where
  keepBetter (best : Option LogDirective) (d : LogDirective) :
      Option LogDirective :=
    match best with
    | none => some d
    | some b => if b.precedes d then some b else some d

def allows (f : LogFilter) (event : LogEvent) : Bool :=
  match f.decisive? event with
  | none => false
  | some d => event.level.rank ≤ d.maxRank

/-- The filter for a configured level, unless the environment gives a readable
one. There is none if a directive is torn. -/
def ofLevel? (level : String) (override : Option String) : Option LogFilter :=
  let configured :=
    parseLenient? ("inference_gate=" ++ level ++ ",tower_http=info")
  match override.map parse with
  | none | some (.error .malformed) => configured
  | some (.error .torn) => none
  | some (.ok filter) => some filter

end LogFilter

end Tollgate
