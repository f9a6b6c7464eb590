import Tollgate.Assoc

/-!
Command lines: options that take a value, then at most one command with its
operands. Help may be asked for on either level.
-/

namespace Tollgate.Cli

structure OptionSpec where
  name : String
  short : Char
  mayBeEmpty : Bool := true

structure CommandSpec where
  name : String
  operands : Nat

structure Grammar where
  options : List OptionSpec
  /-- Empty for a program without commands. -/
  commands : List CommandSpec

inductive Halt where
  | help
  | usage
deriving DecidableEq

structure Parsed where
  options : Assoc String := .empty
  command : Option (String × List String) := none

namespace Grammar

/-- Gives an option its value. An option may be given once. -/
def give (options : Assoc String) (spec : OptionSpec) (value : String) :
    Except Halt (Assoc String) :=
  if options.contains spec.name || (value = "" && !spec.mayBeEmpty) then
    .error .usage
  else .ok (options.insert spec.name value)

/-- An argument that begins like an option; a single dash does not. -/
def isDashed (arg : String) : Bool :=
  match arg.toList with
  | '-' :: _ :: _ => true
  | _ => false

inductive Token where
  | help
  | option (spec : OptionSpec) (attached : Option String)
  | command (name : String)
  /-- Two dashes: no options follow. -/
  | separator
  | unknown

def longToken (g : Grammar) (text : List Char) : Token :=
  let name := String.ofList (text.takeWhile (· != '='))
  let attached := match text.dropWhile (· != '=') with
    | _ :: value => some (String.ofList value)
    | [] => none
  if name = "help" then
    match attached with
    | none => .help
    | some _ => .unknown
  else match g.options.find? (·.name == name) with
    | some spec => .option spec attached
    | none => .unknown

/-- A short option; what follows its letter is its value. -/
def shortToken (g : Grammar) (letter : Char) (rest : List Char) : Token :=
  if letter = 'h' then .help
  else match g.options.find? (·.short == letter) with
    | none => .unknown
    | some spec =>
        match rest with
        | [] => .option spec none
        | '=' :: value => .option spec (some (String.ofList value))
        | value => .option spec (some (String.ofList value))

def token (g : Grammar) (arg : String) : Token :=
  if g.commands.any (·.name == arg) || (arg == "help" && !g.commands.isEmpty)
  then .command arg
  else match arg.toList with
    | ['-', '-'] => .separator
    | '-' :: '-' :: rest => g.longToken rest
    | '-' :: letter :: rest => g.shortToken letter rest
    | _ => .unknown

/-- The operands of a command. After a double dash everything is one. -/
def operands (count : Nat) : List String → Except Halt (List String)
  | [] => if count = 0 then .ok [] else .error .usage
  | arg :: rest =>
      if arg = "--" then
        if rest.length = count then .ok rest else .error .usage
      else if arg = "--help" || (arg.toList.take 2 == ['-', 'h']) then
        .error .help
      else if isDashed arg then .error .usage
      else match count with
        | 0 => .error .usage
        | count + 1 => (operands count rest).map (arg :: ·)

def helpOn (g : Grammar) (args : List String) : Halt :=
  match args with
  | [] => .help
  | [name] =>
      if name = "help" || g.commands.any (·.name == name) then .help else .usage
  | _ => .usage

/-- The options read so far. The last one may still wait to be given its value,
which happens when the next option is met or the command line ends. -/
structure Reading where
  options : Assoc String := .empty
  waiting : Option (OptionSpec × String) := none

def Reading.settle (r : Reading) : Except Halt (Assoc String) :=
  match r.waiting with
  | none => .ok r.options
  | some (spec, value) => give r.options spec value

/-- A command with the arguments after it. Help on it goes before what is wrong
with the waiting option. -/
def command (g : Grammar) (r : Reading) (name : String)
    (args : List String) : Except Halt Parsed :=
  match g.commands.find? (·.name == name) with
  | none => .error (g.helpOn args)
  | some spec => do
      let operands ← operands spec.operands args
      let options ← r.settle
      .ok ⟨options, some (name, operands)⟩

def parseFrom (g : Grammar) (r : Reading) : List String → Except Halt Parsed
  | [] => do .ok ⟨← r.settle, none⟩
  | arg :: rest =>
      match g.token arg with
      | .help => do
          let _ ← r.settle
          .error .help
      | .unknown => .error .usage
      | .separator =>
          if rest.isEmpty then do .ok ⟨← r.settle, none⟩ else .error .usage
      | .command name => g.command r name rest
      | .option spec attached =>
          match r.settle with
          | .error halt => .error halt
          | .ok options =>
              match attached, rest with
              | some value, rest =>
                  match give options spec value with
                  | .error halt => .error halt
                  | .ok options => g.parseFrom { options } rest
              | none, [] => .error .usage
              | none, value :: rest =>
                  if isDashed value then .error .usage
                  else g.parseFrom { options, waiting := some (spec, value) } rest

def parse (g : Grammar) (args : List String) : Except Halt Parsed := do
  let parsed ← g.parseFrom {} args
  if g.commands.isEmpty || parsed.command.isSome then .ok parsed
  else .error .usage

end Grammar

end Tollgate.Cli
