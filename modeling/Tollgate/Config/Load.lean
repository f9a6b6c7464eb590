import Tollgate.Config.Decode
import Tollgate.Config.Violation

/-!
Settings from a text or a file: read, decoded and checked.
-/

namespace Tollgate

inductive FileContent where
  | missing
  | directory
  | bytes (content : ByteArray)

inductive FileError where
  | notFound
  | isDirectory
  | notUtf8
deriving DecidableEq

def FileError.message : FileError → String
  | notFound => "No such file or directory (os error 2)"
  | isDirectory => "Is a directory (os error 21)"
  | notUtf8 => "stream did not contain valid UTF-8"

inductive ConfigError where
  | file (error : FileError)
  | malformed
  | invalid (violations : List Violation)
deriving DecidableEq

def ConfigError.message : ConfigError → String
  | file error => "IO error: " ++ error.message
  | malformed => "Parse error"
  | invalid violations =>
      "Validation failed: " ++ ", ".intercalate (violations.map (·.message))

namespace Settings

def check (s : Settings) : Except ConfigError Settings :=
  match s.violations with
  | [] => .ok s
  | violations => .error (.invalid violations)

def ofToml (text : String) : Except ConfigError Settings :=
  match (Toml.parse text.toList).bind Decode.settings with
  | none => .error .malformed
  | some s => s.check

def ofFile : FileContent → Except ConfigError Settings
  | .missing => .error (.file .notFound)
  | .directory => .error (.file .isDirectory)
  | .bytes content =>
      match String.fromUTF8? content with
      | none => .error (.file .notUtf8)
      | some text => ofToml text

end Settings

end Tollgate
