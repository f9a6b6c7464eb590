import Tollgate.Config.Load
import Tollgate.Telemetry.Event

/-!
Watching a settings file. Whenever it changes it is read again, and settings
that are whole and valid are handed on; anything else is logged and left.
-/

namespace Tollgate

inductive FileChange where
  /-- The content is replaced in place. -/
  | write (text : String)
  | touch

/-- A text that replaces a content in place and is filled up with empty lines
to the old length. -/
def overwrite (old : FileContent) (text : String) : FileContent :=
  let new := text.toUTF8
  let fill := match old with
    | .bytes content => content.size - new.size
    | _ => 0
  .bytes (new ++ ⟨Array.replicate fill 10⟩)

def FileChange.apply (change : FileChange) (old : FileContent) : FileContent :=
  match change with
  | .write text => overwrite old text
  | .touch => old

def reread (path : String) (content : FileContent) :
    Except ConfigError Settings × LogEvent :=
  match Settings.ofFile content with
  | .ok settings => (.ok settings, .configReloaded path)
  | .error error => (.error error, .configRejected path error.message)

def watch (content : FileContent) : List FileChange →
    List (Except ConfigError Settings)
  | [] => []
  | change :: rest =>
      let content := change.apply content
      Settings.ofFile content :: watch content rest

end Tollgate
