import Tollgate.Proofs.Config.StartsOut
import Tollgate.Service.Basic

/-!
A settings file that is read again while it is being written. What is taken up
from the beginning of a text are settings of that text, or settings as if they
had not been written, but for one that the beginning may end in.
-/

namespace Tollgate

/-! The beginning of a text -/

namespace Settings

variable {p b : Settings} {text written : String}

end Settings

/-! The running program -/

namespace Service

variable {s : Service} {file : WatchedFile} {written : String} {count : Nat}
  {b : Settings}

/-- A text that ends within a number, and the same text with the rest of it. -/
def begun : String :=
  "[admin]\napi_key = \"secret\"\n\n[budget]\ndefault_limit = 7"

@[inherit_doc begun]
def ended : String :=
  "[admin]\napi_key = \"secret\"\n\n[budget]\ndefault_limit = 75.0\n"

end Service

end Tollgate
