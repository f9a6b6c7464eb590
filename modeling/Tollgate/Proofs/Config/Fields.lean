import Tollgate.Proofs.Config.Setting
import Tollgate.Proofs.Toml.Neat

/-!
Values and fields read from documents of which one is a part of the other.
-/

namespace Tollgate

open Toml (Value Entries Place Step Torn)

namespace Decode

variable {α : Type} {place : Place} {v w : Value}

/-! Single values -/

section
variable {f g : Fields} {i : Nat} {n : String} {item : Value → Option α}
  {a b default : α}

end

/-! Maps and lists -/

end Decode

end Tollgate
