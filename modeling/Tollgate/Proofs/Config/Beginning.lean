import Tollgate.Proofs.Config.Fields

/-!
The sections of settings from documents of which one is a part of the other: of
each field what became of it, and in which place of the section.
-/

namespace Tollgate

open Toml (Value Entries Place Step Torn)

def Threshold.name : Threshold → String
  | failMax => "fail_max"
  | resetTimeout => "reset_timeout_ms"
  | timeWindow => "time_window_ms"

def Threshold.width : Threshold → Nat
  | failMax => 32
  | resetTimeout | timeWindow => 64

namespace Decode

section
variable {place : Place} {v w : Value} (within : Value.Within place v w)
include within

end

end Decode

end Tollgate
