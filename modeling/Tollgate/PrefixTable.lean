import Tollgate.Config.Settings
import Tollgate.Sorting
import Tollgate.Text.Lowercase

/-!
Tables from name beginnings to values. The longest beginning that fits a name
wins, in any letter case; a name that none fits has the fallback value. Both
the routing of models to providers and their prices are such tables.
-/

namespace Tollgate

structure PrefixTable (α : Type) where
  /-- Lower-cased beginnings with their values, longest first. -/
  entries : List (String × α)
  fallback : α

namespace PrefixTable

def notShorter (a b : String × α) : Bool :=
  b.1.utf8ByteSize ≤ a.1.utf8ByteSize

/-- The first of two beginnings is longer, or as long and not later as a
text. -/
def ranksFirst (a b : String × α) : Bool :=
  b.1.utf8ByteSize < a.1.utf8ByteSize ||
    (b.1.utf8ByteSize = a.1.utf8ByteSize && a.1 ≤ b.1)

/-- Of beginnings that are equal in lower case the first listed counts, if the
order has them equal. -/
def ofList (order : String × α → String × α → Bool)
    (listed : List (String × α)) (fallback : α) : PrefixTable α where
  entries := sortBy order (listed.map fun e => (lowercase e.1, e.2))
  fallback := fallback

def fits (beginning name : String) : Bool :=
  beginning.toList.isPrefixOf (lowercase name).toList

def entryFor? (t : PrefixTable α) (name : String) : Option (String × α) :=
  t.entries.find? fun e => fits e.1 name

def lookup (t : PrefixTable α) (name : String) : α :=
  ((t.entryFor? name).map (·.2)).getD t.fallback

end PrefixTable

/-! Routing -/

abbrev ProviderTable := PrefixTable String

def RoutingRule.entry (rule : RoutingRule) : String × String :=
  (rule.modelPrefix, rule.provider)

def RoutingSettings.table (r : RoutingSettings) : ProviderTable :=
  .ofList PrefixTable.notShorter (r.rules.map (·.entry)) r.defaultProvider

/-! Pricing -/

abbrev PriceTable := PrefixTable TokenPrice

def PricingSettings.tableOf (p : PricingSettings)
    (listed : List (String × TokenPrice)) : PriceTable :=
  .ofList PrefixTable.ranksFirst listed p.fallback

def PricingSettings.table (p : PricingSettings) : PriceTable :=
  p.tableOf p.models.entries

/-- The price of a call that uses all the output tokens it may. -/
def TokenPrice.estimate (p : TokenPrice) (inputTokens maxOutputTokens : Nat) :
    Float :=
  let input := Float.ofNat inputTokens / 1000000.0 * p.inputPerMillion
  let output := Float.ofNat maxOutputTokens / 1000000.0 * p.outputPerMillion
  input + output

def PriceTable.estimate (t : PriceTable) (model : String)
    (inputTokens maxOutputTokens : Nat) : Float :=
  (t.lookup model).estimate inputTokens maxOutputTokens

end Tollgate
