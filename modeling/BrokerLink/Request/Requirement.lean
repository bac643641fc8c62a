import BrokerLink.Error
import BrokerLink.Version

/-!
# Requirements

A request may use features that not every server has. Each use is a requirement, and
a request is sent only if all of them are met; the first that is not is reported.
-/

namespace BrokerLink

/-- A feature, whether a request uses it, and the first version that has it. -/
structure Requirement where
  since : Version
  feature : String
  used : Bool := true
  deriving DecidableEq, Repr

namespace Requirement

/-- A feature that is not used is no obstacle. -/
def isMet (version : Version) (r : Requirement) : Bool := !r.used || version.supports r.since

def firstUnmet (version : Version) (rs : List Requirement) : Option Requirement :=
  rs.find? fun r => !r.isMet version

theorem firstUnmet_eq_none_iff {version : Version} {rs : List Requirement} :
    firstUnmet version rs = none ↔ ∀ r ∈ rs, r.isMet version = true := by
  simp [firstUnmet, List.find?_eq_none]

end Requirement
end BrokerLink
