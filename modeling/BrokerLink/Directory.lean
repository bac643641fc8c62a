/-!
# Directories

Small entries of the lists that a server sends for reference.
-/

namespace BrokerLink

/-- The family an account belongs to. -/
structure FamilyCode where
  accountId : String
  familyCode : String
  deriving DecidableEq, Inhabited

/-- A source of news. -/
structure NewsProvider where
  code : String
  name : String
  deriving DecidableEq, Inhabited

end BrokerLink
