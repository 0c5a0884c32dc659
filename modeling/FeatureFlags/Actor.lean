/-!
# Actors

An actor comes in two views.  Its claims say what applies to it when a feature is resolved.
Its reference is noted when it changes an override.
-/

namespace FeatureFlags

/-- Who asks, and what that one belongs to and holds. -/
structure Claims where
  /-- The user. -/
  subjectId : String := ""
  /-- The tenant of the user. -/
  tenantId : String := ""
  /-- The organisation of the user. -/
  orgId : String := ""
  /-- The roles held. -/
  roles : List String := []
  /-- The permissions held. -/
  perms : List String := []
deriving DecidableEq, Repr, Inhabited

/-- The claims with further permissions at the end. -/
def Claims.mergePerms (c : Claims) (extra : List String) : Claims :=
  { c with perms := c.perms ++ extra }

/-- Who changed an override. -/
structure Actor where
  /-- The identifier. -/
  id : String
  /-- What sort of actor it is. -/
  sort : String
  /-- A name to show. -/
  name : String
deriving DecidableEq, Repr, Inhabited

end FeatureFlags
