import FeatureFlags.Actor

/-!
# Contexts

A context goes along with one question.  It holds at most one value of each sort that a
collaborator may want to read: the claims of the actor, the identifier of the request, and a
number.
-/

namespace FeatureFlags

/-- What goes along with one question. -/
structure Context where
  /-- The claims of the actor. -/
  claims : Option Claims := none
  /-- The identifier of the request. -/
  requestId : Option String := none
  /-- A number. -/
  number : Option Int := none
deriving DecidableEq, Repr, Inhabited

namespace Context

/-- The context that holds nothing. -/
def empty : Context := {}

/-- The context that holds claims. -/
def ofClaims (c : Claims) : Context := { claims := some c }

/-- The number of values the context holds. -/
def size (c : Context) : Nat :=
  c.claims.isSome.toNat + c.requestId.isSome.toNat + c.number.isSome.toNat

end Context

end FeatureFlags
