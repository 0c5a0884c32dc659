import FeatureFlags.Gate.Resolve
import FeatureFlags.Guard

/-!
# Gates behind a guard

A guard asks its gate once for each key, so the cache after one question is the cache before
the next.
-/

namespace FeatureFlags

namespace Gate

/-- Whether a feature is on.  The cache is the state. -/
def enabled (g : Gate) (store : OverrideStore) (context : Context) (provided : Option Chain)
    (key : String) : StateT ResolveCache Observed (Except Error Bool) := fun cache => do
  let (r, cache) ← g.resolve ⟨store, cache⟩ context key provided
  pure (r.result, cache)

/-- Lets the caller pass when the key or a fallback key is on.  The cache is the state. -/
def require (g : Gate) (store : OverrideStore) (context : Context) (key : String)
    (o : GuardOptions) : StateT ResolveCache Observed (Except Rejection Unit) :=
  Guard.require (g.enabled store context none) (fun r => StateT.lift (.log r)) key o

end Gate

end FeatureFlags
