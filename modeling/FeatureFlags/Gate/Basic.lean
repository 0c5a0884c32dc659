import FeatureFlags.Gate.Collaborators
import FeatureFlags.Inspect
import FeatureFlags.Observed
import FeatureFlags.ResolveCache

/-!
# Gates

A gate answers whether a feature is on.  It has a configuration that was accepted, the
spelling rule of the host for roles and permissions, and its collaborators.  What changes while
it works, the stored overrides and the cached answers, is kept beside it.
-/

namespace FeatureFlags

/-- Answers whether features are on. -/
structure Gate where
  /-- How it resolves. -/
  config : GateConfig
  /-- No scope of the fallback chain lacks its identifier. -/
  accepted : config.incompleteScope? = none
  /-- The spelling rule for roles and permissions. -/
  normalizer : Normalizer
  /-- Everyone it works with. -/
  collaborators : Collaborators

/-- What changes while a gate works. -/
structure GateState where
  /-- The stored overrides. -/
  store : OverrideStore
  /-- The answers of earlier resolutions. -/
  cache : ResolveCache
deriving DecidableEq, Inhabited

namespace Gate

/-- The gate of a configuration, if that is accepted. -/
def build (config : GateConfig) (normalizer : Normalizer) (collaborators : Collaborators) :
    Except Error Gate :=
  match h : config.incompleteScope? with
  | none => .ok ⟨config, h, normalizer, collaborators⟩
  | some s => .error (GateConfig.incompleteError s)

/-- How chains are derived. -/
def policy (g : Gate) : ChainPolicy := g.config.chainPolicy g.normalizer

/-- The legacy keys. -/
def aliases (g : Gate) : AliasTable := g.config.aliasTable

/-- The chain that is asked when the claims are not to be had. -/
def failureChain (g : Gate) : Chain :=
  let chain := g.policy.normalizeChain g.config.failureFallbackChain
  if g.config.appendSystemOnFailure then chain.withSystem else chain

/-- The chain that is asked when one is given. -/
def providedChain (g : Gate) (chain : Chain) : Chain :=
  let chain := g.policy.normalizeChain chain
  if g.config.appendSystemOnProvidedChain then chain.withSystem else chain

theorem mem_providedChain {g : Gate} {chain : Chain} {s : Scope}
    (h : s ∈ g.policy.normalizeChain chain) : s ∈ g.providedChain chain := by
  simp only [providedChain]
  split
  · exact Chain.mem_withSystem.2 (.inl h)
  · exact h

/-- The line of the log about a gate that was built. -/
def buildRecord (g : Gate) : LogRecord where
  level := .debug
  message := "feature gate built"
  fields := [("strategy", g.collaborators.strategy.name),
    ("claims_failure_mode", g.config.claimsFailureMode.name),
    ("strict_store", Inspect.bool g.config.strictStore),
    ("aliases", toString g.aliases.size)]

/-- The gate with its strategy, its configuration and who it works with. -/
def inspect (g : Gate) : String :=
  Inspect.openRecord "Gate"
    [("strategy", Inspect.text g.collaborators.strategy.name),
      ("config", g.config.inspect),
      ("has_reader", Inspect.bool g.collaborators.reader.isSome),
      ("has_writer", Inspect.bool g.collaborators.writer.isSome),
      ("resolve_hooks", toString g.collaborators.resolveHooks.length),
      ("activity_hooks", toString g.collaborators.activityHooks.length)]

end Gate

end FeatureFlags
