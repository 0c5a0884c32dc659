import FeatureFlags.Gate.Basic

/-!
# Resolution

A resolution answers whether a feature is on, and says how it came to the answer.

1. The key is trimmed and replaced by its canonical key.  An empty key is an error.
2. The chain is the one that is given, or else the one that the claims of the actor lead to.
   Without claims it is the fallback chain, or the resolution fails, as configured.
3. An answer that is kept for the canonical key and the chain is repeated.
4. The overrides of the canonical key are asked, and then those of its legacy keys, until one
   of these keys has an override that decides.
5. Without such an override the default of the canonical key is asked, and without a default
   the feature is off.
6. The answer is kept, unless the overrides could not be read.

Every resolution ends with a line in the log, and every resolve hook is told of it.
-/

namespace FeatureFlags

/-- The answer of a gate, and how it came about. -/
structure Resolution where
  /-- Whether the feature is on. -/
  result : Except Error Bool
  /-- How the answer came about. -/
  trace : Trace

namespace Gate

/-! ## The chain -/

/-- The chain when the claims are not to be had. -/
def withoutClaims (g : Gate) (e : Error) : Observed (Except Error Chain) :=
  match g.config.claimsFailureMode with
  | .failClosed => pure (.error e)
  | .failOpen => do
    .log ⟨.warn, "claims resolution failed, using fallback chain", [("error", e.message)]⟩
    pure (.ok g.failureChain)

/-- The claims of the actor with the further permissions. -/
def fullClaims (g : Gate) (context : Context) : Observed (Except Error Claims) := do
  .ask .claims
  match g.collaborators.claims context with
  | .error e => pure (.error e)
  | .ok claims =>
    match g.collaborators.permissions with
    | none => pure (.ok claims)
    | some permissions => do
      .ask (.permissions claims.subjectId)
      pure ((permissions context claims).map claims.mergePerms)

/-- The chain that is asked. -/
def chainFor (g : Gate) (context : Context) (provided : Option Chain) :
    Observed (Except Error Chain) :=
  match provided with
  | some chain => pure (.ok (g.providedChain chain))
  | none => do
    match ← g.fullClaims context with
    | .error e => g.withoutClaims e
    | .ok claims => pure (.ok (g.policy.derive claims))

/-! ## The overrides -/

/-- What the strategy makes of the overrides of one key. -/
def decideKey (g : Gate) (reader : OverrideReader) (store : OverrideStore) (chain : Chain)
    (key : String) : Observed (Except Error Decision) := do
  .ask (.readOverrides key)
  match reader store key chain with
  | .error e => pure (.error e)
  | .ok found => do
    .ask (.decide key found.length)
    pure (g.collaborators.strategy.decide key chain found g.policy.order)

/-- The first of some legacy keys whose overrides decide, and the decision. -/
def decideAliases (g : Gate) (reader : OverrideReader) (store : OverrideStore) (chain : Chain)
    (key : String) : List String → Observed (Except Error (Option (String × Decision)))
  | [] => pure (.ok none)
  | legacy :: rest => do
    match ← g.decideKey reader store chain legacy with
    | .error e => pure (.error e)
    | .ok decision =>
      if decision.verdict.isSome then do
        .log ⟨.debug, "override matched under legacy key", [("key", key), ("alias", legacy)]⟩
        pure (.ok (some (legacy, decision)))
      else g.decideAliases reader store chain key rest

/-- The decision about a canonical key.  It is the decision of the key itself if that decides,
else of its first legacy key that decides. -/
def decideOverrides (g : Gate) (reader : OverrideReader) (store : OverrideStore) (chain : Chain)
    (key : String) : Observed (Except Error (Decision × Option String)) := do
  match ← g.decideKey reader store chain key with
  | .error e => pure (.error e)
  | .ok decision =>
    if decision.verdict.isSome then pure (.ok (decision, none))
    else do
      match ← g.decideAliases reader store chain key (g.aliases.aliasesFor key) with
      | .error e => pure (.error e)
      | .ok none => pure (.ok (decision, none))
      | .ok (some (legacy, decision)) => pure (.ok (decision, some legacy))

/-- The error of a resolution whose overrides could not be read. -/
def readError (g : Gate) (t : Trace) (cause : Error) : Error :=
  cause.wrap .storeReadFailed
    { ErrorMeta.forKey t.key t.normalizedKey "get_all" with
      chain := some t.chain, store := some "override", strict := some g.config.strictStore }

/-- What the overrides say, if there is anyone to read them. -/
def askOverrides (g : Gate) (store : OverrideStore) (t : Trace) : Observed OverrideTrace :=
  match g.collaborators.reader with
  | none => pure {}
  | some reader => do
    match ← g.decideOverrides reader store t.chain t.normalizedKey with
    | .ok (decision, legacy) => pure { toDecision := decision, «alias» := legacy }
    | .error e => pure { error := some (g.readError t e) }

/-! ## The defaults -/

/-- The error of a resolution whose default could not be asked. -/
def defaultError (t : Trace) (cause : Error) : Error :=
  cause.wrap .defaultLookupFailed
    { ErrorMeta.forKey t.key t.normalizedKey "default" with chain := some t.chain }

/-- What the defaults say. -/
def askDefaults (g : Gate) (t : Trace) : Observed DefaultTrace := do
  .ask (.defaultFor t.normalizedKey)
  match g.collaborators.defaults t.normalizedKey with
  | .ok d => pure { toDefaultResult := d, checked := true }
  | .error e => pure { checked := true, error := some (defaultError t e) }

/-! ## The end of a resolution -/

/-- Every resolve hook is told of a resolution. -/
def tellResolve (g : Gate) (event : ResolveEvent) : Observed Unit :=
  .all (g.collaborators.resolveHooks.zipIdx.flatMap fun (hook, i) =>
    .toldResolve i event :: (hook event).map .logged)

/-- The resolution fails. -/
def fail (g : Gate) (t : Trace) (e : Error) : Observed Resolution := do
  let t := { t with value := false, source := .fallback }
  .log ⟨.debug, "feature resolution failed", [("key", t.normalizedKey), ("error", e.message)]⟩
  g.tellResolve (.ofTrace t (some e))
  pure ⟨.error e, t⟩

/-- The resolution has an answer. -/
def finish (g : Gate) (t : Trace) : Observed Resolution := do
  .log ⟨.debug, "feature resolved", [("key", t.normalizedKey), ("value", Inspect.bool t.value),
    ("source", t.source.name), ("chain", Chain.display t.chain)]⟩
  g.tellResolve (.ofTrace t none)
  pure ⟨.ok t.value, t⟩

/-- The resolution repeats an answer. -/
def replay (g : Gate) (t : Trace) (entry : CacheEntry) : Observed Resolution := do
  let t := { entry.trace with
    key := t.key, normalizedKey := t.normalizedKey, chain := t.chain, value := entry.value,
    cacheHit := true }
  .log ⟨.debug, "feature resolved from cache",
    [("key", t.normalizedKey), ("value", Inspect.bool t.value)]⟩
  g.tellResolve (.ofTrace t none)
  pure ⟨.ok t.value, t⟩

/-! ## Resolutions -/

/-- The trace of a resolution that begins. -/
def begin (g : Gate) (key : String) : Trace where
  key := Text.trim key
  normalizedKey := g.aliases.normalize key
  strategy := g.collaborators.strategy.name
  claimsFailureMode := g.config.claimsFailureMode

/-- The error of a resolution or a change without a key. -/
def keyError (key normalized operation : String) : Error :=
  .ofCode .featureKeyRequired (.forKey key normalized operation)

/-- The error of a resolution without a chain. -/
def chainError (t : Trace) (cause : Error) : Error :=
  cause.wrap .scopeResolveFailed (.forKey t.key t.normalizedKey "resolve_claims")

/-- The trace with the verdict of the overrides. -/
def withVerdict (t : Trace) (value : Bool) : Trace := { t with value, source := .override }

/-- The trace with what the defaults said. -/
def withDefault (t : Trace) (d : DefaultTrace) : Trace :=
  if d.isSet then { t with defaults := d, value := d.value, source := .default }
  else { t with defaults := d, value := false, source := .fallback }

/-- The answer of the defaults, and whether it may be kept. -/
def resolveDefault (g : Gate) (t : Trace) (keep : Bool) : Observed (Resolution × Bool) := do
  let d ← g.askDefaults t
  let t := withDefault t d
  match d.error with
  | some e => do pure (← g.fail t e, false)
  | none => do pure (← g.finish t, keep)

/-- The answer for a chain that is not kept, and whether it may be kept. -/
def resolveFresh (g : Gate) (store : OverrideStore) (t : Trace) :
    Observed (Resolution × Bool) := do
  let o ← g.askOverrides store t
  let t := { t with overrides := o }
  match o.error, o.verdict with
  | some e, _ =>
    if g.config.strictStore then do pure (← g.fail t e, false)
    else do
      .log ⟨.warn, "override store read failed, using defaults",
        [("key", t.normalizedKey), ("error", e.message)]⟩
      g.resolveDefault t false
  | none, some value => do pure (← g.finish (withVerdict t value), true)
  | none, none => g.resolveDefault t true

/-- The answer for a chain, and the cache after it. -/
def resolveIn (g : Gate) (s : GateState) (t : Trace) : Observed (Resolution × ResolveCache) := do
  match s.cache.get t.normalizedKey t.chain with
  | (some entry, cache) => do pure (← g.replay t entry, cache)
  | (none, cache) => do
    let (r, keep) ← g.resolveFresh s.store t
    if keep then pure (r, cache.put t.normalizedKey t.chain ⟨r.trace.value, r.trace⟩)
    else pure (r, cache)

/-- Whether a feature is on, how the answer came about, and the cache after it. -/
def resolve (g : Gate) (s : GateState) (context : Context) (key : String)
    (provided : Option Chain) : Observed (Resolution × ResolveCache) := do
  let t := g.begin key
  if t.normalizedKey = "" then
    pure (← g.fail t (keyError t.key t.normalizedKey "resolve"), s.cache)
  else
    match ← g.chainFor context provided with
    | .error e => do pure (← g.fail t (chainError t e), s.cache)
    | .ok chain => g.resolveIn s { t with chain }

end Gate

end FeatureFlags
