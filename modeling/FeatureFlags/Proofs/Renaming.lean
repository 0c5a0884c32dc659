import FeatureFlags.Proofs.CacheCoherence
import FeatureFlags.Proofs.Precedence

/-!
# Renamed features

A resolution replaces the key that is asked for by its canonical key, and from then on uses the
asked one in its messages only.  So two keys with one canonical key are one feature, in every
state that a gate gets to: they have the same value, and the same layer gives it.

A legacy key and the key it is a legacy key of are two such keys, unless the latter was renamed
too.  The canonical key of a key is found in one step, so after two renamings the first and the
second key have different canonical keys.  Such keys are two features, and already the defaults
can tell them apart.
-/

namespace FeatureFlags

open Text (trim)

namespace Gate

variable {g : Gate} {s s' : GateState} {store : OverrideStore} {t t' : Trace} {a c k k' : String}

/-! ## Keys with one canonical key -/

/-- Nothing but messages is taken from the key that is asked for. -/
theorem outcome_resolveFresh (hkey : t.normalizedKey = t'.normalizedKey)
    (hchain : t.chain = t'.chain) :
    (g.resolveFresh store t).value.1.outcome = (g.resolveFresh store t').value.1.outcome := by
  cases ho : g.overrides? store t'.normalizedKey t'.chain with
  | none =>
    obtain ⟨e', he'⟩ := value_resolveFresh_of_overrides?_eq_none ho
    rw [← hkey, ← hchain] at ho
    obtain ⟨e, he⟩ := value_resolveFresh_of_overrides?_eq_none ho
    rw [he, he']
    split
    · rfl
    · simp only [outcome_resolveDefault, hkey]
  | some o =>
    have ho' := value_resolveFresh_of_overrides? ho
    rw [← hkey, ← hchain] at ho
    rw [value_resolveFresh_of_overrides? ho, ho']
    cases o.verdict with
    | some value => rfl
    | none => simp only [outcome_resolveDefault, hkey]

theorem outcome_resolve_withoutCache_of_normalize_eq
    (h : g.aliases.normalize k = g.aliases.normalize k') (s : GateState) (context : Context)
    (provided : Option Chain) :
    (g.resolve (withoutCache s) context k provided).value.1.outcome =
      (g.resolve (withoutCache s) context k' provided).value.1.outcome := by
  by_cases hempty : g.aliases.normalize k' = ""
  · rw [value_resolve_of_empty (h.trans hempty), value_resolve_of_empty hempty]
    rfl
  · have hk : g.aliases.normalize k ≠ "" := fun hk => hempty (h.symm.trans hk)
    cases hchain : (g.chainFor context provided).value with
    | error e =>
      rw [value_resolve_of_chain_error hk hchain, value_resolve_of_chain_error hempty hchain]
      rfl
    | ok chain =>
      rw [value_resolve_of_chain hk hchain, value_resolve_of_chain hempty hchain, withoutCache,
        value_resolveIn_noop, value_resolveIn_noop]
      exact outcome_resolveFresh h rfl

/-- Two keys with one canonical key have the same outcome, whatever the caches keep. -/
theorem outcome_resolve (hs : g.Coherent s) (hs' : g.Coherent s') (hstore : s.store = s'.store)
    (h : g.aliases.normalize k = g.aliases.normalize k') (context : Context)
    (provided : Option Chain) :
    (g.resolve s context k provided).value.1.outcome =
      (g.resolve s' context k' provided).value.1.outcome := by
  have hcaches : withoutCache s = withoutCache s' := congrArg (GateState.mk · .noop) hstore
  rw [outcome_resolve_withoutCache hs, outcome_resolve_withoutCache hs', hcaches]
  exact outcome_resolve_withoutCache_of_normalize_eq h ..

/-! ## One renaming -/

/-- A legacy key and a canonical key that was not renamed have the same outcome after every run,
for every actor and every chain, whichever of the two is asked first. -/
theorem legacy_key_same_feature (g : Gate) (start : GateState)
    (hcache : start.cache.entries = []) (requests : List Request) (legacy canonical : String)
    (hlegacy : legacy ∈ g.aliases.aliasesFor canonical)
    (hcanonical : g.aliases.isAlias canonical = false) (between : List Request)
    (hbetween : ∀ q ∈ between, q.isResolve = true) (context : Context)
    (provided : Option Chain) :
    let s := (g.run start requests).2
    let s' := (g.run s between).2
    (g.resolve s context legacy provided).value.1.outcome =
        (g.resolve s' context canonical provided).value.1.outcome ∧
      (g.resolve s context canonical provided).value.1.outcome =
        (g.resolve s' context legacy provided).value.1.outcome := by
  intro s s'
  have hs : g.Coherent s := coherent_run (coherent_of_entries_eq_nil hcache) requests
  have hs' : g.Coherent s' := coherent_run hs between
  have hstore : s.store = s'.store := (store_run_of_isResolve hbetween s).symm
  have hkey : g.aliases.normalize legacy = g.aliases.normalize canonical := by
    rw [g.consistent_aliases.normalize_of_mem_aliasesFor hlegacy,
      AliasTable.normalize_of_not_isAlias hcanonical]
  exact ⟨outcome_resolve hs hs' hstore hkey context provided,
    outcome_resolve hs hs' hstore hkey.symm context provided⟩

/-- The feature is turned on under its legacy key, and then off for a tenant. -/
def offForTenant : List Request :=
  [.update " old" .system (some true) ⟨"ann", "user", "Ann"⟩,
    .update "new" (.tenant "t") (some false) ⟨"ann", "user", "Ann"⟩]

theorem legacy_key_same_feature_offForTenant :
    let s := (Gate.renaming.run .initial offForTenant).2
    let asked := Request.resolve (.ofClaims { tenantId := "t" }) "old" none
    let s' := (Gate.renaming.run s [asked]).2
    "old" ∈ Gate.renaming.aliases.aliasesFor " new " ∧
      Gate.renaming.aliases.isAlias " new " = false ∧
      (Gate.renaming.resolve s (.ofClaims { tenantId := "t" }) "old" none).value.1.outcome =
        (Gate.renaming.resolve s' (.ofClaims { tenantId := "t" }) " new " none).value.1.outcome ∧
      (Gate.renaming.resolve s (.ofClaims { tenantId := "t" }) "old" none).value.1.outcome =
        (some false, false, .override) := by
  dsimp only
  have hlegacy : "old" ∈ Gate.renaming.aliases.aliasesFor " new " := by decide +kernel
  have hcanonical : Gate.renaming.aliases.isAlias " new " = false := by decide +kernel
  have hsame := (legacy_key_same_feature .renaming .initial rfl offForTenant "old" " new " hlegacy
    hcanonical [.resolve (.ofClaims { tenantId := "t" }) "old" none]
    (List.forall_mem_singleton.2 rfl) (.ofClaims { tenantId := "t" }) none).1
  exact ⟨hlegacy, hcanonical, hsame, by decide +kernel⟩

/-! ## Two renamings -/

/-- A gate over the store for which a feature was renamed twice. -/
def renamingTwice : Gate where
  config := { aliases := .ofList [("first", "second"), ("second", "third")] }
  accepted := rfl
  normalizer := .standard
  collaborators := { reader := some .ofStore, writer := some .ofStore }

/-- The feature is turned on under its last key, and then off under its first. -/
def onThenOff : List Request :=
  [.update "third" .system (some true) ⟨"ann", "user", "Ann"⟩,
    .update "first" .system (some false) ⟨"ann", "user", "Ann"⟩]

/-- After two renamings the first key and the second key, of which it is a legacy key, have
different values. -/
theorem renamed_twice_differs :
    let s := (Gate.renamingTwice.run .initial onThenOff).2
    "first" ∈ Gate.renamingTwice.aliases.aliasesFor "second" ∧
      (Gate.renamingTwice.resolve s {} "first" none).value.1.outcome =
        (some false, false, .override) ∧
      (Gate.renamingTwice.resolve s {} "second" none).value.1.outcome =
        (some true, true, .override) := by
  decide +kernel

/-- The defaults of one key that is on, every other key being off. -/
def onlyOn (key : String) : Defaults := fun k => .ok (.of (k = key))

theorem outcome_of_onlyOn (hreader : g.collaborators.reader = some .ofStore) {on : Bool}
    (hstrategy : g.collaborators.strategy = .favouring on)
    (hdefaults : g.collaborators.defaults = onlyOn c) (hkey : trim k ≠ "") (chain : Chain) :
    (g.resolve .initial {} k (some chain)).value.1.outcome =
      (some (g.aliases.normalize k = c : Bool), (g.aliases.normalize k = c : Bool), .default) := by
  have ho : g.overrides? .empty (g.aliases.normalize k) (g.providedChain chain) = some {} :=
    overrides?_of_not_counts hreader hstrategy fun _ _ => not_counts_empty
  rw [outcome_resolve_of_undecided (coherent_of_entries_eq_nil rfl) (normalize_ne_empty hkey) rfl
    ho rfl, defaultOutcome, hdefaults]
  rfl

/-- If a key was renamed that has a legacy key itself, there are defaults that tell the two apart
before anything is written. -/
theorem exists_defaults_of_isAlias (g : Gate) (on : Bool)
    (hreader : g.collaborators.reader = some .ofStore)
    (hstrategy : g.collaborators.strategy = .favouring on)
    (ha : a ∈ g.aliases.aliasesFor c) (hc : g.aliases.isAlias c = true) (chain : Chain) :
    ∃ defaults : Defaults, (∀ key, ∃ value, defaults key = .ok value) ∧
      let g' : Gate := { g with collaborators := { g.collaborators with defaults } }
      (g'.resolve .initial {} a (some chain)).value.1.outcome ≠
        (g'.resolve .initial {} c (some chain)).value.1.outcome := by
  have haliases := g.consistent_aliases
  have hnorm := haliases.normalize_of_mem_aliasesFor ha
  have hne := haliases.normalize_ne_of_isAlias hc
  have hkey := haliases.trim_ne_empty_of_mem_aliasesFor ha
  have hkey' : trim c ≠ "" := by
    rwa [← hnorm, Ne, haliases.normalize_eq_empty_iff]
  refine ⟨onlyOn (g.aliases.normalize c), fun key => ⟨_, rfl⟩, ?_⟩
  intro g' h
  have hlegacy := outcome_of_onlyOn (g := g') hreader hstrategy rfl hkey chain
  have hcanonical := outcome_of_onlyOn (g := g') hreader hstrategy rfl hkey' chain
  have hvalues : (g.aliases.normalize a = g.aliases.normalize c : Bool) =
      (g.aliases.normalize c = g.aliases.normalize c : Bool) :=
    congrArg (fun o => o.2.1) (hlegacy.symm.trans (h.trans hcanonical))
  rw [decide_eq_decide, hnorm] at hvalues
  exact hne (hvalues.2 rfl).symm

end Gate

end FeatureFlags
