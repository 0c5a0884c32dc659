import FeatureFlags.Proofs.Effects
import FeatureFlags.Proofs.Failures
import FeatureFlags.Proofs.Spelling

/-!
# Resolutions without claims

When the claims of the actor are not to be had, a gate that fails open asks its fallback chain.
It then resolves as if this chain were given: the chain was normalized when the gate was built
and is normalized again when it is given, and it ends with the system either way.

A gate that fails closed fails before it looks at anything but the actor.

A gate that is given a chain asks nobody about the actor.
-/

namespace FeatureFlags

open Text (trim)

namespace Gate

variable {g : Gate} {context : Context} {key : String} {cause : Error}

/-! ## The fallback chain as a chain that is given -/

/-- The configured fallback chain, with the system at its end if that is configured. -/
def fallbackToGive (g : Gate) : Chain :=
  if g.config.appendSystemOnFailure then Chain.withSystem g.config.failureFallbackChain
  else g.config.failureFallbackChain

theorem normalizeChain_fallbackToGive (g : Gate) :
    g.policy.normalizeChain g.fallbackToGive = g.failureChain := by
  rw [fallbackToGive, failureChain]
  split
  · exact g.policy.normalizeChain_withSystem _
  · rfl

/-- The system is not put at the end of the fallback chain a second time. -/
theorem providedChain_fallbackToGive
    (h : g.config.appendSystemOnProvidedChain = false ∨ g.config.appendSystemOnFailure = true) :
    g.providedChain g.fallbackToGive = g.failureChain := by
  rw [providedChain, normalizeChain_fallbackToGive]
  rcases h with h | h
  · simp only [h, Bool.false_eq_true, if_false]
  · simp only [failureChain, h, if_true, Chain.withSystem_withSystem, ite_self]

/-! ## Closed failures -/

/-- Only a gate that fails closed fails for want of claims. -/
theorem code_ne_of_failOpen (hmode : g.config.claimsFailureMode = .failOpen) {s : GateState}
    {provided : Option Chain} {e : Error}
    (h : (g.resolve s context key provided).value.1.result = .error e) :
    e.code ≠ .scopeResolveFailed := by
  by_cases hkey : g.aliases.normalize key = ""
  · rw [value_resolve_of_empty hkey] at h
    obtain rfl := Except.error.inj h
    intro hcode
    cases hcode
  · obtain ⟨layer, cause, hstops, rfl⟩ := (result_resolve_eq_error_iff hkey).1 h
    rw [code_layerError]
    intro hcode
    cases hstops with
    | claims _ hclosed _ => cases hmode.symm.trans hclosed
    | overrides => cases hcode
    | defaults => cases hcode

/-- What a gate asks before it fails closed is about the actor. -/
theorem aboutActor_of_mem_calls {t : Trace} {e : Error} {provided : Option Chain} {call : Call}
    (h : call ∈ Effect.calls ((g.chainFor context provided).effects ++ (g.fail t e).effects)) :
    call = .claims ∨ ∃ subjectId, call = .permissions subjectId := by
  rw [Effect.calls_append, calls_fail, List.append_nil] at h
  cases (g.only_chainFor context provided).of_mem_calls h with
  | claims => exact .inl rfl
  | permissions => exact .inr ⟨_, rfl⟩

/-! ## Chains that are given -/

/-- The gate with others to ask about the actor. -/
def withProviders (g : Gate) (claims : ClaimsProvider) (permissions : Option PermissionProvider) :
    Gate :=
  { g with collaborators := { g.collaborators with claims, permissions } }

section Providers

variable (g : Gate) (claims : ClaimsProvider) (permissions : Option PermissionProvider)

theorem decideAliases_withProviders (reader : OverrideReader) (store : OverrideStore)
    (chain : Chain) (key : String) (aliases : List String) :
    (g.withProviders claims permissions).decideAliases reader store chain key aliases =
      g.decideAliases reader store chain key aliases := by
  induction aliases with
  | nil => rfl
  | cons legacy rest ih =>
    simp only [decideAliases, ih]
    rfl

/-- Once there is a chain, the providers are asked nothing more. -/
theorem resolveFresh_withProviders (store : OverrideStore) (t : Trace) :
    (g.withProviders claims permissions).resolveFresh store t = g.resolveFresh store t := by
  have hask :
      (g.withProviders claims permissions).askOverrides store t = g.askOverrides store t := by
    simp only [askOverrides, decideOverrides, decideAliases_withProviders]
    rfl
  simp only [resolveFresh, hask]
  rfl

/-- Whoever is asked about the actor is not asked when a chain is given. -/
theorem resolve_withProviders (s : GateState) (context context' : Context) (key : String)
    (chain : Chain) :
    (g.withProviders claims permissions).resolve s context' key (some chain) =
      g.resolve s context key (some chain) := by
  simp only [resolve, resolveIn, resolveFresh_withProviders]
  rfl

end Providers

/-! ## The main theorem -/

/-- Without claims a gate that fails open resolves as if its fallback chain were given, and a gate
that fails closed fails without a look at its state or at anyone who knows of the feature.  With a
chain that is given, claims play no part. -/
theorem resolve_without_claims (g : Gate) (context : Context) (key : String) :
    (∀ cause, g.LacksClaims context cause →
      (g.config.claimsFailureMode = .failOpen →
        g.config.appendSystemOnProvidedChain = false ∨ g.config.appendSystemOnFailure = true →
        ∀ s, (g.resolve s context key none).value =
          (g.resolve s context key (some g.fallbackToGive)).value) ∧
      (g.config.claimsFailureMode = .failClosed → trim key ≠ "" → ∃ r effects e,
        (∀ s, g.resolve s context key none = ⟨(r, s.cache), effects⟩) ∧
        (∀ call ∈ Effect.calls effects,
          call = .claims ∨ ∃ subjectId, call = .permissions subjectId) ∧
        r.result = .error e ∧ e.code = .scopeResolveFailed ∧ e.rootCode = cause.rootCode)) ∧
    (g.config.claimsFailureMode = .failOpen → ∀ s provided e,
      (g.resolve s context key provided).value.1.result = .error e →
        e.code ≠ .scopeResolveFailed) ∧
    (∀ claims permissions s context' chain,
      (g.withProviders claims permissions).resolve s context' key (some chain) =
        g.resolve s context key (some chain)) := by
  refine ⟨fun cause hlacks => ⟨fun hmode happend s => ?_, fun hmode hkey => ?_⟩, ?_, ?_⟩
  · have hchain := value_chainFor_of_failOpen hmode hlacks
    refine value_resolve_congr hchain ?_ s
    exact congrArg Except.ok (providedChain_fallbackToGive happend)
  · have hchain := value_chainFor_eq_error_iff.2 ⟨rfl, hmode, hlacks⟩
    exact ⟨_, _, _, resolve_of_chain_error (normalize_ne_empty hkey) hchain,
      fun _ => aboutActor_of_mem_calls, rfl, rfl, rfl⟩
  · exact fun hmode _ _ _ => code_ne_of_failOpen hmode
  · exact fun claims permissions s context' chain =>
      g.resolve_withProviders claims permissions s context context' key chain

/-- A gate whose further permissions are not to be had, in either mode. -/
def withoutPermissions (mode : ClaimsFailureMode) : Gate where
  config := {
    claimsFailureMode := mode
    appendSystemOnProvidedChain := true
    failureFallbackChain := [⟨.tenant, " acme ", "", ""⟩] }
  accepted := rfl
  normalizer := .standard
  collaborators := {
    reader := some .ofStore
    permissions := some fun _ _ => .error (.adapter "down") }

theorem resolve_without_claims_withoutPermissions :
    (∀ s, ((withoutPermissions .failOpen).resolve s {} "f" none).value =
      ((withoutPermissions .failOpen).resolve s {} "f"
        (some [⟨.tenant, " acme ", "", ""⟩, .system])).value) ∧
    (∃ e, ((withoutPermissions .failOpen).resolve ⟨.empty, .noop⟩ {} " " none).value.1.result =
      .error e ∧ e.code ≠ .scopeResolveFailed) ∧
    ∃ r effects e,
      (∀ s, (withoutPermissions .failClosed).resolve s {} "f" none = ⟨(r, s.cache), effects⟩) ∧
      r.result = .error e ∧ e.code = .scopeResolveFailed ∧ e.rootCode = .adapterFailed := by
  have hlacks (mode : ClaimsFailureMode) :
      (withoutPermissions mode).LacksClaims {} (.adapter "down") := .permissions rfl rfl rfl
  obtain ⟨hopen, -, -⟩ := resolve_without_claims (withoutPermissions .failOpen) {} "f"
  obtain ⟨-, hcode, -⟩ := resolve_without_claims (withoutPermissions .failOpen) {} " "
  obtain ⟨hclosed, -, -⟩ := resolve_without_claims (withoutPermissions .failClosed) {} "f"
  refine ⟨(hopen _ (hlacks _)).1 rfl (.inr rfl), ?_, ?_⟩
  · exact ⟨_, rfl, hcode rfl ⟨.empty, .noop⟩ none _ rfl⟩
  · obtain ⟨r, effects, e, hr, -, he, hcode, hroot⟩ := (hclosed _ (hlacks _)).2 rfl (by decide)
    exact ⟨r, effects, e, hr, he, hcode, hroot⟩

end Gate

end FeatureFlags
