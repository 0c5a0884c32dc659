import FeatureFlags.Proofs.CacheCoherence
import FeatureFlags.Proofs.Reports
import FeatureFlags.Proofs.Spelling

/-!
# Replay

A resolution reports the chain it asked.  This chain is in its normal spelling, wherever it came
from, so a resolution of the same key that is given the reported chain asks the same chain and
comes to the same answer.  This needs a rule for identifiers that settles, and a chain to which
nothing is added when it is given.

The replay may come after the resolution, when the cache holds what the resolution left there.
-/

namespace FeatureFlags

open Text (trim)

/-- A rule that settles changes nothing in a normalized chain, with the system at its end or
without. -/
theorem ChainPolicy.Settles.normalizeChain_ite {p : ChainPolicy} (hp : p.Settles) (b : Bool)
    (c : Chain) :
    p.normalizeChain (if b then Chain.withSystem (p.normalizeChain c) else p.normalizeChain c) =
      if b then Chain.withSystem (p.normalizeChain c) else p.normalizeChain c := by
  split
  · rw [p.normalizeChain_withSystem, hp.normalizeChain_normalizeChain]
  · exact hp.normalizeChain_normalizeChain c

namespace Gate

variable {g : Gate} {s : GateState} {context : Context} {key : String} {provided : Option Chain}
  {chain : Chain}

/-! ## The reported chain -/

/-- Whatever chain is asked, it is in its normal spelling. -/
theorem normalizeChain_of_chainFor (hp : g.policy.Settles)
    (h : (g.chainFor context provided).value = .ok chain) :
    g.policy.normalizeChain chain = chain := by
  cases provided with
  | some given =>
    obtain rfl := Except.ok.inj h
    exact hp.normalizeChain_ite _ given
  | none =>
    cases hclaims : (g.fullClaims context).value with
    | ok claims =>
      rw [value_chainFor_of_claims hclaims] at h
      obtain rfl := Except.ok.inj h
      exact hp.normalizeChain_derive claims
    | error cause =>
      have hlacks := lacksClaims_of_value_fullClaims hclaims
      cases hmode : g.config.claimsFailureMode with
      | failClosed =>
        cases h.symm.trans (value_chainFor_eq_error_iff.2 ⟨rfl, hmode, hlacks⟩)
      | failOpen =>
        rw [value_chainFor_of_failOpen hmode hlacks] at h
        obtain rfl := Except.ok.inj h
        exact hp.normalizeChain_ite _ g.config.failureFallbackChain

/-- A chain in its normal spelling is asked as it is given, if the system need not be added. -/
theorem providedChain_eq_self (hchain : g.policy.normalizeChain chain = chain)
    (h : chain.hasSystem = true ∨ g.config.appendSystemOnProvidedChain = false) :
    g.providedChain chain = chain := by
  rw [providedChain, hchain]
  rcases h with h | h
  · simp only [Chain.withSystem, h, if_true, ite_self]
  · simp only [h, Bool.false_eq_true, if_false]

theorem chain_resolveIn (s : GateState) (t : Trace) :
    (g.resolveIn s t).value.1.trace.chain = t.chain := by
  cases hget : (s.cache.get t.normalizedKey t.chain).1 with
  | some entry =>
    rw [value_resolveIn_of_hit hget]
    rfl
  | none =>
    rw [value_resolveIn_of_miss hget]
    obtain ⟨a, htrace, -⟩ := g.trace_resolveFresh s.store t
    have hchain := congrArg Trace.chain htrace
    exact hchain

/-! ## The same question again -/

/-- An answer that may be kept is repeated as it was, but for the mark. -/
theorem unmarked_replay_resolveFresh {store : OverrideStore} {t : Trace} {r : Resolution}
    (h : (g.resolveFresh store t).value = (r, true)) :
    (g.replay t ⟨r.trace.value, r.trace⟩).value.unmarked = r.unmarked := by
  obtain ⟨a, htrace, -⟩ := g.trace_resolveFresh store t
  have hvalue := (g.reported_resolveFresh store t).value
  rw [h] at htrace hvalue
  obtain ⟨result, trace⟩ := r
  obtain rfl : trace = _ := htrace
  cases result with
  | ok v =>
    obtain rfl : a.value = v := hvalue v rfl
    rfl
  | error e =>
    have hkeep := snd_value_resolveFresh_of_error (congrArg (·.1.result) h)
    rw [h] at hkeep
    cases hkeep

/-- The same question, asked again with the cache that is left, gets the same answer. -/
theorem unmarked_resolveIn_again (s : GateState) (t : Trace) :
    let x := (g.resolveIn s t).value
    (g.resolveIn ⟨s.store, x.2⟩ t).value.1.unmarked = x.1.unmarked := by
  cases hget : (s.cache.get t.normalizedKey t.chain).1 with
  | some entry =>
    simp only [value_resolveIn_of_hit hget]
    rw [value_resolveIn_of_hit ((ResolveCache.fst_get_get ..).trans hget)]
  | none =>
    simp only [value_resolveIn_of_miss hget, ResolveCache.snd_get_of_fst_get_eq_none hget]
    cases hfresh : (g.resolveFresh s.store t).value with
    | mk r keep =>
      cases keep with
      -- What must not be kept leaves the cache as it is.
      | false =>
        simp only [Bool.false_eq_true, if_false]
        rw [value_resolveIn_of_miss hget, hfresh]
      | true =>
        simp only [if_true]
        generalize hcache : s.cache.put t.normalizedKey t.chain _ = cache
        cases hagain : (cache.get t.normalizedKey t.chain).1 with
        | none => rw [value_resolveIn_of_miss hagain, hfresh]
        | some entry =>
          subst hcache
          obtain rfl := ResolveCache.eq_of_fst_get_put hagain
          rw [value_resolveIn_of_hit hagain]
          exact unmarked_replay_resolveFresh hfresh

/-! ## The main theorem -/

/-- With a rule for identifiers that settles, normalizing settles on every scope and every chain
and leaves the chains of actors as they are.  So a resolution that got to a chain can be repeated
with the chain it reports, from the state before it or after it. -/
theorem reported_chain_replays (p : ChainPolicy)
    (hp : ∀ id, p.normalizeId (p.normalizeId id) = p.normalizeId id) :
    (∀ scope, p.normalizeScope (p.normalizeScope scope) = p.normalizeScope scope) ∧
    (∀ c, p.normalizeChain (p.normalizeChain c) = p.normalizeChain c) ∧
    (∀ claims, p.normalizeChain (p.derive claims) = p.derive claims) ∧
    ∀ (g : Gate) (s : GateState) (context : Context) (key : String) (provided : Option Chain)
      (chain : Chain), g.policy = p → trim key ≠ "" →
      (g.chainFor context provided).value = .ok chain →
      let x := (g.resolve s context key provided).value
      x.1.trace.chain = chain ∧ p.normalizeChain chain = chain ∧
      (chain.hasSystem = true ∨ g.config.appendSystemOnProvidedChain = false →
        ∀ context',
          (g.resolve s context' key (some x.1.trace.chain)).value = x ∧
          (g.resolve ⟨s.store, x.2⟩ context' key (some x.1.trace.chain)).value.1.unmarked =
            x.1.unmarked) := by
  have hp : p.Settles := hp
  refine ⟨hp.normalizeScope_normalizeScope, hp.normalizeChain_normalizeChain,
    hp.normalizeChain_derive, ?_⟩
  rintro g s context key provided chain rfl hkey hchain x
  have hnormal := normalizeChain_of_chainFor hp hchain
  have hx : x = (g.resolveIn s { g.begin key with chain }).value :=
    value_resolve_of_chain (normalize_ne_empty hkey) hchain s
  have hreported : x.1.trace.chain = chain := by rw [hx, chain_resolveIn]
  refine ⟨hreported, hnormal, fun hsystem context' => ?_⟩
  rw [hreported]
  have hgiven : (g.chainFor context' (some chain)).value = .ok chain :=
    congrArg Except.ok (providedChain_eq_self hnormal hsystem)
  rw [value_resolve_of_chain (normalize_ne_empty hkey) hgiven,
    value_resolve_of_chain (normalize_ne_empty hkey) hgiven, hx]
  exact ⟨rfl, unmarked_resolveIn_again s _⟩

/-- A gate that knows administrators by a shorter name.  The system is put at the end of chains
that are given. -/
def knowingAdmins : Gate where
  config := { appendSystemOnProvidedChain := true }
  accepted := rfl
  normalizer id := if id = "administrator" then "admin" else id
  collaborators := { reader := some .ofStore, writer := some .ofStore }

theorem settles_knowingAdmins : knowingAdmins.policy.Settles := by
  intro id
  have hadmin : knowingAdmins.policy.normalizeId "admin" = "admin" := by decide
  have hid : knowingAdmins.policy.normalizeId id =
      if trim id = "" then "" else if trim id = "administrator" then "admin" else trim id := by
    have hrule : knowingAdmins.policy.normalizer =
      fun id => if id = "administrator" then "admin" else id := rfl
    rw [ChainPolicy.normalizeId, hrule]
  by_cases hempty : trim id = ""
  · rw [hid, if_pos hempty]
    decide
  · by_cases hlong : trim id = "administrator"
    · rw [hid, if_neg hempty, if_pos hlong, hadmin]
    · rw [hid, if_neg hempty, if_neg hlong, ChainPolicy.normalizeId_trim, hid, if_neg hempty,
        if_neg hlong]

/-- The state after a feature was turned on for administrators. -/
def onForAdmins : GateState :=
  (knowingAdmins.set .initial "f" (.role " administrator ") true ⟨"ann", "user", "Ann"⟩).value.2

/-- An administrator of a tenant. -/
def adminOfT : Context := .ofClaims { tenantId := "t", roles := ["administrator"] }

theorem reported_chain_replays_onForAdmins :
    let x := (knowingAdmins.resolve onForAdmins adminOfT "f" none).value
    x.1.trace.chain = [.role "admin", .roleIn "admin" "t" "", .tenant "t", .system] ∧
      x.1.result = .ok true ∧
      (knowingAdmins.resolve onForAdmins {} "f" (some x.1.trace.chain)).value = x ∧
      (knowingAdmins.resolve ⟨onForAdmins.store, x.2⟩ {} "f"
        (some x.1.trace.chain)).value.1.unmarked = x.1.unmarked := by
  have hchain : (knowingAdmins.chainFor adminOfT none).value =
      .ok [.role "admin", .roleIn "admin" "t" "", .tenant "t", .system] := by decide +kernel
  have hresult : (knowingAdmins.resolve onForAdmins adminOfT "f" none).value.1.result =
      .ok true := by decide +kernel
  obtain ⟨-, -, -, hreplay⟩ := reported_chain_replays knowingAdmins.policy settles_knowingAdmins
  obtain ⟨hreported, -, hagain⟩ :=
    hreplay knowingAdmins onForAdmins adminOfT "f" none _ rfl (by decide) hchain
  exact ⟨hreported, hresult, hagain (.inl rfl) {}⟩

end Gate

end FeatureFlags
