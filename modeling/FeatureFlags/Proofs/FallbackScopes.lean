import FeatureFlags.Proofs.ChangeEffects
import FeatureFlags.Proofs.Spelling

/-!
# Fallback scopes and write targets

The scopes of a fallback chain are checked as they are written down, and the scope of a change
is checked after it is normalized.  The two checks say the same of a scope unless its identifier
is misread (`Scope.Misread`): it is blank but not empty, or it is empty but the scope is a tenant
or an organisation that is named in the other field.
-/

namespace FeatureFlags

open Text (trim)

/-! ## Identifiers that are misread -/

namespace Scope

/-- What the text of a scope says of its identifier is not so, with what it says. -/
inductive Misread (s : Scope) : Bool → Prop where
  /-- The identifier is given, but it is blank and nothing else names the scope. -/
  | blank : s.kind ≠ .system → s.id ≠ "" → trim s.id = "" →
      (s.kind = .tenant → trim s.tenantId = "") → (s.kind = .org → trim s.orgId = "") →
      Misread s true
  /-- The identifier is not given, but the tenant is named all the same. -/
  | tenant : s.kind = .tenant → s.id = "" → trim s.tenantId ≠ "" → Misread s false
  /-- The identifier is not given, but the organisation is named all the same. -/
  | org : s.kind = .org → s.id = "" → trim s.orgId ≠ "" → Misread s false

theorem orElse_eq_empty_iff {s t : String} : orElse s t = "" ↔ s = "" ∧ t = "" := by
  rw [orElse]
  split
  · next h => simp only [h, true_and]
  · next h => simp only [h, false_and]

/-- What a trimmed scope needs to have its identifier. -/
theorem hasRequiredIds_trimmed_iff {s : Scope} :
    s.trimmed.hasRequiredIds = true ↔ s.kind = .system ∨ trim s.id ≠ "" ∨
      s.kind = .tenant ∧ trim s.tenantId ≠ "" ∨ s.kind = .org ∧ trim s.orgId ≠ "" := by
  rw [hasRequiredIds_iff, s.kind_trimmed]
  obtain ⟨kind, id, tenantId, orgId⟩ := s
  cases kind with
  | system => simp
  | tenant => simp [trimmed, tenant, orElse_eq_empty_iff, imp_iff_not_or]
  | org => simp [trimmed, org, orElse_eq_empty_iff, imp_iff_not_or]
  | user => simp [trimmed]
  | role => simp [trimmed]
  | perm => simp [trimmed]

/-- A scope is misread exactly when trimming changes what the check says of it. -/
theorem misread_iff {s : Scope} {said : Bool} :
    s.Misread said ↔ s.hasRequiredIds = said ∧ s.trimmed.hasRequiredIds = !said := by
  constructor
  · intro h
    cases h with
    | blank hkind hid hblank htenant horg =>
      refine ⟨hasRequiredIds_iff.2 (.inr hid), ?_⟩
      rw [Bool.not_true, ← Bool.not_eq_true, hasRequiredIds_trimmed_iff]
      rintro (h | h | ⟨h, hnamed⟩ | ⟨h, hnamed⟩)
      · exact hkind h
      · exact h hblank
      · exact hnamed (htenant h)
      · exact hnamed (horg h)
    | tenant hkind hid hnamed =>
      refine ⟨?_, hasRequiredIds_trimmed_iff.2 (.inr (.inr (.inl ⟨hkind, hnamed⟩)))⟩
      rw [← Bool.not_eq_true, hasRequiredIds_iff, hkind, hid]
      simp
    | org hkind hid hnamed =>
      refine ⟨?_, hasRequiredIds_trimmed_iff.2 (.inr (.inr (.inr ⟨hkind, hnamed⟩)))⟩
      rw [← Bool.not_eq_true, hasRequiredIds_iff, hkind, hid]
      simp
  · rintro ⟨hsaid, htrimmed⟩
    cases said with
    | true =>
      rw [Bool.not_true, ← Bool.not_eq_true, hasRequiredIds_trimmed_iff] at htrimmed
      obtain ⟨hkind, hblank, htenant, horg⟩ : _ ∧ _ ∧ _ ∧ _ := by
        simpa only [not_or, not_and, not_not] using htrimmed
      exact .blank hkind ((hasRequiredIds_iff.1 hsaid).resolve_left hkind) hblank htenant horg
    | false =>
      rw [← Bool.not_eq_true, hasRequiredIds_iff, not_or, not_not] at hsaid
      obtain ⟨hkind, hid⟩ := hsaid
      rcases hasRequiredIds_trimmed_iff.1 htrimmed with h | h | ⟨h, hnamed⟩ | ⟨h, hnamed⟩
      · exact absurd h hkind
      · have hblank : trim s.id = "" := by
          rw [hid]
          rfl
        exact absurd hblank h
      · exact .tenant h hid hnamed
      · exact .org h hid hnamed

end Scope

/-! ## Configurations -/

namespace GateConfig

/-- The check of a configuration looks for an identifier in each scope as it is written. -/
theorem incompleteScope?_eq_none_iff {c : GateConfig} :
    c.incompleteScope? = none ↔ ∀ s ∈ c.failureFallbackChain, s.hasRequiredIds = true := by
  simp [incompleteScope?]

/-- The fallback chain is checked as it is written down. -/
theorem validate_eq_ok_iff {c c' : GateConfig} :
    c.validate = .ok c' ↔
      c = c' ∧ ∀ s ∈ c.failureFallbackChain, s.hasRequiredIds = true := by
  rw [validate, ← incompleteScope?_eq_none_iff]
  cases c.incompleteScope? with
  | none => simp
  | some s => simp

/-- A value is read as a configuration when it is one and passes the check. -/
theorem ofTree_eq_ok_iff {τ : Type} [JsonText τ] {t : JsonTree τ} {c : GateConfig} :
    ofTree t = .ok c ↔
      decode? t = some c ∧ ∀ s ∈ c.failureFallbackChain, s.hasRequiredIds = true := by
  rw [ofTree]
  cases decode? t with
  | none => simp
  | some c' =>
    simp only [validate_eq_ok_iff, Option.some.injEq]
    constructor
    · rintro ⟨rfl, h⟩
      exact ⟨rfl, h⟩
    · rintro ⟨rfl, h⟩
      exact ⟨rfl, h⟩

/-- A text is read as a configuration when it is a value that is. -/
theorem ofText_eq_ok_iff {text : String} {c : GateConfig} :
    ofText text = .ok c ↔ ∃ t, JsonDocument.ofText? text = some t ∧ decode? t = some c ∧
      ∀ s ∈ c.failureFallbackChain, s.hasRequiredIds = true := by
  rw [ofText]
  cases JsonDocument.ofText? text with
  | none => simp
  | some t => simp only [ofTree_eq_ok_iff, Option.some.injEq, exists_eq_left']

end GateConfig

namespace Gate

/-- There is a gate for a configuration exactly when its fallback chain passes the check. -/
theorem exists_build_eq_ok_iff {c : GateConfig} {normalizer : Normalizer}
    {collaborators : Collaborators} :
    (∃ g, build c normalizer collaborators = .ok g) ↔
      ∀ s ∈ c.failureFallbackChain, s.hasRequiredIds = true := by
  rw [← GateConfig.incompleteScope?_eq_none_iff]
  constructor
  · rintro ⟨g, h⟩
    rw [build] at h
    split at h
    · assumption
    · cases h
  · intro h
    refine ⟨⟨c, h, normalizer, collaborators⟩, ?_⟩
    rw [build]
    split
    · rfl
    · next s hs => cases h.symm.trans hs

/-- A gate that is built keeps its configuration and its rule for identifiers. -/
theorem of_build_eq_ok {c : GateConfig} {normalizer : Normalizer} {collaborators : Collaborators}
    {g : Gate} (h : build c normalizer collaborators = .ok g) :
    g.config = c ∧ g.normalizer = normalizer := by
  rw [build] at h
  split at h
  · obtain rfl := Except.ok.inj h
    exact ⟨rfl, rfl⟩
  · cases h

/-! ## Write targets -/

variable {g : Gate} {key : String} {scope : Scope}

/-- Every change of a key at a scope gets to the writer. -/
def TakesScope (g : Gate) (key : String) (scope : Scope) : Prop :=
  ∀ s value actor,
    Call.writeOverride (g.aliases.normalize key) (g.policy.normalizeScope scope) value ∈
      Effect.calls (g.update s key scope value actor).effects

/-- Whether a change is refused for its scope depends on the writer and the store in no way. -/
theorem takesScope_iff_accepts {writer : OverrideWriter}
    (hwriter : g.collaborators.writer = some writer) :
    g.TakesScope key scope ↔ g.Accepts key scope := by
  constructor
  · intro h
    by_contra hrefused
    obtain ⟨e, he⟩ := prepare_of_not_accepts hrefused none ⟨"", "", ""⟩
    have hcall := h ⟨.empty, .noop⟩ none ⟨"", "", ""⟩
    rw [update_of_prepare_error he] at hcall
    cases hcall
  · intro h s value actor
    rw [update, prepare_of_accepts hwriter h]
    simp only [Observed.effects_bind, Effect.calls_append, List.mem_append]
    left
    rw [(effects_writeKey ..).1]
    exact List.mem_singleton_self _

variable (hnormalizer : g.normalizer = .standard)
include hnormalizer

/-- A change looks for an identifier in the scope after trimming. -/
theorem takesScope_iff {writer : OverrideWriter} (hwriter : g.collaborators.writer = some writer)
    (hkey : trim key ≠ "") : g.TakesScope key scope ↔ scope.trimmed.hasRequiredIds = true := by
  rw [takesScope_iff_accepts hwriter, Accepts,
    g.policy.hasRequiredIds_normalizeScope hnormalizer]
  exact ⟨And.right, fun h => ⟨hkey, h⟩⟩

/-- A change at a scope that ends up without its identifier is refused. -/
theorem update_of_incomplete (hkey : trim key ≠ "") (h : scope.trimmed.hasRequiredIds = false)
    (s : GateState) (value : Option Bool) (actor : Actor) :
    ∃ e, g.update s key scope value actor = ⟨(.error e, s), []⟩ ∧ e.code = .scopeRequired := by
  have hids : (g.policy.normalizeScope scope).hasRequiredIds = false :=
    (g.policy.hasRequiredIds_normalizeScope hnormalizer scope).trans h
  have hprepare := prepare_of_incomplete (normalize_ne_empty hkey) hids value actor
  exact ⟨_, update_of_prepare_error hprepare s, rfl⟩

omit hnormalizer

/-! ## The main theorem -/

/-- A fallback chain passes the check as it is written down, whichever way the configuration
comes.  So each of its scopes may be written to, and is not named by its other field alone, or its
identifier is blank; and a gate keeps a scope without its identifier only in the latter case. -/
theorem fallback_scopes_as_write_targets (c : GateConfig) (collaborators : Collaborators)
    (g : Gate) (hnormalizer : g.normalizer = .standard) (writer : OverrideWriter)
    (hwriter : g.collaborators.writer = some writer) (key : String) (hkey : trim key ≠ "") :
    let complete := ∀ s ∈ c.failureFallbackChain, s.hasRequiredIds = true
    (c.validate = .ok c ↔ complete) ∧
    (∀ t : Json, GateConfig.ofTree t = .ok c ↔ GateConfig.decode? t = some c ∧ complete) ∧
    (∀ text, GateConfig.ofText text = .ok c ↔ ∃ t, JsonDocument.ofText? text = some t ∧
      GateConfig.decode? t = some c ∧ complete) ∧
    ((∃ built, build c .standard collaborators = .ok built) ↔ complete) ∧
    (complete ↔ ∀ s ∈ c.failureFallbackChain,
      g.TakesScope key s ∧ ¬ s.Misread false ∨ s.Misread true) ∧
    (∀ s, ¬ g.TakesScope key s → ∀ state value actor, ∃ e,
      g.update state key s value actor = ⟨(.error e, state), []⟩ ∧ e.code = .scopeRequired) ∧
    ∀ built, build c .standard collaborators = .ok built →
      ∀ s ∈ c.failureFallbackChain,
        (built.policy.normalizeScope s).hasRequiredIds = false ↔ s.Misread true := by
  intro complete
  have htakes (s : Scope) : g.TakesScope key s ↔ s.trimmed.hasRequiredIds = true :=
    takesScope_iff hnormalizer hwriter hkey
  refine ⟨GateConfig.validate_eq_ok_iff.trans (by simp [complete]),
    fun _ => GateConfig.ofTree_eq_ok_iff, fun _ => GateConfig.ofText_eq_ok_iff,
    exists_build_eq_ok_iff, ?_, ?_, ?_⟩
  · refine forall₂_congr fun s _ => ?_
    rw [htakes, Scope.misread_iff, Scope.misread_iff]
    cases s.hasRequiredIds <;> cases s.trimmed.hasRequiredIds <;> simp
  · intro s hs
    rw [htakes, Bool.not_eq_true] at hs
    exact update_of_incomplete hnormalizer hkey hs
  · intro built hbuilt s hs
    obtain ⟨-, hstandard⟩ := of_build_eq_ok hbuilt
    have hgiven : s.hasRequiredIds = true := exists_build_eq_ok_iff.1 ⟨built, hbuilt⟩ s hs
    rw [built.policy.hasRequiredIds_normalizeScope hstandard, Scope.misread_iff]
    exact ⟨fun h => ⟨hgiven, h⟩, And.right⟩

/-- The user of a tenant, with a blank identifier. -/
def blankUser : Scope := ⟨.user, "  ", "acme", ""⟩

/-- A tenant that is named in the field for the tenant only. -/
def tenantByField : Scope := ⟨.tenant, "", "acme", ""⟩

theorem fallback_scopes_as_write_targets_blankUser :
    let c : GateConfig := { failureFallbackChain := [.tenant " acme ", blankUser] }
    c.validate = .ok c ∧ Gate.renaming.TakesScope " old " (.tenant " acme ") ∧
      ∃ built, build c .standard {} = .ok built ∧
        (built.policy.normalizeScope blankUser).hasRequiredIds = false := by
  intro c
  obtain ⟨hvalidate, -, -, hbuild, hscopes, -, hkept⟩ := fallback_scopes_as_write_targets c {}
    .renaming rfl .ofStore rfl " old " (by decide)
  have hcomplete : ∀ s ∈ c.failureFallbackChain, s.hasRequiredIds = true := by decide
  have htenant : ¬ (Scope.tenant " acme ").Misread true := by
    rw [Scope.misread_iff]
    decide
  have hblank : blankUser.Misread true := by
    rw [Scope.misread_iff]
    decide
  obtain ⟨built, hbuilt⟩ := hbuild.2 hcomplete
  have htakes := (hscopes.1 hcomplete _ List.mem_cons_self).resolve_right htenant
  exact ⟨hvalidate.2 hcomplete, htakes.1, built, hbuilt,
    (hkept built hbuilt blankUser (List.mem_cons_of_mem _ List.mem_cons_self)).2 hblank⟩

/-- A blank identifier passes the check of a fallback chain and not that of a change.  With a
tenant that is named in one field only it is the other way round. -/
theorem fallback_check_differs :
    let blank : GateConfig := { failureFallbackChain := [blankUser] }
    let byField : GateConfig := { failureFallbackChain := [tenantByField] }
    let set (scope : Scope) :=
      (Gate.renaming.set .initial "f" scope true ⟨"ann", "user", "Ann"⟩).value.1
    (blank.validate = .ok blank ∧ ∃ e, set blankUser = .error e ∧ e.code = .scopeRequired) ∧
      byField.validate = .error (GateConfig.incompleteError tenantByField) ∧
        set tenantByField = .ok () := by
  refine ⟨⟨?_, _, rfl, ?_⟩, ?_, ?_⟩
  · decide +kernel
  · decide +kernel
  · decide +kernel
  · decide +kernel

end Gate

end FeatureFlags
