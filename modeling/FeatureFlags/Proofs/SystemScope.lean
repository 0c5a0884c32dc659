import FeatureFlags.Proofs.Visibility

/-!
# The system scope

The system is in every chain that claims lead to, whatever the configured order of kinds is, so
that a value for everyone has a place where it can be found.  A strategy however asks the groups
of the configured order and no others.  So a value at the system, of a key that has no other
values, answers exactly when the order names the system, or is empty and stands for the default
order.  Otherwise the value is never noticed.
-/

namespace FeatureFlags

variable {g : Gate} {on v : Bool} {store : OverrideStore} {key : String} {chain : Chain}
  {groups : List ScopeGroup}

/-- No scope but the system has a value. -/
def OverrideStore.OnlyAtSystem (store : OverrideStore) (key : String) : Prop :=
  ∀ p, p ≠ .system → ¬ (store.get key p).hasValue = true

/-! ## A value that nothing else goes before -/

/-- Where the system is asked, a value there prevails if there are no others. -/
theorem prevails_of_onlyAtSystem (h : store.OnlyAtSystem key) (hmem : Scope.system ∈ chain)
    (hasked : ScopeGroup.system ∈ groups) : Prevails on v store key chain groups .system where
  mem := hmem
  asked := hasked
  earlier p _ hgroup := by
    refine h p fun hp => ?_
    subst hp
    have hne := List.mem_takeWhile_imp hgroup
    simp [ScopeGroup.ofKind, Scope.system] at hne
  front _ p hp _ := by
    refine h p fun hp' => ?_
    subst hp'
    have hne := List.mem_takeWhile_imp hp
    simp at hne
  unbeaten hgroup := nomatch hgroup

namespace Gate

/-- Where the system is not asked, a key with no other values does not count. -/
theorem not_counts_of_onlyAtSystem (h : store.OnlyAtSystem key)
    (hasked : ScopeGroup.system ∉ groupOrder g.policy.order) : ¬ g.Counts store chain key := by
  rintro ⟨p, -, hgroup, hvalue⟩
  by_cases hp : p = .system
  · subst hp
    exact hasked hgroup
  · exact h p hp hvalue

/-- The system is walked when the order names it, or when there is no order. -/
theorem system_mem_groupOrder_iff (g : Gate) :
    ScopeGroup.system ∈ groupOrder g.policy.order ↔
      g.config.scopeOrder = [] ∨ .system ∈ g.config.scopeOrder := by
  have hkind : ∀ k, ScopeGroup.ofKind k = .system ↔ k = .system := fun k => by
    cases k <;> simp [ScopeGroup.ofKind]
  have horder : ∀ k, k ∈ g.policy.order ↔ g.config.scopeOrder = [] ∨ k ∈ g.config.scopeOrder :=
    fun _ => ChainPolicy.mem_effectiveOrder
  have hne : g.policy.order ≠ [] := ChainPolicy.effectiveOrder_ne_nil _
  rw [mem_groupOrder]
  simp only [hkind, exists_eq_right, horder, hne, false_or]

/-! ## Values at the system -/

theorem onlyAtSystem_update (hwriter : g.collaborators.writer = some .ofStore) {s : GateState}
    {k : String} {scope : Scope} (hscope : g.policy.normalizeScope scope = .system)
    (h : s.store.OnlyAtSystem k) (key : String) (value : Option Bool) (actor : Actor) :
    (g.update s key scope value actor).value.2.store.OnlyAtSystem k := by
  intro p hp
  rw [get_update_of_ne hwriter s value actor fun heq => hp (heq.symm.trans hscope)]
  exact h p hp

/-- A value at the system, of a key that has no other values, is the outcome for every actor if
the order of kinds asks the system.  If not, every actor is left to the defaults. -/
theorem outcome_of_onlyAtSystem {s : GateState} (hs : g.Coherent s)
    (hreader : g.collaborators.reader = some .ofStore)
    (hstrategy : g.collaborators.strategy = .favouring on) (hkey : g.aliases.normalize key ≠ "")
    (honly : ∀ k ∈ g.writtenKeys key, s.store.OnlyAtSystem k)
    (hget : s.store.get (g.aliases.normalize key) .system = .ofBool v) {context : Context}
    {claims : Claims} (hclaims : (g.fullClaims context).value = .ok claims) :
    (g.resolve s context key none).value.1.outcome =
      if g.config.scopeOrder = [] ∨ .system ∈ g.config.scopeOrder then (some v, v, .override)
      else g.defaultOutcome (g.aliases.normalize key) := by
  have hchain := value_chainFor_of_claims hclaims
  by_cases horder : g.config.scopeOrder = [] ∨ .system ∈ g.config.scopeOrder
  · have hprevails : Prevails on v s.store (g.aliases.normalize key) (g.policy.derive claims)
        (groupOrder g.policy.order) .system :=
      prevails_of_onlyAtSystem (honly _ List.mem_cons_self)
        (ChainPolicy.system_mem_derive _ _) (g.system_mem_groupOrder_iff.2 horder)
    obtain ⟨d, ha, -⟩ := answer?_of_prevails hreader hstrategy hprevails hget
    rw [outcome_resolve_of_answer? hs hkey hchain ha, if_pos horder]
    rfl
  -- The system is in the chain here too, but no group that is asked contains it.
  · have ho : g.overrides? s.store (g.aliases.normalize key) (g.policy.derive claims) = some {} :=
      overrides?_of_not_counts hreader hstrategy fun k hk =>
        not_counts_of_onlyAtSystem (honly k hk) (mt g.system_mem_groupOrder_iff.1 horder)
    rw [outcome_resolve_of_undecided hs hkey hchain ho rfl, if_neg horder]

/-- What a value at the system comes to after it was written under some spelling of the key, if
the key and its legacy keys had no other values. -/
theorem system_value_outcome (g : Gate) (on : Bool)
    (hreader : g.collaborators.reader = some .ofStore)
    (hwriter : g.collaborators.writer = some .ofStore)
    (hstrategy : g.collaborators.strategy = .favouring on) (start : GateState)
    (hcache : start.cache.entries = []) (requests : List Request) (key : String) (v : Bool)
    (actor : Actor)
    (hothers : ∀ k ∈ g.writtenKeys key, (g.run start requests).2.store.OnlyAtSystem k)
    (hset : (g.set (g.run start requests).2 key .system v actor).value.1 = .ok ())
    (later : List Request) (hlater : ∀ q ∈ later, q.isResolve = true) (context : Context)
    (claims : Claims) (hclaims : (g.fullClaims context).value = .ok claims) (asked : String)
    (hasked : g.aliases.normalize asked = g.aliases.normalize key) :
    let s := (g.run (g.set (g.run start requests).2 key .system v actor).value.2 later).2
    (g.resolve s context asked none).value.1.outcome =
      if g.config.scopeOrder = [] ∨ .system ∈ g.config.scopeOrder then (some v, v, .override)
      else g.defaultOutcome (g.aliases.normalize key) := by
  intro s
  have hbefore : g.Coherent (g.run start requests).2 :=
    coherent_run (coherent_of_entries_eq_nil hcache) requests
  have hs : g.Coherent s := coherent_run_update hbefore key .system (some v) actor later
  have hstore : s.store = (g.set (g.run start requests).2 key .system v actor).value.2.store :=
    store_run_of_isResolve hlater _
  have haccepts := accepts_of_update_eq_ok hset
  have hwritten : g.writtenKeys asked = g.writtenKeys key := by
    rw [writtenKeys, hasked, writtenKeys]
  rw [← hasked]
  refine outcome_of_onlyAtSystem hs hreader hstrategy ?_ (fun k hk => ?_) ?_ hclaims
  · rw [hasked]
    exact normalize_ne_empty haccepts.1
  · rw [hwritten] at hk
    rw [hstore]
    exact onlyAtSystem_update hwriter rfl (hothers k hk) key (some v) actor
  · rw [hstore, hasked]
    exact get_update_of_accepts hwriter haccepts _ _ _ List.mem_cons_self

theorem system_value_outcome_renaming :
    let changed := (Gate.renaming.set .initial "old" .system true ⟨"ann", "user", "Ann"⟩).value
    let context := Context.ofClaims { tenantId := "t" }
    changed.1 = .ok () ∧
      (Gate.renaming.resolve changed.2 context " new " none).value.1.outcome =
        (some true, true, .override) := by
  dsimp only
  have hset : (Gate.renaming.set .initial "old" .system true ⟨"ann", "user", "Ann"⟩).value.1 =
      .ok () := by decide +kernel
  have hasked : Gate.renaming.aliases.normalize " new " =
      Gate.renaming.aliases.normalize "old" := by decide +kernel
  have hothers : ∀ k, (Gate.renaming.run .initial []).2.store.OnlyAtSystem k :=
    fun _ _ _ h => nomatch h
  have horder : Gate.renaming.config.scopeOrder = [] ∨
      .system ∈ Gate.renaming.config.scopeOrder := by decide
  have houtcome := system_value_outcome .renaming false rfl rfl rfl .initial rfl [] "old" true
    ⟨"ann", "user", "Ann"⟩ (fun k _ => hothers k) hset [] (fun _ h => nomatch h)
    (.ofClaims { tenantId := "t" }) { tenantId := "t" } rfl " new " hasked
  rw [if_pos horder] at houtcome
  exact ⟨hset, houtcome⟩

/-- A gate over the store that looks at tenants and users. -/
def tenantsAndUsers : Gate where
  config := { scopeOrder := [.tenant, .user] }
  accepted := rfl
  normalizer := .standard
  collaborators := { reader := some .ofStore, writer := some .ofStore }

/-- A value at the system is in vain where the order of kinds does not name the system. -/
theorem system_value_unnoticed :
    let changed := (Gate.tenantsAndUsers.set .initial "f" .system true ⟨"ann", "user", "Ann"⟩).value
    let context := Context.ofClaims { subjectId := "u1", tenantId := "acme" }
    (∀ k, GateState.initial.store.OnlyAtSystem k) ∧ changed.1 = .ok () ∧
      (Gate.tenantsAndUsers.chainFor context none).value =
        .ok [.tenant "acme", .user "acme" "" "u1", .system] ∧
      (Gate.tenantsAndUsers.resolve changed.2 context "f" none).value.1.outcome =
        (some false, false, .fallback) := by
  refine ⟨fun _ _ _ h => (nomatch h), ?_, ?_, ?_⟩
  · decide +kernel
  · decide +kernel
  · decide +kernel

end Gate

end FeatureFlags
