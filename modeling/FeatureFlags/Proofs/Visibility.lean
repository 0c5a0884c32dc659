import FeatureFlags.Proofs.CacheCoherence
import FeatureFlags.Proofs.Precedence
import FeatureFlags.Proofs.Writes

/-!
# What is written is found

A change is written at a normalized scope under a canonical key, and a resolution looks for
canonical keys at normalized scopes.  So it does not matter how the key or the scope was
spelled on either side.  What decides whether a written value is the answer is the other
overrides of the key.

*Prevailing values.*  `Prevails` says that no other override goes before the value at a scope:
none in an earlier group, none in front of it in its own group, and among roles and permissions
none with the state that wins.

*Answers.*  A prevailing value of the canonical key is the answer (`resolve_of_prevails`), and
this is so after every change that went through, in a gate with a cache as in one without
(`write_is_found`).
-/

namespace FeatureFlags

variable {on v : Bool} {store : OverrideStore} {key : String} {chain : Chain}
  {groups : List ScopeGroup} {n : Scope}

/-! ## Values that prevail -/

/-- No override of the key goes before the value at a scope of the chain. -/
structure Prevails (on v : Bool) (store : OverrideStore) (key : String) (chain : Chain)
    (groups : List ScopeGroup) (n : Scope) : Prop where
  /-- The scope is in the chain. -/
  mem : n ∈ chain
  /-- Its group is asked. -/
  asked : ScopeGroup.ofKind n.kind ∈ groups
  /-- No scope of a group that is asked earlier has a value. -/
  earlier : ∀ p ∈ chain, ScopeGroup.ofKind p.kind ∈ groups.takeWhile (· ≠ .ofKind n.kind) →
    ¬ (store.get key p).hasValue = true
  /-- No scope in front of it in its own group has a value, where the first one counts. -/
  front : ScopeGroup.ofKind n.kind ≠ .rolePerm → ∀ p ∈ chain.takeWhile (· ≠ n),
    ScopeGroup.ofKind p.kind = .ofKind n.kind → ¬ (store.get key p).hasValue = true
  /-- Among roles and permissions no other scope has the state that wins over the value. -/
  unbeaten : ScopeGroup.ofKind n.kind = .rolePerm → v ≠ on →
    ∀ p ∈ chain, ScopeGroup.ofKind p.kind = .rolePerm → p ≠ n → store.get key p ≠ .ofBool on

theorem exists_eq_takeWhile_append {α : Type} [DecidableEq α] {a : α} {l : List α} (h : a ∈ l) :
    ∃ after, l = l.takeWhile (· ≠ a) ++ a :: after := by
  obtain ⟨before, after, rfl, hbefore⟩ := List.eq_append_cons_of_mem h
  have hne : ∀ b ∈ before, decide (b ≠ a) = true := by
    intro b hb
    rw [decide_eq_true_eq]
    rintro rfl
    exact hbefore hb
  refine ⟨after, ?_⟩
  rw [List.takeWhile_append_of_pos hne, List.takeWhile_cons_of_neg (by simp), List.append_nil]

/-! ## The winner of a group -/

/-- The first value in a chain is at the first scope that has one. -/
theorem find?_getAll_append_cons {before after : Chain}
    (hbefore : ∀ p ∈ before, ¬ (store.get key p).hasValue = true)
    (hn : (store.get key n).hasValue = true) :
    (store.getAll key (before ++ n :: after)).find? (·.state.hasValue) =
      some ⟨n, store.get key n⟩ := by
  have hnone : (store.getAll key before).find? (·.state.hasValue) = none := by
    refine List.find?_eq_none.2 fun m hm hvalue => ?_
    rw [← OverrideStore.get_eq_of_mem_getAll hm] at hvalue
    exact hbefore m.scope (OverrideStore.mem_getAll.1 hm).1 hvalue
  rw [OverrideStore.getAll_append, OverrideStore.getAll_cons_of_hasValue hn, List.find?_append,
    hnone]
  exact List.find?_cons_of_pos (p := fun m : OverrideMatch => m.state.hasValue) hn

theorem groupWinner_of_ne_rolePerm {rule : RolePermRule} {g : ScopeGroup} (hg : g ≠ .rolePerm)
    (candidates : List OverrideMatch) :
    groupWinner rule g candidates = candidates.find? (·.state.hasValue) := by
  cases g with
  | rolePerm => exact absurd rfl hg
  | user => rfl
  | org => rfl
  | tenant => rfl
  | system => rfl

/-- A state wins among roles and permissions if the state that wins over it does not occur. -/
theorem exists_preferring_eq_some_of_unbeaten {candidates : List OverrideMatch}
    {m : OverrideMatch} (hm : m ∈ candidates) (hstate : m.state = .ofBool v)
    (hunbeaten : v ≠ on → ∀ c ∈ candidates, c.state ≠ .ofBool on) :
    ∃ w, preferring (.ofBool on) (.ofBool !on) candidates = some w ∧ w.state = .ofBool v := by
  by_cases hv : v = on
  · subst hv
    exact exists_preferring_eq_some hm hstate
  · cases hw : preferring (.ofBool on) (.ofBool !on) candidates with
    | none =>
      have hfalse := (preferring_decisive on).passed hw m hm
      rw [hstate, OverrideState.hasValue_ofBool] at hfalse
      cases hfalse
    | some w =>
      obtain ⟨hmem, hon | hoff⟩ := preferring_eq_some hw
      · exact absurd hon (hunbeaten hv w hmem)
      · refine ⟨w, rfl, ?_⟩
        rw [hoff, Bool.eq_not_of_ne hv]

namespace Prevails

/-- If the value prevails against the rule of the strategy, no role or permission is in the
preferred state. -/
theorem state_ne_of_mem_getAll (h : Prevails on v store key chain groups n)
    (hget : store.get key n = .ofBool v) (hgroup : ScopeGroup.ofKind n.kind = .rolePerm)
    (hv : v ≠ on) {c : OverrideMatch}
    (hc : c ∈ store.getAll key (chain.filter fun p => ScopeGroup.contains .rolePerm p.kind)) :
    c.state ≠ .ofBool on := by
  obtain ⟨hp, hcontains⟩ := List.mem_filter.1 (OverrideStore.mem_getAll.1 hc).1
  rw [← OverrideStore.get_eq_of_mem_getAll hc]
  by_cases hne : c.scope = n
  · rw [hne, hget]
    intro heq
    exact hv (OverrideState.ofBool_injective heq)
  · exact h.unbeaten hgroup hv c.scope hp (of_decide_eq_true hcontains) hne

/-- A value that prevails wins its group, at its own scope unless roles and permissions are
concerned. -/
theorem exists_groupWinner (h : Prevails on v store key chain groups n)
    (hget : store.get key n = .ofBool v) :
    ∃ w, groupWinner (preferring (.ofBool on) (.ofBool !on)) (.ofKind n.kind)
        (groupMatches (.ofKind n.kind) chain (store.getAll key chain)) = some w ∧
      w.state = .ofBool v ∧ (ScopeGroup.ofKind n.kind ≠ .rolePerm → w.scope = n) := by
  have hvalue : (store.get key n).hasValue = true := by
    rw [hget, OverrideState.hasValue_ofBool]
  rw [groupMatches_getAll]
  by_cases hgroup : ScopeGroup.ofKind n.kind = .rolePerm
  · have hfilter : n ∈ chain.filter fun p => ScopeGroup.contains (.ofKind n.kind) p.kind :=
      List.mem_filter.2 ⟨h.mem, decide_eq_true rfl⟩
    have hmem := OverrideStore.mem_getAll_of_hasValue hfilter hvalue
    rw [hgroup] at hmem ⊢
    obtain ⟨w, hw, hstate⟩ := exists_preferring_eq_some_of_unbeaten hmem hget
      fun (hv : v ≠ on) _ hc => h.state_ne_of_mem_getAll hget hgroup hv hc
    exact ⟨w, hw, hstate, fun hne => absurd rfl hne⟩
  · obtain ⟨after, hchain⟩ := exists_eq_takeWhile_append h.mem
    have hin := List.filter_cons_of_pos (l := after)
      (p := fun p : Scope => ScopeGroup.contains (.ofKind n.kind) p.kind)
      (decide_eq_true (rfl : ScopeGroup.ofKind n.kind = .ofKind n.kind))
    rw [groupWinner_of_ne_rolePerm hgroup, hchain, List.filter_append, hin,
      find?_getAll_append_cons _ hvalue]
    · exact ⟨_, rfl, hget, fun _ => rfl⟩
    · intro p hp
      obtain ⟨hp, hcontains⟩ := List.mem_filter.1 hp
      exact h.front hgroup p hp (of_decide_eq_true hcontains)

/-- A value that prevails is the decision, since the groups before its own have no winner. -/
theorem decideGroups_eq (h : Prevails on v store key chain groups n)
    (hget : store.get key n = .ofBool v) :
    ∃ d, decideGroups (preferring (.ofBool on) (.ofBool !on)) chain (store.getAll key chain)
        groups = d ∧ d.verdict = some v ∧
      (ScopeGroup.ofKind n.kind ≠ .rolePerm → d.scope = some n) := by
  obtain ⟨w, hw, hstate, hscope⟩ := h.exists_groupWinner hget
  obtain ⟨rest, hgroups⟩ := exists_eq_takeWhile_append h.asked
  refine ⟨_, rfl, ?_⟩
  rw [hgroups, decideGroups_append_of_passed, decideGroups]
  · simp only [hw]
    exact ⟨verdict_decided_ofBool hstate, fun hne => congrArg some (hscope hne)⟩
  · intro g hg
    refine groupWinner_getAll_eq_none (preferring_decisive on) fun p hp hpg => ?_
    exact h.earlier p hp (hpg ▸ hg)

end Prevails

/-! ## Changes that are found -/

namespace Gate

variable {g : Gate} {s : GateState}

/-- A value of the canonical key that prevails is the answer. -/
theorem answer?_of_prevails (hreader : g.collaborators.reader = some .ofStore)
    (hstrategy : g.collaborators.strategy = .favouring on)
    (h : Prevails on v store key chain (groupOrder g.policy.order) n)
    (hget : store.get key n = .ofBool v) :
    ∃ d, g.answer? store key chain = some (.ofVerdict { toDecision := d } v) ∧
      (ScopeGroup.ofKind n.kind ≠ .rolePerm → d.scope = some n) := by
  obtain ⟨d, hd, hverdict, hscope⟩ := h.decideGroups_eq hget
  have hdecision := decision_ofStore hstrategy store chain key
  rw [hd] at hdecision
  exact ⟨d, answer?_of_decision hreader hdecision hverdict, hscope⟩

/-- It is the answer under every spelling of the key, repeated or not. -/
theorem resolve_of_prevails (hs : g.Coherent s) (hreader : g.collaborators.reader = some .ofStore)
    (hstrategy : g.collaborators.strategy = .favouring on) {context : Context} {asked : String}
    {provided : Option Chain} (hkey : g.aliases.normalize asked ≠ "")
    (hchain : (g.chainFor context provided).value = .ok chain)
    (h : Prevails on v s.store (g.aliases.normalize asked) chain (groupOrder g.policy.order) n)
    (hget : s.store.get (g.aliases.normalize asked) n = .ofBool v) :
    let r := (g.resolve s context asked provided).value.1
    r.result = .ok v ∧ r.trace.source = .override ∧ r.trace.overrides.alias = none ∧
      (ScopeGroup.ofKind n.kind ≠ .rolePerm → r.trace.overrides.scope = some n) := by
  intro r
  obtain ⟨d, ha, hscope⟩ := answer?_of_prevails hreader hstrategy h hget
  obtain ⟨hresult, hanswer⟩ := resolve_of_answer? hs hkey hchain ha
  have hoverrides : r.trace.overrides = { toDecision := d } := congrArg Answer.overrides hanswer
  have hsource : r.trace.source = .override := congrArg Answer.source hanswer
  rw [hoverrides]
  exact ⟨hresult, hsource, rfl, hscope⟩

/-- A value that was written is the answer wherever it prevails: under every spelling of the key,
in every chain with the scope, and in every chain that is given with a spelling of the scope. -/
theorem write_is_found (g : Gate) (on : Bool) (hreader : g.collaborators.reader = some .ofStore)
    (hwriter : g.collaborators.writer = some .ofStore)
    (hstrategy : g.collaborators.strategy = .favouring on) (start : GateState)
    (hcache : start.cache.entries = []) (requests : List Request) (key : String) (scope : Scope)
    (v : Bool) (actor : Actor) (later : List Request)
    (hlater : ∀ q ∈ later, q.isResolve = true)
    (hset : (g.set (g.run start requests).2 key scope v actor).value.1 = .ok ()) :
    let s := (g.run (g.set (g.run start requests).2 key scope v actor).value.2 later).2
    let canonical := g.aliases.normalize key
    let n := g.policy.normalizeScope scope
    (∀ given : Chain, ∀ t ∈ given, g.policy.normalizeScope t = n → n ∈ g.providedChain given) ∧
    ∀ context asked provided chain, g.aliases.normalize asked = canonical →
      (g.chainFor context provided).value = .ok chain →
      Prevails on v s.store canonical chain (groupOrder g.policy.order) n →
      let r := (g.resolve s context asked provided).value.1
      r.result = .ok v ∧ r.trace.source = .override ∧ r.trace.overrides.alias = none ∧
        (ScopeGroup.ofKind n.kind ≠ .rolePerm → r.trace.overrides.scope = some n) := by
  intro s canonical n
  refine ⟨fun given t ht hn => ?_, fun context asked provided chain hasked hchain h => ?_⟩
  · exact mem_providedChain (hn ▸ List.mem_map_of_mem ht)
  · have hbefore : g.Coherent (g.run start requests).2 :=
      coherent_run (coherent_of_entries_eq_nil hcache) requests
    have hs : g.Coherent s := coherent_run_update hbefore key scope (some v) actor later
    have haccepts := accepts_of_update_eq_ok hset
    have hget : s.store.get canonical n = .ofBool v := by
      rw [store_run_of_isResolve hlater]
      exact get_update_of_accepts hwriter haccepts _ _ _ List.mem_cons_self
    have hkey : canonical ≠ "" := normalize_ne_empty haccepts.1
    rw [← hasked] at h hget hkey
    exact resolve_of_prevails hs hreader hstrategy hkey hchain h hget

/-- A gate whose spelling rule puts a blank character at both ends. -/
def padding : Gate :=
  { Gate.renaming with normalizer := fun id => " " ++ Text.lowercase id ++ " " }

/-- Another role has the feature on, and it is off at a tenant. -/
def otherOverrides : List Request :=
  [.update "new" (.role "QA") (some true) ⟨"ann", "user", "Ann"⟩,
    .update " old" (.tenant "t") (some false) ⟨"ann", "user", "Ann"⟩]

/-- A question with other spellings of the key and the roles. -/
def respelled : Chain := [.role "qa ", .role " BETA", ⟨.tenant, "", " t", ""⟩]

theorem write_is_found_respelled :
    let changed := Gate.padding.set (Gate.padding.run .initial otherOverrides).2 "old"
      (.role "Beta") true ⟨"bob", "user", "Bob"⟩
    let s := (Gate.padding.run changed.value.2 [.resolve {} "old" (some respelled)]).2
    changed.value.1 = .ok () ∧
      Scope.role " beta " ∈ Gate.padding.providedChain respelled ∧
      (Gate.padding.resolve s {} " new " (some respelled)).value.1.result = .ok true := by
  dsimp only
  have hset : (Gate.padding.set (Gate.padding.run .initial otherOverrides).2 "old" (.role "Beta")
      true ⟨"bob", "user", "Bob"⟩).value.1 = .ok () := by decide +kernel
  have hscope : Gate.padding.policy.normalizeScope (.role "Beta") = .role " beta " := by
    decide +kernel
  have hspelled : Gate.padding.policy.normalizeScope (.role " BETA") = .role " beta " := by
    decide +kernel
  have hkey : Gate.padding.aliases.normalize "old" = "new" := by decide +kernel
  have hasked : Gate.padding.aliases.normalize " new " = "new" := by decide +kernel
  have hchain : (Gate.padding.chainFor {} (some respelled)).value =
      .ok (Gate.padding.providedChain respelled) := rfl
  have hfound := write_is_found .padding false rfl rfl rfl .initial rfl
    otherOverrides "old" (.role "Beta") true ⟨"bob", "user", "Bob"⟩
    [.resolve {} "old" (some respelled)] (List.forall_mem_singleton.2 rfl) hset
  simp only [hkey, hscope] at hfound
  refine ⟨hset, hfound.1 respelled _ (List.mem_of_getElem? (i := 1) rfl) hspelled, ?_⟩
  refine (hfound.2 {} " new " (some respelled) _ hasked hchain ?_).1
  exact
    { mem := by decide +kernel
      asked := by decide +kernel
      earlier := by decide +kernel
      front := by decide +kernel
      unbeaten := by decide +kernel }

end Gate

end FeatureFlags
