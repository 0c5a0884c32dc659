import FeatureFlags.Proofs.CacheCoherence
import FeatureFlags.Proofs.Precedence
import FeatureFlags.Proofs.Writes

/-!
# A favoured value at a role never turns a feature the other way

Among roles and permissions one value wins: off under the restrictive strategy, on under the
permissive one.  Writing that value at a role or a permission leaves a feature as it is, or
turns it to that value, whatever key, actor or chain is asked.

The argument is about single keys first.  A new decision about a key is the old one, or it is
for the favoured value (`Leans`).  This carries over from single keys to the first key that
decides, although the write may make a key decide that did not decide before.
-/

namespace FeatureFlags

variable {g : Gate} {on : Bool} {s : GateState} {store store' : OverrideStore} {chain : Chain}

namespace Gate

/-! ## Decisions that lean to a value -/

/-- Every new decision is the old one, or it is for the value. -/
def Leans (on : Bool) (decisionOf decisionOf' : String → Except Error Decision) : Prop :=
  ∀ k, decisionOf' k = decisionOf k ∨ ∃ d, decisionOf' k = .ok d ∧ d.verdict = some on

section Leans

variable {decisionOf decisionOf' : String → Except Error Decision} {key k : String}
  {aliases : List String} {d : Decision} {legacy : Option String}

theorem Leans.eq_ok (h : Leans on decisionOf decisionOf') (hd : decisionOf' k = .ok d)
    (hv : d.verdict ≠ some on) : decisionOf k = .ok d := by
  rcases h k with heq | ⟨d', hd', hv'⟩
  · exact heq.symm.trans hd
  · obtain rfl := Except.ok.inj (hd.symm.trans hd')
    exact absurd hv' hv

theorem Leans.undecided (h : Leans on decisionOf decisionOf') (hk : Undecided (decisionOf' k)) :
    Undecided (decisionOf k) := by
  obtain ⟨d, hd, hv⟩ := hk
  exact ⟨d, h.eq_ok hd (by simp [hv]), hv⟩

/-- What comes of asking all keys is what came of it before, or it is for the value. -/
theorem Leans.firstDecision (h : Leans on decisionOf decisionOf')
    (hd : FirstDecision decisionOf' key aliases d legacy) (hv : d.verdict ≠ some on) :
    FirstDecision decisionOf key aliases d legacy := by
  cases hd with
  | canonical hk hsome => exact .canonical (h.eq_ok hk hv) hsome
  | legacy hk heq hbefore hd hsome =>
    exact .legacy (h.undecided hk) heq (fun a ha => h.undecided (hbefore a ha)) (h.eq_ok hd hv)
      hsome
  | nowhere hk hnone hall =>
    exact .nowhere (h.eq_ok hk hv) hnone fun a ha => h.undecided (hall a ha)

end Leans

/-! ## The favoured value at one scope -/

/-- Decisions lean to the favoured value when it is written at a role or a permission. -/
theorem leans_of_records (hstrategy : g.collaborators.strategy = .favouring on) {n : Scope}
    (hn : n.kind.isRolePerm = true)
    (hsame : ∀ k p, p ≠ n → store'.record? k p = store.record? k p)
    (hnew : ∀ k, store'.record? k n = store.record? k n ∨
      ∃ r, store'.record? k n = some r ∧ r.state = .ofBool on) :
    Leans on (g.decision .ofStore store chain) (g.decision .ofStore store' chain) := by
  intro k
  rw [decision_ofStore hstrategy, decision_ofStore hstrategy]
  have hgroups : ∀ group ∈ groupOrder g.policy.order,
      groupMatches group chain (store'.getAll k chain) =
          groupMatches group chain (store.getAll k chain) ∨
        ∃ w, groupWinner (preferring (.ofBool on) (.ofBool !on)) group
            (groupMatches group chain (store'.getAll k chain)) = some w ∧
          w.state = .ofBool on := by
    intro group _
    rw [groupMatches_getAll, groupMatches_getAll]
    rcases hnew k with heq | ⟨r, hr, hstate⟩
    · refine .inl (OverrideStore.getAll_congr fun p _ => ?_)
      by_cases hp : p = n
      · rw [hp, heq]
      · exact hsame k p hp
    · by_cases hmem : n ∈ chain.filter fun p => group.contains p.kind
      · obtain rfl : ScopeGroup.ofKind n.kind = group :=
          of_decide_eq_true (List.mem_filter.1 hmem).2
        rw [ScopeGroup.ofKind_of_isRolePerm hn] at hmem ⊢
        have hfound : ⟨n, r.state⟩ ∈ store'.getAll k _ :=
          OverrideStore.mem_getAll.2 ⟨hmem, r, hr, rfl⟩
        exact .inr (exists_preferring_eq_some hfound hstate)
      · refine .inl (OverrideStore.getAll_congr fun p hp => hsame k p ?_)
        rintro rfl
        exact hmem hp
  rcases decideGroups_eq_or_verdict_eq hgroups with heq | hverdict
  · exact .inl (congrArg Except.ok heq)
  · exact .inr ⟨_, rfl, hverdict⟩

theorem leans_set (hwriter : g.collaborators.writer = some .ofStore)
    (hstrategy : g.collaborators.strategy = .favouring on) (s : GateState) (key : String)
    {scope : Scope} (hscope : scope.kind.isRolePerm = true) (actor : Actor) :
    Leans on (g.decision .ofStore s.store chain)
      (g.decision .ofStore (g.set s key scope on actor).value.2.store chain) := by
  have hn : (g.policy.normalizeScope scope).kind.isRolePerm = true := by
    rw [ChainPolicy.kind_normalizeScope, hscope]
  refine leans_of_records hstrategy hn (fun k p hp => ?_) (fun k => ?_)
  · simp only [set, record?_update hwriter, Ne.symm hp, and_false, if_false]
  · simp only [set, record?_update hwriter]
    split
    · exact .inr ⟨_, rfl, rfl⟩
    · exact .inl rfl

/-! ## Resolutions -/

/-- Only what the overrides say is taken from the store. -/
theorem value_resolveFresh_of_overrides?_eq {t : Trace} {o : OverrideTrace}
    (h : g.overrides? store t.normalizedKey t.chain = some o)
    (h' : g.overrides? store' t.normalizedKey t.chain = some o) :
    (g.resolveFresh store' t).value = (g.resolveFresh store t).value := by
  rw [value_resolveFresh_of_overrides? h, value_resolveFresh_of_overrides? h']

theorem result_resolveFresh_of_leans (hreader : g.collaborators.reader = some .ofStore)
    (hstrategy : g.collaborators.strategy = .favouring on) {t : Trace} (ht : t.defaults = {})
    (hleans : Leans on (g.decision .ofStore store t.chain) (g.decision .ofStore store' t.chain))
    (h : (g.resolveFresh store t).value.1.result = .ok on) :
    (g.resolveFresh store' t).value.1.result = .ok on := by
  obtain ⟨d, legacy, hfirst⟩ := exists_firstDecision hstrategy store' t.chain t.normalizedKey
    (g.aliases.aliasesFor t.normalizedKey)
  have ho := (overrides?_eq_some_iff hreader).2 ⟨d, legacy, hfirst, rfl⟩
  by_cases hv : d.verdict = some on
  · have ha : g.answer? store' t.normalizedKey t.chain =
        some (.ofVerdict { toDecision := d, «alias» := legacy } on) := by
      rw [answer?, ho, Option.bind_some, hv]
    rw [value_resolveFresh_of_answer? ht ha]
    rfl
  · have ho' := (overrides?_eq_some_iff hreader).2 ⟨d, legacy, hleans.firstDecision hfirst hv, rfl⟩
    rw [value_resolveFresh_of_overrides?_eq ho' ho]
    exact h

/-- Writing the favoured value at a role or a permission turns no feature the other way.  A
resolution with that value keeps it, also after further resolutions. -/
theorem favoured_write_keeps_favoured (g : Gate) (on : Bool)
    (hreader : g.collaborators.reader = some .ofStore)
    (hwriter : g.collaborators.writer = some .ofStore)
    (hstrategy : g.collaborators.strategy = .favouring on) (start : GateState)
    (hcache : start.cache.entries = []) (requests : List Request) (key : String) (scope : Scope)
    (hscope : scope.kind.isRolePerm = true) (actor : Actor) (later : List Request)
    (hlater : ∀ q ∈ later, q.isResolve = true) (context : Context) (asked : String)
    (provided : Option Chain) :
    let s := (g.run start requests).2
    let s' := (g.run (g.set s key scope on actor).value.2 later).2
    (g.resolve s context asked provided).value.1.result = .ok on →
      (g.resolve s' context asked provided).value.1.result = .ok on := by
  intro s s' h
  have hs : g.Coherent s := coherent_run (coherent_of_entries_eq_nil hcache) requests
  have hset : g.Coherent (g.set s key scope on actor).value.2 :=
    coherent_step_nothing hs (.update key scope (some on) actor)
  have hs' : g.Coherent s' := coherent_run hset later
  rw [result_resolve_withoutCache hs] at h
  rw [result_resolve_withoutCache hs']
  rcases resolve_cases g context asked provided with ⟨r, hr⟩ | ⟨chain, -, hr⟩
  · rw [hr] at h ⊢
    exact h
  · rw [hr, withoutCache, value_resolveIn_noop] at h ⊢
    refine result_resolveFresh_of_leans hreader hstrategy rfl ?_ h
    rw [store_run_of_isResolve hlater]
    exact leans_set hwriter hstrategy s key hscope actor

/-- The feature is off at a tenant. -/
def offAtTenant : List Request :=
  [.update "new" (.tenant "t") (some false) ⟨"ann", "user", "Ann"⟩]

/-- An administrator of the tenant. -/
def admin : Context := .ofClaims { tenantId := "t", roles := ["Admin"] }

theorem favoured_write_keeps_favoured_offAtTenant :
    let s := (Gate.renaming.run .initial offAtTenant).2
    let denied := (Gate.renaming.set s "old" (.role " admin ") false ⟨"bob", "user", "Bob"⟩).value.2
    let s' := (Gate.renaming.run denied [.resolve admin "old" none]).2
    (Gate.renaming.resolve s admin "new" none).value.1.result = .ok false ∧
      (Gate.renaming.resolve s' admin "new" none).value.1.result = .ok false := by
  have hoff : (Gate.renaming.resolve (Gate.renaming.run .initial offAtTenant).2
      admin "new" none).value.1.result = .ok false := by decide +kernel
  have hstill := favoured_write_keeps_favoured .renaming false rfl rfl rfl .initial rfl
    offAtTenant "old" (.role " admin ") rfl ⟨"bob", "user", "Bob"⟩ [.resolve admin "old" none]
    (List.forall_mem_singleton.2 rfl) admin "new" none hoff
  exact ⟨hoff, hstill⟩

end Gate

end FeatureFlags
