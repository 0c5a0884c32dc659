import FeatureFlags.Proofs.CacheCoherence
import FeatureFlags.Proofs.GroupWalk
import FeatureFlags.Proofs.Writes

/-!
# Tenants and organisations do not see each other

A scope is open to the actors of a tenant and an organisation when it is limited to no other
tenant and no other organisation.  All scopes that claims lead to are open to the actor who
holds them.  So a change at any other scope, however it is spelled, is never noticed by that
actor.

The proof compares two runs.  `Gate.Alike` says that an actor cannot tell two states apart: the
records agree at all open scopes, and both caches are coherent.  A foreign change on one side
keeps the states alike, and so does any other request on both sides.
-/

namespace FeatureFlags

open Text (trim)

variable {g : Gate} {s t : GateState} {tenant org : String}

/-! ## Open scopes -/

/-- The scope is limited to no other tenant and no other organisation. -/
def Scope.OpenTo (s : Scope) (tenant org : String) : Prop :=
  (s.tenantId = "" ∨ s.tenantId = tenant) ∧ (s.orgId = "" ∨ s.orgId = org)

instance (s : Scope) : Decidable (s.OpenTo tenant org) :=
  inferInstanceAs (Decidable (_ ∧ _))

namespace ChainPolicy

theorem openTo_of_mem_unlessEmpty {id : String} {s p : Scope} (hp : p ∈ unlessEmpty id s)
    (hs : s.OpenTo tenant org) : p.OpenTo tenant org := by
  rw [unlessEmpty] at hp
  split at hp
  · cases hp
  · rwa [List.mem_singleton.1 hp]

theorem openTo_of_mem_holdings {kind : ScopeKind} {ids : List String} {p : Scope}
    (hp : p ∈ holdings kind ids tenant org) : p.OpenTo tenant org := by
  obtain ⟨id, -, hp⟩ := List.mem_flatMap.1 hp
  rcases List.mem_cons.1 hp with rfl | hp
  · exact ⟨.inl rfl, .inl rfl⟩
  · split at hp
    · cases hp
    · rw [List.mem_singleton.1 hp]
      exact ⟨.inr rfl, .inr rfl⟩

/-- Claims lead to scopes of their own tenant and organisation, or to scopes of none. -/
theorem openTo_of_mem_scopesOf {policy : ChainPolicy} {c : Claims} {kind : ScopeKind} {p : Scope}
    (hp : p ∈ policy.scopesOf c kind) : p.OpenTo (trim c.tenantId) (trim c.orgId) := by
  cases kind with
  | system =>
    rw [List.mem_singleton.1 hp]
    exact ⟨.inl rfl, .inl rfl⟩
  | tenant => exact openTo_of_mem_unlessEmpty hp ⟨.inr rfl, .inl rfl⟩
  | org => exact openTo_of_mem_unlessEmpty hp ⟨.inr rfl, .inr rfl⟩
  | user => exact openTo_of_mem_unlessEmpty hp ⟨.inr rfl, .inr rfl⟩
  | role => exact openTo_of_mem_holdings hp
  | perm => exact openTo_of_mem_holdings hp

/-- Claims lead to scopes only that are open to the actor who holds them. -/
theorem openTo_of_mem_derive {policy : ChainPolicy} {c : Claims} {p : Scope}
    (hp : p ∈ policy.derive c) : p.OpenTo (trim c.tenantId) (trim c.orgId) := by
  rcases Chain.mem_withSystem.1 hp with hp | ⟨rfl, -⟩
  · obtain ⟨kind, -, hp⟩ := List.mem_flatMap.1 hp
    exact openTo_of_mem_scopesOf hp
  · exact ⟨.inl rfl, .inl rfl⟩

end ChainPolicy

namespace Gate

/-! ## What an actor is told -/

/-- A change at a scope of another tenant or another organisation. -/
def isForeign (g : Gate) (tenant org : String) : Request → Bool
  | .resolve .. => false
  | .update _ scope _ _ => !decide ((g.policy.normalizeScope scope).OpenTo tenant org)

/-- A question of an actor of the tenant and the organisation, for the chain of the claims. -/
def isAskedFrom (g : Gate) (tenant org : String) : Request → Bool
  | .resolve context _ none =>
    match (g.fullClaims context).value with
    | .ok c => decide (trim c.tenantId = tenant ∧ trim c.orgId = org)
    | .error _ => false
  | _ => false

/-- The replies to the actors of a tenant and an organisation in a run, without the marks of
repeated answers. -/
def told (g : Gate) (tenant org : String) (s : GateState) (requests : List Request) :
    List Reply :=
  ((requests.zip (g.run s requests).1).filter fun x => g.isAskedFrom tenant org x.1).map
    fun x => x.2.unmarked

theorem told_cons (g : Gate) (tenant org : String) (s : GateState) (q : Request)
    (rest : List Request) :
    g.told tenant org s (q :: rest) =
      (if g.isAskedFrom tenant org q then [(g.step s q).1.unmarked] else []) ++
        g.told tenant org (g.step s q).2 rest := by
  simp only [told, run, List.zip_cons_cons, List.filter_cons]
  split
  · rfl
  · rfl

/-- A change elsewhere is no question of the actor. -/
theorem isAskedFrom_of_isForeign {q : Request} (h : g.isForeign tenant org q = true) :
    g.isAskedFrom tenant org q = false := by
  cases q with
  | resolve context key provided => cases h
  | update key scope value actor => rfl

/-! ## States that an actor cannot tell apart -/

/-- Two states that the actors of a tenant and an organisation cannot tell apart. -/
structure Alike (g : Gate) (tenant org : String) (s t : GateState) : Prop where
  /-- The records at open scopes are the same. -/
  records : ∀ k p, p.OpenTo tenant org → s.store.record? k p = t.store.record? k p
  /-- The cache of the one state is coherent. -/
  left : g.Coherent s
  /-- The cache of the other state is coherent. -/
  right : g.Coherent t

namespace Alike

/-- A coherent state is like itself. -/
theorem refl (hs : g.Coherent s) : g.Alike tenant org s s := ⟨fun _ _ _ => rfl, hs, hs⟩

/-- A foreign change on one side is not noticed. -/
theorem foreign (h : g.Alike tenant org s t) (hwriter : g.collaborators.writer = some .ofStore)
    {q : Request} (hq : g.isForeign tenant org q = true) :
    g.Alike tenant org (g.step s q).2 t := by
  refine ⟨fun k p hp => ?_, coherent_step_nothing h.left q, h.right⟩
  cases q with
  | resolve context key provided => cases hq
  | update key scope value actor =>
    have hne : g.policy.normalizeScope scope ≠ p := by
      rintro rfl
      simp only [isForeign, hp, decide_true, Bool.not_true, Bool.false_eq_true] at hq
    simp only [step, record?_update hwriter, hne, and_false, if_false]
    exact h.records k p hp

/-- The same request on both sides keeps the states alike. -/
theorem both (h : g.Alike tenant org s t) (hwriter : g.collaborators.writer = some .ofStore)
    (q : Request) : g.Alike tenant org (g.step s q).2 (g.step t q).2 := by
  refine ⟨fun k p hp => ?_, coherent_step_nothing h.left q, coherent_step_nothing h.right q⟩
  cases q with
  | resolve context key provided => exact h.records k p hp
  | update key scope value actor =>
    simp only [step, record?_update hwriter, h.records k p hp]

/-- States that are alike give the same answer to a question of the actor. -/
theorem reply (h : g.Alike tenant org s t) (hreader : g.collaborators.reader = some .ofStore)
    {q : Request} (hq : g.isAskedFrom tenant org q = true) :
    (g.step s q).1.unmarked = (g.step t q).1.unmarked := by
  match q, hq with
  | .resolve context key none, hq =>
    simp only [isAskedFrom] at hq
    cases hclaims : (g.fullClaims context).value with
    | error e =>
      rw [hclaims] at hq
      cases hq
    | ok c =>
      rw [hclaims] at hq
      obtain ⟨rfl, rfl⟩ := of_decide_eq_true hq
      simp only [step, Reply.unmarked, Reply.resolved.injEq]
      rw [unmarked_resolve h.left, unmarked_resolve h.right]
      rcases resolve_cases g context key none with ⟨r, hr⟩ | ⟨chain, hchain, hr⟩
      · rw [hr, hr]
      · have hderive : g.policy.derive c = chain :=
          Except.ok.inj ((value_chainFor_of_claims hclaims).symm.trans hchain)
        have hread : ∀ k, OverrideReader.ofStore s.store k chain =
            OverrideReader.ofStore t.store k chain := by
          intro k
          refine congrArg Except.ok (OverrideStore.getAll_congr fun p hp => h.records k p ?_)
          exact ChainPolicy.openTo_of_mem_derive (hderive ▸ hp)
        rw [hr, hr, withoutCache, withoutCache, value_resolveIn_noop, value_resolveIn_noop,
          resolveFresh_congr hreader hread]

end Alike

/-! ## Runs -/

/-- An actor is told the same when the foreign changes are left out. -/
theorem told_filter (hreader : g.collaborators.reader = some .ofStore)
    (hwriter : g.collaborators.writer = some .ofStore) (h : g.Alike tenant org s t)
    (requests : List Request) :
    g.told tenant org s requests =
      g.told tenant org t (requests.filter fun q => !g.isForeign tenant org q) := by
  induction requests generalizing s t with
  | nil => rfl
  | cons q rest ih =>
    rw [told_cons]
    by_cases hq : g.isForeign tenant org q = true
    · rw [List.filter_cons_of_neg (by simpa using hq), isAskedFrom_of_isForeign hq,
        ih (h.foreign hwriter hq)]
      rfl
    · rw [List.filter_cons_of_pos (by simpa using hq), told_cons, ih (h.both hwriter q)]
      by_cases ha : g.isAskedFrom tenant org q = true
      · rw [if_pos ha, if_pos ha, h.reply hreader ha]
      · rw [if_neg ha, if_neg ha]

/-- Two runs that differ in foreign changes only tell an actor the same. -/
theorem isolation (g : Gate) (hreader : g.collaborators.reader = some .ofStore)
    (hwriter : g.collaborators.writer = some .ofStore) (tenant org : String) (s : GateState)
    (hcache : s.cache.entries = []) (requests requests' : List Request)
    (h : (requests.filter fun q => !g.isForeign tenant org q) =
      requests'.filter fun q => !g.isForeign tenant org q) :
    g.told tenant org s requests = g.told tenant org s requests' := by
  have hstart : g.Alike tenant org s s := .refl (coherent_of_entries_eq_nil hcache)
  rw [told_filter hreader hwriter hstart requests, h,
    ← told_filter hreader hwriter hstart requests']

/-- A feature is turned on at a tenant, and a user of the tenant asks for it twice. -/
def askedTwice (between : List Request) : List Request :=
  .update "new" (.tenant "t") (some true) ⟨"ann", "user", "Ann"⟩ ::
    .resolve (.ofClaims { subjectId := "ann", tenantId := "t" }) "old" none ::
    between ++ [.resolve (.ofClaims { subjectId := "ann", tenantId := "t" }) "new" none]

/-- The feature is turned off for a user of the same name at another tenant. -/
def offElsewhere : Request :=
  .update "old" (.user " x " "" "ann") (some false) ⟨"bob", "user", "Bob"⟩

theorem isolation_offElsewhere :
    (askedTwice [offElsewhere]).filter (fun q => !Gate.renaming.isForeign "t" "" q) =
        (askedTwice []).filter (fun q => !Gate.renaming.isForeign "t" "" q) ∧
      Gate.renaming.told "t" "" .initial (askedTwice [offElsewhere]) =
        Gate.renaming.told "t" "" .initial (askedTwice []) ∧
      (Gate.renaming.told "t" "" .initial (askedTwice [])).length = 2 := by
  have hforeign :
      (askedTwice [offElsewhere]).filter (fun q => !Gate.renaming.isForeign "t" "" q) =
        (askedTwice []).filter fun q => !Gate.renaming.isForeign "t" "" q := by decide +kernel
  exact ⟨hforeign, isolation .renaming rfl rfl "t" "" .initial rfl _ _ hforeign,
    by decide +kernel⟩

end Gate

end FeatureFlags
