import FeatureFlags.ChainPolicy
import FeatureFlags.Proofs.Collections

/-!
# The chain of an actor

Which scopes are in the chain of an actor is said by rules, one for each kind of scope
(`LeadsTo`).  How they stand in it is said by three more (`IsChainOf`): the kinds come in the order
of the policy with the system at the end unless the order names it, a role or a permission that is
held in a tenant or an organisation comes right behind the same one wherever it is held, and the
identifiers of a kind are ascending or in the order in which they are held.

A derived chain has the scopes of one kind after those of another (`derive_make`), each kind once.
So what holds inside the kinds and between any two of them holds of the chain.
-/

namespace FeatureFlags

open Text (trim)

/-- The identifiers of roles or permissions, as they are held. -/
def Claims.held (c : Claims) : ScopeKind → List String
  | .role => c.roles
  | .perm => c.perms
  | _ => []

namespace ChainPolicy

/-! ## The rules -/

/-- An order names a kind, the empty one every kind. -/
def Names (order : List ScopeKind) (kind : ScopeKind) : Prop := order = [] ∨ kind ∈ order

/-- The kinds as they come in a chain, where only the first of a kind counts: those of the order,
or the usual ones if it is empty, and then the system. -/
def kindOrder (order : List ScopeKind) : List ScopeKind :=
  (if order = [] then defaultOrder else order) ++ [.system]

/-- The scopes that the claims of an actor lead to. -/
inductive LeadsTo (order : List ScopeKind) (p : ChainPolicy) (c : Claims) : Scope → Prop where
  | system : LeadsTo order p c .system
  | tenant : Names order .tenant → trim c.tenantId ≠ "" →
      LeadsTo order p c (.tenant (trim c.tenantId))
  | org : Names order .org → trim c.orgId ≠ "" →
      LeadsTo order p c (.org (trim c.tenantId) (trim c.orgId))
  | user : Names order .user → trim c.subjectId ≠ "" →
      LeadsTo order p c (.user (trim c.tenantId) (trim c.orgId) (trim c.subjectId))
  /-- A role or a permission, wherever it is held. -/
  | anywhere {kind : ScopeKind} {id : String} : Names order kind → id ∈ c.held kind →
      p.normalizeId id ≠ "" → LeadsTo order p c ⟨kind, p.normalizeId id, "", ""⟩
  /-- The same one as it is held in the tenant and the organisation, if there is one of them. -/
  | here {kind : ScopeKind} {id : String} : Names order kind → id ∈ c.held kind →
      p.normalizeId id ≠ "" → trim c.tenantId ≠ "" ∨ trim c.orgId ≠ "" →
      LeadsTo order p c ⟨kind, p.normalizeId id, trim c.tenantId, trim c.orgId⟩

/-- One normalized identifier comes before another: it is smaller, or it occurs first among those
that are held. -/
def Precedes (p : ChainPolicy) (ids : List String) (a b : String) : Prop :=
  if p.preserveOrder then (ids.map p.normalizeId).idxOf a < (ids.map p.normalizeId).idxOf b
  else compare a b = .lt

/-- What the chain of an actor looks like. -/
structure IsChainOf (order : List ScopeKind) (p : ChainPolicy) (c : Claims) (chain : Chain) :
    Prop where
  /-- No scope comes twice. -/
  nodup : chain.Nodup
  /-- The scopes are those that the claims lead to. -/
  mem_iff (s : Scope) : s ∈ chain ↔ LeadsTo order p c s
  /-- The system comes once. -/
  system : chain.count .system = 1
  /-- The kinds come in their order. -/
  kinds : chain.Pairwise fun s s' =>
    (kindOrder order).idxOf s.kind ≤ (kindOrder order).idxOf s'.kind
  /-- A role or a permission wherever it is held is followed by the one that is held here. -/
  followed {kind : ScopeKind} {id : String} : kind.isRolePerm = true →
    ⟨kind, id, "", ""⟩ ∈ chain → trim c.tenantId ≠ "" ∨ trim c.orgId ≠ "" →
    [⟨kind, id, "", ""⟩, ⟨kind, id, trim c.tenantId, trim c.orgId⟩] <:+: chain
  /-- Roles or permissions that are held in the same place come in the order of their
  identifiers. -/
  ids : chain.Pairwise fun s s' => s.kind.isRolePerm = true → s.kind = s'.kind →
    s.tenantId = s'.tenantId → s.orgId = s'.orgId → p.Precedes (c.held s.kind) s.id s'.id

/-! ## Kinds one after the other -/

/-- The parts of a list that are put together stand in it as they are. -/
theorem infix_flatMap {α β : Type} {l : List α} {a : α} (h : a ∈ l) (f : α → List β) :
    f a <:+: l.flatMap f := by
  rw [List.flatMap_def]
  exact List.infix_of_mem_flatten (List.mem_map_of_mem h)

/-- The kinds that are walked are those of the order, and the system. -/
theorem mem_kindOrder {order : List ScopeKind} {kind : ScopeKind} :
    kind ∈ kindOrder order ↔ Names order kind ∨ kind = .system := by
  rw [kindOrder, List.mem_append, List.mem_singleton, Names]
  split
  · next h => cases kind <;> simp [h, defaultOrder]
  · next h => simp [h]

/-- The kinds of an order, each once, and the system at their end unless it is one of them. -/
theorem eraseDups_kindOrder (order : List ScopeKind) :
    (kindOrder order).eraseDups =
      if .system ∈ effectiveOrder order then effectiveOrder order
      else effectiveOrder order ++ [.system] := by
  cases order with
  | nil => rfl
  | cons kind rest =>
    have heffective : effectiveOrder (kind :: rest) = (kind :: rest).eraseDups := rfl
    rw [kindOrder, if_neg (List.cons_ne_nil kind rest), eraseDups_append_singleton,
      heffective]
    simp only [List.mem_eraseDups]

variable {order : List ScopeKind} {preserveOrder : Bool} {normalizer : Normalizer}
  {p : ChainPolicy} {c : Claims}

/-- Scopes of other kinds never bring in the system. -/
theorem hasSystem_flatMap_scopesOf (p : ChainPolicy) (c : Claims) (kinds : List ScopeKind) :
    Chain.hasSystem (kinds.flatMap (p.scopesOf c)) = true ↔ .system ∈ kinds := by
  simp only [Chain.hasSystem, List.any_eq_true, List.mem_flatMap]
  constructor
  · rintro ⟨s, ⟨kind, hkind, hs⟩, hsystem⟩
    obtain rfl : kind = .system := (kind_of_mem_scopesOf hs).symm.trans (of_decide_eq_true hsystem)
    exact hkind
  · intro h
    exact ⟨.system, ⟨.system, h, List.mem_singleton_self _⟩, rfl⟩

/-- A derived chain has the scopes of one kind after those of another. -/
theorem derive_make (order : List ScopeKind) (preserveOrder : Bool) (normalizer : Normalizer)
    (c : Claims) :
    let p := make order preserveOrder normalizer
    p.derive c = (kindOrder order).eraseDups.flatMap (p.scopesOf c) := by
  intro p
  show Chain.withSystem ((effectiveOrder order).flatMap (p.scopesOf c)) = _
  rw [Chain.withSystem, eraseDups_kindOrder]
  by_cases h : .system ∈ effectiveOrder order
  · rw [if_pos ((hasSystem_flatMap_scopesOf p c _).2 h), if_pos h]
  · rw [if_neg fun hsystem => h ((hasSystem_flatMap_scopesOf p c _).1 hsystem), if_neg h,
      List.flatMap_append, List.flatMap_singleton]
    rfl

/-! ## Identifiers -/

/-- No identifier is held twice, in either mode. -/
theorem nodup_normalizeIds (p : ChainPolicy) (ids : List String) : (p.normalizeIds ids).Nodup := by
  simp only [normalizeIds]
  split
  · exact nodup_eraseDups _
  · exact nodup_of_ascending (ascending_sortedDistinct _)

/-- Identifiers stand in their order, sorted or as they were first held. -/
theorem pairwise_precedes_normalizeIds (p : ChainPolicy) (ids : List String) :
    (p.normalizeIds ids).Pairwise (p.Precedes ids) := by
  cases h : p.preserveOrder with
  | true =>
    have hprecedes : p.Precedes ids = fun a b =>
        (ids.map p.normalizeId).idxOf a < (ids.map p.normalizeId).idxOf b := by
      funext a b
      simp only [Precedes, h, if_true]
    simp only [normalizeIds, hprecedes, h, if_true]
    -- The empty identifiers are dropped first, which does not change which one occurs first.
    rw [eraseDups_filter]
    exact (pairwise_idxOf_eraseDups _).filter _
  | false =>
    have hprecedes : p.Precedes ids = fun a b => compare a b = .lt := by
      funext a b
      simp only [Precedes, h, Bool.false_eq_true, if_false]
    simp only [normalizeIds, hprecedes, h, Bool.false_eq_true, if_false]
    exact ascending_sortedDistinct _

/-! ## Roles and permissions -/

section Holdings

/-- The scopes of one role or permission. -/
def places (kind : ScopeKind) (tenant org id : String) : Chain :=
  ⟨kind, id, "", ""⟩ :: if tenant = "" ∧ org = "" then [] else [⟨kind, id, tenant, org⟩]

variable {kind : ScopeKind} {ids : List String} {tenant org id : String} {s : Scope}

theorem holdings_eq_flatMap (kind : ScopeKind) (ids : List String) (tenant org : String) :
    holdings kind ids tenant org = ids.flatMap (places kind tenant org) := rfl

/-- With a tenant or an organisation, an identifier has two scopes, the qualified one last. -/
theorem places_of_ne (h : tenant ≠ "" ∨ org ≠ "") :
    places kind tenant org id = [⟨kind, id, "", ""⟩, ⟨kind, id, tenant, org⟩] := by
  rw [places, if_neg (Decidable.not_and_iff_or_not.2 h)]

theorem mem_places :
    s ∈ places kind tenant org id ↔ s = ⟨kind, id, "", ""⟩ ∨
      (tenant ≠ "" ∨ org ≠ "") ∧ s = ⟨kind, id, tenant, org⟩ := by
  rw [places, List.mem_cons]
  refine or_congr_right ?_
  split
  · next h => simp [h]
  · next h => rw [List.mem_singleton, and_iff_right (Decidable.not_and_iff_or_not.1 h)]

theorem id_of_mem_places (h : s ∈ places kind tenant org id) : s.id = id := by
  rcases mem_places.1 h with rfl | ⟨-, rfl⟩
  · rfl
  · rfl

/-- The two scopes of one role or permission are not held in the same place. -/
theorem pairwise_places (r : Scope → Scope → Prop) :
    (places kind tenant org id).Pairwise fun s s' =>
      s.tenantId = s'.tenantId → s.orgId = s'.orgId → r s s' := by
  rw [places]
  split
  · exact List.pairwise_singleton _ _
  · next hplace => exact List.pairwise_pair.2 fun ht ho => absurd ⟨ht.symm, ho.symm⟩ hplace

theorem mem_holdings :
    s ∈ holdings kind ids tenant org ↔ ∃ id ∈ ids, s ∈ places kind tenant org id :=
  List.mem_flatMap

/-- What holds of identifiers one after the other holds of the scopes held in the same place. -/
theorem pairwise_holdings {r : String → String → Prop} (h : ids.Pairwise r) :
    (holdings kind ids tenant org).Pairwise fun s s' =>
      s.tenantId = s'.tenantId → s.orgId = s'.orgId → r s.id s'.id := by
  rw [holdings_eq_flatMap, List.pairwise_flatMap]
  refine ⟨fun id _ => pairwise_places _, h.imp fun {id id'} hr s hs s' hs' _ _ => ?_⟩
  rwa [id_of_mem_places hs, id_of_mem_places hs']

/-- Different identifiers have different scopes. -/
theorem nodup_holdings (h : ids.Nodup) : (holdings kind ids tenant org).Nodup := by
  refine (pairwise_holdings (r := (· ≠ ·)) h).imp fun hne heq => ?_
  subst heq
  exact hne rfl rfl rfl

end Holdings

/-! ## The scopes of one kind -/

variable {kind : ScopeKind} {s : Scope}

/-- Roles and permissions are treated alike. -/
theorem scopesOf_of_isRolePerm (hkind : kind.isRolePerm = true) (p : ChainPolicy) (c : Claims) :
    p.scopesOf c kind =
      holdings kind (p.normalizeIds (c.held kind)) (trim c.tenantId) (trim c.orgId) := by
  cases kind with
  | role => rfl
  | perm => rfl
  | system => cases hkind
  | tenant => cases hkind
  | org => cases hkind
  | user => cases hkind

theorem isRolePerm_of_mem_held {id : String} (h : id ∈ c.held kind) : kind.isRolePerm = true := by
  cases kind with
  | role => rfl
  | perm => rfl
  | system => cases h
  | tenant => cases h
  | org => cases h
  | user => cases h

theorem mem_unlessEmpty {id : String} {s t : Scope} : t ∈ unlessEmpty id s ↔ id ≠ "" ∧ t = s := by
  rw [unlessEmpty]
  split
  · next h => simp [h]
  · next h => simp [h]

/-- Roles and permissions come wherever they are held, and as they are held here. -/
theorem mem_scopesOf_of_isRolePerm (hkind : kind.isRolePerm = true) :
    s ∈ p.scopesOf c kind ↔ ∃ id ∈ c.held kind, p.normalizeId id ≠ "" ∧
      s ∈ places kind (trim c.tenantId) (trim c.orgId) (p.normalizeId id) := by
  simp only [scopesOf_of_isRolePerm hkind, mem_holdings, mem_normalizeIds]
  constructor
  · rintro ⟨_, ⟨hne, id, hid, rfl⟩, hs⟩
    exact ⟨id, hid, hne, hs⟩
  · rintro ⟨id, hid, hne, hs⟩
    exact ⟨_, ⟨hne, id, hid, rfl⟩, hs⟩

theorem nodup_unlessEmpty (id : String) (s : Scope) : (unlessEmpty id s).Nodup := by
  rw [unlessEmpty]
  split
  · exact .nil
  · exact List.nodup_singleton s

/-- No kind brings a scope twice. -/
theorem nodup_scopesOf (p : ChainPolicy) (c : Claims) (kind : ScopeKind) :
    (p.scopesOf c kind).Nodup := by
  cases kind with
  | system => exact List.nodup_singleton _
  | tenant => exact nodup_unlessEmpty _ _
  | org => exact nodup_unlessEmpty _ _
  | user => exact nodup_unlessEmpty _ _
  | role => exact nodup_holdings (p.nodup_normalizeIds _)
  | perm => exact nodup_holdings (p.nodup_normalizeIds _)

/-- Roles or permissions held in the same place come in the order of their identifiers. -/
theorem pairwise_precedes_scopesOf (p : ChainPolicy) (c : Claims) (kind : ScopeKind) :
    (p.scopesOf c kind).Pairwise fun s s' => s.kind.isRolePerm = true → s.kind = s'.kind →
      s.tenantId = s'.tenantId → s.orgId = s'.orgId → p.Precedes (c.held s.kind) s.id s'.id := by
  cases hkind : kind.isRolePerm with
  | false =>
    refine List.pairwise_of_forall_mem_list fun s hs _ _ hrole => ?_
    rw [kind_of_mem_scopesOf hs, hkind] at hrole
    cases hrole
  | true =>
    have hheld : (p.scopesOf c kind).Pairwise fun s s' =>
        s.tenantId = s'.tenantId → s.orgId = s'.orgId →
          p.Precedes (c.held kind) s.id s'.id := by
      rw [scopesOf_of_isRolePerm hkind]
      exact pairwise_holdings (p.pairwise_precedes_normalizeIds (c.held kind))
    refine hheld.imp_of_mem fun hs _ hprecedes _ _ ht ho => ?_
    rw [kind_of_mem_scopesOf hs]
    exact hprecedes ht ho

/-- The rules for one kind. -/
theorem leadsTo_of_mem_scopesOf (hkind : Names order kind ∨ kind = .system)
    (hs : s ∈ p.scopesOf c kind) : LeadsTo order p c s := by
  have hheld (hrole : kind.isRolePerm = true) : LeadsTo order p c s := by
    obtain ⟨id, hid, hne, hs⟩ := (mem_scopesOf_of_isRolePerm hrole).1 hs
    have hnames : Names order kind := hkind.resolve_right fun h => by subst h; cases hrole
    rcases mem_places.1 hs with rfl | ⟨hplace, rfl⟩
    · exact .anywhere hnames hid hne
    · exact .here hnames hid hne hplace
  cases kind with
  | role => exact hheld rfl
  | perm => exact hheld rfl
  | system =>
    rw [List.mem_singleton.1 hs]
    exact .system
  | tenant =>
    obtain ⟨hne, rfl⟩ := mem_unlessEmpty.1 hs
    exact .tenant (hkind.resolve_right (nomatch ·)) hne
  | org =>
    obtain ⟨hne, rfl⟩ := mem_unlessEmpty.1 hs
    exact .org (hkind.resolve_right (nomatch ·)) hne
  | user =>
    obtain ⟨hne, rfl⟩ := mem_unlessEmpty.1 hs
    exact .user (hkind.resolve_right (nomatch ·)) hne

theorem exists_mem_scopesOf_of_leadsTo (h : LeadsTo order p c s) :
    ∃ kind, (Names order kind ∨ kind = .system) ∧ s ∈ p.scopesOf c kind := by
  cases h with
  | system => exact ⟨.system, .inr rfl, List.mem_singleton_self _⟩
  | tenant hnames hne => exact ⟨.tenant, .inl hnames, mem_unlessEmpty.2 ⟨hne, rfl⟩⟩
  | org hnames hne => exact ⟨.org, .inl hnames, mem_unlessEmpty.2 ⟨hne, rfl⟩⟩
  | user hnames hne => exact ⟨.user, .inl hnames, mem_unlessEmpty.2 ⟨hne, rfl⟩⟩
  | @anywhere kind id hnames hid hne =>
    refine ⟨kind, .inl hnames, (mem_scopesOf_of_isRolePerm (isRolePerm_of_mem_held hid)).2 ?_⟩
    exact ⟨id, hid, hne, mem_places.2 (.inl rfl)⟩
  | @here kind id hnames hid hne hplace =>
    refine ⟨kind, .inl hnames, (mem_scopesOf_of_isRolePerm (isRolePerm_of_mem_held hid)).2 ?_⟩
    exact ⟨id, hid, hne, mem_places.2 (.inr ⟨hplace, rfl⟩)⟩

/-! ## The chain -/

/-- What holds inside each kind, and between any two kinds in their order, holds of the chain. -/
theorem pairwise_derive {r : Scope → Scope → Prop}
    (hinside : ∀ kind, ((make order preserveOrder normalizer).scopesOf c kind).Pairwise r)
    (hbetween : ∀ s s' : Scope,
      (kindOrder order).idxOf s.kind < (kindOrder order).idxOf s'.kind → r s s') :
    ((make order preserveOrder normalizer).derive c).Pairwise r := by
  rw [derive_make, List.pairwise_flatMap]
  refine ⟨fun kind _ => hinside kind, ?_⟩
  refine (pairwise_idxOf_eraseDups _).imp fun {kind kind'} hlt s hs s' hs' => ?_
  refine hbetween s s' ?_
  rwa [kind_of_mem_scopesOf hs, kind_of_mem_scopesOf hs']

/-- The scopes of the chain are those to which the claims lead. -/
theorem mem_derive_iff_leadsTo :
    s ∈ (make order preserveOrder normalizer).derive c ↔
      LeadsTo order (make order preserveOrder normalizer) c s := by
  simp only [derive_make, List.mem_flatMap, List.mem_eraseDups, mem_kindOrder]
  constructor
  · rintro ⟨kind, hkind, hs⟩
    exact leadsTo_of_mem_scopesOf hkind hs
  · exact exists_mem_scopesOf_of_leadsTo

/-- The scopes of one role or permission stand together. -/
theorem places_infix_derive (hkind : kind.isRolePerm = true) {id : String}
    (hs : ⟨kind, id, "", ""⟩ ∈ (make order preserveOrder normalizer).derive c) :
    places kind (trim c.tenantId) (trim c.orgId) id <:+:
      (make order preserveOrder normalizer).derive c := by
  rw [derive_make] at hs ⊢
  obtain ⟨kind', hkind', hs⟩ := List.mem_flatMap.1 hs
  obtain rfl : kind = kind' := kind_of_mem_scopesOf hs
  have hkinds := infix_flatMap hkind' ((make order preserveOrder normalizer).scopesOf c)
  rw [scopesOf_of_isRolePerm hkind] at hs hkinds
  obtain ⟨id', hid', hs⟩ := mem_holdings.1 hs
  obtain rfl : id = id' := id_of_mem_places hs
  exact (infix_flatMap hid' _).trans hkinds

/-- The chain of an actor has the scopes that the claims lead to, each once and in their order,
whatever the order of the policy and its rule for identifiers are. -/
theorem isChainOf_derive (order : List ScopeKind) (preserveOrder : Bool) (normalizer : Normalizer)
    (c : Claims) :
    let p := make order preserveOrder normalizer
    IsChainOf order p c (p.derive c) := by
  intro p
  have hnodup : (p.derive c).Nodup := by
    refine pairwise_derive (nodup_scopesOf p c) fun s s' hlt heq => ?_
    subst heq
    exact Nat.lt_irrefl _ hlt
  refine ⟨hnodup, fun s => mem_derive_iff_leadsTo, ?_, ?_, fun hkind hs hplace => ?_, ?_⟩
  · exact List.count_eq_one_of_mem hnodup (system_mem_derive p c)
  · refine pairwise_derive (fun kind => ?_) fun s s' hlt => Nat.le_of_lt hlt
    refine List.pairwise_of_forall_mem_list fun s hs s' hs' => ?_
    rw [kind_of_mem_scopesOf hs, kind_of_mem_scopesOf hs']
  · rw [← places_of_ne hplace]
    exact places_infix_derive hkind hs
  · refine pairwise_derive (pairwise_precedes_scopesOf p c) fun s s' hlt _ heq => ?_
    rw [heq] at hlt
    exact absurd hlt (Nat.lt_irrefl _)

/-- The order names a kind twice and the system not at all, and one role is held twice. -/
example :
    (make [.tenant, .role, .tenant] true .standard).derive
        { subjectId := "ann", tenantId := " t ", roles := ["beta", "Admin", " BETA"] } =
      [.tenant "t", .role "beta", .roleIn "beta" "t" "", .role "admin", .roleIn "admin" "t" "",
        .system] := by decide +kernel

end ChainPolicy

end FeatureFlags
