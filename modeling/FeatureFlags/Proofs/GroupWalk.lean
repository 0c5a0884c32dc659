import FeatureFlags.OverrideStore
import FeatureFlags.Strategy.Basic
import Mathlib.Data.List.Basic

/-!
# The walk over the groups

The two strategies ask the groups of a chain one after the other.  A group is passed over
exactly when none of its candidates has a value, and the first group that is not passed over
gives the decision.

What is found in a store is found for each group apart: the candidates of a group are the
records at its scopes, in the order of the chain.
-/

namespace FeatureFlags

variable {rule : RolePermRule} {chain : Chain} {found found' : List OverrideMatch}
  {groups : List ScopeGroup} {candidates : List OverrideMatch} {w : OverrideMatch} {on : Bool}

/-! ## The winner of a group -/

/-- A rule that finds a candidate with a value if there is one. -/
structure RolePermRule.Decisive (rule : RolePermRule) : Prop where
  /-- The winner is a candidate. -/
  mem {candidates : List OverrideMatch} {w : OverrideMatch} :
    rule candidates = some w → w ∈ candidates
  /-- The winner has a value. -/
  hasValue {candidates : List OverrideMatch} {w : OverrideMatch} :
    rule candidates = some w → w.state.hasValue = true
  /-- Without a winner no candidate has a value. -/
  passed {candidates : List OverrideMatch} :
    rule candidates = none → ∀ m ∈ candidates, m.state.hasValue = false

theorem firstIn_eq_some {state : OverrideState} (h : firstIn state candidates = some w) :
    w ∈ candidates ∧ w.state = state :=
  ⟨List.mem_of_find?_eq_some h, by simpa using List.find?_some h⟩

theorem preferring_eq_or (first second : OverrideState) (candidates : List OverrideMatch) :
    preferring first second candidates =
      (firstIn first candidates).or (firstIn second candidates) :=
  Option.orElse_eq_or

theorem preferring_eq_some {first second : OverrideState}
    (h : preferring first second candidates = some w) :
    w ∈ candidates ∧ (w.state = first ∨ w.state = second) := by
  rw [preferring_eq_or] at h
  rcases Option.or_eq_some_iff.1 h with h | ⟨-, h⟩
  · exact ⟨(firstIn_eq_some h).1, .inl (firstIn_eq_some h).2⟩
  · exact ⟨(firstIn_eq_some h).1, .inr (firstIn_eq_some h).2⟩

theorem preferring_decisive (on : Bool) :
    RolePermRule.Decisive (preferring (.ofBool on) (.ofBool !on)) where
  mem h := (preferring_eq_some h).1
  hasValue h := by
    rcases (preferring_eq_some h).2 with heq | heq
    · rw [heq, OverrideState.hasValue_ofBool]
    · rw [heq, OverrideState.hasValue_ofBool]
  passed h m hm := by
    rw [preferring_eq_or] at h
    obtain ⟨hfirst, hsecond⟩ := Option.or_eq_none_iff.1 h
    rw [← Bool.not_eq_true]
    intro hv
    rcases OverrideState.eq_or_eq_of_hasValue hv on with heq | heq
    · exact List.find?_eq_none.1 hfirst m hm (decide_eq_true heq)
    · exact List.find?_eq_none.1 hsecond m hm (decide_eq_true heq)

/-- The preferred state wins wherever a candidate is in it. -/
theorem exists_preferring_eq_some {first second : OverrideState} {m : OverrideMatch}
    (hm : m ∈ candidates) (hstate : m.state = first) :
    ∃ w, preferring first second candidates = some w ∧ w.state = first := by
  cases h : firstIn first candidates with
  | none => exact absurd (by simpa using hstate) (List.find?_eq_none.1 h m hm)
  | some w => exact ⟨w, by rw [preferring_eq_or, h, Option.some_or], (firstIn_eq_some h).2⟩

theorem find?_filter_of_imp {α : Type} {p q : α → Bool} (h : ∀ a, q a = true → p a = true)
    (l : List α) : (l.filter p).find? q = l.find? q := by
  have hand : ∀ a, (p a = true ∧ q a = true) ↔ q a = true := fun a =>
    and_iff_right_of_imp (h a)
  simp only [List.find?_filter, hand, Bool.decide_eq_true]

/-- The candidates without a value play no part. -/
theorem groupWinner_filter_hasValue (on : Bool) (g : ScopeGroup) (candidates : List OverrideMatch) :
    groupWinner (preferring (.ofBool on) (.ofBool !on)) g
        (candidates.filter (·.state.hasValue)) =
      groupWinner (preferring (.ofBool on) (.ofBool !on)) g candidates := by
  have hfirst : ∀ b, firstIn (.ofBool b) (candidates.filter (·.state.hasValue)) =
      firstIn (.ofBool b) candidates := by
    intro b
    refine find?_filter_of_imp (fun m hm => ?_) candidates
    rw [of_decide_eq_true hm, OverrideState.hasValue_ofBool]
  cases g with
  | rolePerm => simp only [groupWinner, preferring, hfirst]
  | user => exact find?_filter_of_imp (fun _ => id) candidates
  | org => exact find?_filter_of_imp (fun _ => id) candidates
  | tenant => exact find?_filter_of_imp (fun _ => id) candidates
  | system => exact find?_filter_of_imp (fun _ => id) candidates

/-- A group is decided like roles and permissions are, if not by the same rule. -/
theorem groupWinner_decisive (hrule : rule.Decisive) (g : ScopeGroup) :
    RolePermRule.Decisive (groupWinner rule g) := by
  have hfirst : RolePermRule.Decisive (·.find? (·.state.hasValue)) := by
    refine ⟨List.mem_of_find?_eq_some, fun h => ?_, fun h m hm => ?_⟩
    · exact List.find?_some (p := fun m : OverrideMatch => m.state.hasValue) h
    · exact Bool.eq_false_iff.2 (List.find?_eq_none.1 h m hm)
  cases g with
  | rolePerm => exact hrule
  | user => exact hfirst
  | org => exact hfirst
  | tenant => exact hfirst
  | system => exact hfirst

/-! ## The walk -/

theorem verdict_decided (w : OverrideMatch) (candidates : List OverrideMatch) :
    (Decision.decided w candidates).verdict = some (decide (w.state = .enabled)) := rfl

theorem verdict_decided_ofBool (h : w.state = .ofBool on) :
    (Decision.decided w candidates).verdict = some on := by
  rw [verdict_decided, h]
  cases on <;> rfl

/-- The groups after those that are passed over decide. -/
theorem decideGroups_append_of_passed {before rest : List ScopeGroup}
    (h : ∀ g ∈ before, groupWinner rule g (groupMatches g chain found) = none) :
    decideGroups rule chain found (before ++ rest) = decideGroups rule chain found rest := by
  induction before with
  | nil => rfl
  | cons g before ih =>
    obtain ⟨hg, hbefore⟩ := List.forall_mem_cons.1 h
    rw [List.cons_append, decideGroups]
    simp only [hg]
    exact ih hbefore

/-- If every group is passed over, nothing decides. -/
theorem decideGroups_of_passed
    (h : ∀ g ∈ groups, groupWinner rule g (groupMatches g chain found) = none) :
    decideGroups rule chain found groups = .undecided := by
  rw [← List.append_nil groups, decideGroups_append_of_passed h]
  rfl

/-- Otherwise the winner of some group decides. -/
theorem decideGroups_of_winner
    (h : ¬ ∀ g ∈ groups, groupWinner rule g (groupMatches g chain found) = none) :
    ∃ g ∈ groups, ∃ w, groupWinner rule g (groupMatches g chain found) = some w ∧
      decideGroups rule chain found groups = .decided w (groupMatches g chain found) := by
  induction groups with
  | nil => exact absurd (fun _ hg => nomatch hg) h
  | cons g rest ih =>
    simp only [decideGroups]
    cases hg : groupWinner rule g (groupMatches g chain found) with
    | some w => exact ⟨g, List.mem_cons_self, w, hg, rfl⟩
    | none =>
      have hrest : ¬ ∀ g ∈ rest, groupWinner rule g (groupMatches g chain found) = none :=
        fun hrest => h (List.forall_mem_cons.2 ⟨hg, hrest⟩)
      obtain ⟨g', hg', hw⟩ := ih hrest
      exact ⟨g', List.mem_cons_of_mem g hg', hw⟩

/-- Two walks over the same groups end with related decisions if in each group both find winners
that lead to related decisions, or neither finds one. -/
theorem decideGroups_related {R : Decision → Decision → Prop} {rule' : RolePermRule}
    {chain' : Chain} (hundecided : R .undecided .undecided)
    (h : ∀ g ∈ groups,
      Option.Rel (fun w w' => R (.decided w (groupMatches g chain found))
          (.decided w' (groupMatches g chain' found')))
        (groupWinner rule g (groupMatches g chain found))
        (groupWinner rule' g (groupMatches g chain' found'))) :
    R (decideGroups rule chain found groups) (decideGroups rule' chain' found' groups) := by
  induction groups with
  | nil => exact hundecided
  | cons g rest ih =>
    obtain ⟨hg, hrest⟩ := List.forall_mem_cons.1 h
    simp only [decideGroups]
    generalize groupWinner rule g (groupMatches g chain found) = w at hg ⊢
    generalize groupWinner rule' g (groupMatches g chain' found') = w' at hg ⊢
    cases hg with
    | some hR => exact hR
    | none => exact ih hrest

/-- If something else is found only where a group is won by a state, the decision is the same
or it is for that state. -/
theorem decideGroups_eq_or_verdict_eq
    (h : ∀ g ∈ groups, groupMatches g chain found' = groupMatches g chain found ∨
      ∃ w, groupWinner rule g (groupMatches g chain found') = some w ∧ w.state = .ofBool on) :
    decideGroups rule chain found' groups = decideGroups rule chain found groups ∨
      (decideGroups rule chain found' groups).verdict = some on := by
  induction groups with
  | nil => exact .inl rfl
  | cons g rest ih =>
    obtain ⟨hg, hrest⟩ := List.forall_mem_cons.1 h
    simp only [decideGroups]
    rcases hg with heq | ⟨w, hw, hstate⟩
    · rw [heq]
      split
      · exact .inl rfl
      · exact ih hrest
    · rw [hw]
      exact .inr (verdict_decided_ofBool hstate)

/-! ## The two strategies -/

namespace Strategy

/-- The strategy under which a value wins among roles and permissions. -/
def favouring : Bool → Strategy
  | false => restrictive
  | true => permissive

theorem decide_favouring (on : Bool) (key : String) (chain : Chain) (found : List OverrideMatch)
    (order : List ScopeKind) :
    (favouring on).decide key chain found order =
      .ok (decideGroups (preferring (.ofBool on) (.ofBool !on)) chain found
        (groupOrder order)) := by
  cases on <;> rfl

end Strategy

/-! ## What is found in a store -/

variable {store : OverrideStore} {key : String}

theorem lastMatch?_getAll {s : Scope} (hs : s ∈ chain) :
    lastMatch? (store.getAll key chain) s = (store.record? key s).map fun r => ⟨s, r.state⟩ := by
  rw [lastMatch?]
  cases hr : store.record? key s with
  | none =>
    refine List.find?_eq_none.2 fun m hm => ?_
    rintro hscope
    obtain ⟨-, r, hr', -⟩ := OverrideStore.mem_getAll.1 (List.mem_reverse.1 hm)
    rw [of_decide_eq_true hscope, hr] at hr'
    cases hr'
  | some r =>
    have hmem : ⟨s, r.state⟩ ∈ (store.getAll key chain).reverse :=
      List.mem_reverse.2 (OverrideStore.mem_getAll.2 ⟨hs, r, hr, rfl⟩)
    cases hfind : (store.getAll key chain).reverse.find? (·.scope = s) with
    | none => exact absurd (decide_eq_true rfl) (List.find?_eq_none.1 hfind _ hmem)
    | some m =>
      obtain ⟨scope, state⟩ := m
      obtain rfl : scope = s := by simpa using List.find?_some hfind
      obtain ⟨-, r', hr', rfl⟩ :=
        OverrideStore.mem_getAll.1 (List.mem_reverse.1 (List.mem_of_find?_eq_some hfind))
      obtain rfl : r = r' := Option.some.inj (hr.symm.trans hr')
      rfl

theorem groupMatches_getAll (g : ScopeGroup) (store : OverrideStore) (key : String)
    (chain : Chain) :
    groupMatches g chain (store.getAll key chain) =
      store.getAll key (chain.filter fun s => g.contains s.kind) := by
  show (chain.filter fun s => g.contains s.kind).filterMap (lastMatch? (store.getAll key chain)) =
    (chain.filter fun s => g.contains s.kind).filterMap fun s =>
      (store.record? key s).map fun r => ⟨s, r.state⟩
  refine List.filterMap_congr fun s hs => ?_
  exact lastMatch?_getAll (List.mem_filter.1 hs).1

/-- The decision rests on a record of the key at a scope of the chain in one of the groups. -/
structure Decision.RestsOn (d : Decision) (store : OverrideStore) (key : String) (chain : Chain)
    (groups : List ScopeGroup) : Prop where
  /-- The state of the record is that of the decision. -/
  record : ∃ s ∈ chain, ScopeGroup.ofKind s.kind ∈ groups ∧ d.scope = some s ∧
    ∃ r, store.record? key s = some r ∧ r.state = d.state
  /-- The state has a value. -/
  hasValue : d.state.hasValue = true
  /-- The value is that of the state. -/
  verdict : d.verdict = some (decide (d.state = .enabled))

/-- A group is passed over if no scope of it has a value. -/
theorem groupWinner_getAll_eq_none (hrule : rule.Decisive) {g : ScopeGroup}
    (h : ∀ s ∈ chain, ScopeGroup.ofKind s.kind = g → ¬ (store.get key s).hasValue = true) :
    groupWinner rule g (groupMatches g chain (store.getAll key chain)) = none := by
  cases hw : groupWinner rule g (groupMatches g chain (store.getAll key chain)) with
  | none => rfl
  | some w =>
    have hdecisive := groupWinner_decisive hrule g
    have hmem := hdecisive.mem hw
    rw [groupMatches_getAll] at hmem
    obtain ⟨hchain, hgroup⟩ := List.mem_filter.1 (OverrideStore.mem_getAll.1 hmem).1
    have hvalue : (store.get key w.scope).hasValue = true := by
      rw [OverrideStore.get_eq_of_mem_getAll hmem]
      exact hdecisive.hasValue hw
    exact absurd hvalue (h w.scope hchain (of_decide_eq_true hgroup))

/-- If no scope in one of the groups has a value, nothing decides. -/
theorem decideGroups_getAll_of_forall (hrule : rule.Decisive)
    (h : ∀ s ∈ chain, ScopeGroup.ofKind s.kind ∈ groups → ¬ (store.get key s).hasValue = true) :
    decideGroups rule chain (store.getAll key chain) groups = .undecided := by
  refine decideGroups_of_passed fun g hg => groupWinner_getAll_eq_none hrule fun s hs hgroup => ?_
  exact h s hs (hgroup ▸ hg)

/-- If some scope in one of the groups has a value, the decision rests on a record. -/
theorem decideGroups_getAll_of_exists (hrule : rule.Decisive) {s : Scope} (hs : s ∈ chain)
    (hgroup : ScopeGroup.ofKind s.kind ∈ groups) (hvalue : (store.get key s).hasValue = true) :
    (decideGroups rule chain (store.getAll key chain) groups).RestsOn store key chain groups := by
  have hwinner : ¬ ∀ g ∈ groups,
      groupWinner rule g (groupMatches g chain (store.getAll key chain)) = none := by
    intro hnone
    have hpassed := (groupWinner_decisive hrule _).passed (hnone _ hgroup)
    have hmem : ⟨s, store.get key s⟩ ∈
        groupMatches (.ofKind s.kind) chain (store.getAll key chain) := by
      rw [groupMatches_getAll]
      exact OverrideStore.mem_getAll_of_hasValue (List.mem_filter.2 ⟨hs, decide_eq_true rfl⟩) hvalue
    have hfalse := hpassed _ hmem
    rw [hvalue] at hfalse
    cases hfalse
  obtain ⟨g, hg, w, hw, heq⟩ := decideGroups_of_winner hwinner
  have hdecisive := groupWinner_decisive hrule g
  have hmem := hdecisive.mem hw
  rw [groupMatches_getAll] at hmem
  obtain ⟨hscope, r, hr, hstate⟩ := OverrideStore.mem_getAll.1 hmem
  obtain ⟨hchain, hcontains⟩ := List.mem_filter.1 hscope
  rw [heq]
  exact
    { record := ⟨w.scope, hchain, of_decide_eq_true hcontains ▸ hg, rfl, r, hr, hstate.symm⟩
      hasValue := hdecisive.hasValue hw
      verdict := verdict_decided _ _ }

end FeatureFlags
