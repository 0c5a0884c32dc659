import FeatureFlags.Proofs.Collections
import FeatureFlags.Proofs.GroupWalk

/-!
# The rules of a decision

Which override decides can be said without a walk over groups and candidates.  What counts at a
scope is the state of the last report for it (`effective?`).  The first group in the order with a
scope that has a value decides (`Decides`), and in it the earliest such scope of the chain wins,
except that among roles and permissions one of the two values goes before the other (`Wins`).

The main theorem says that the two strategies decide by these rules and that the rules leave no
choice.
-/

namespace FeatureFlags

/-! ## The first of a list -/

/-- The element is the first of the list with the property. -/
def IsFirst {α : Type} (p : α → Prop) (l : List α) (a : α) : Prop :=
  ∃ before after, l = before ++ a :: after ∧ p a ∧ ∀ b ∈ before, ¬ p b

section First

variable {α : Type} {p : α → Prop} {l : List α} {a : α}

/-- A search finds the first element with the property, at its place in the list. -/
theorem find?_eq_some_iff_isFirst [DecidablePred p] :
    l.find? (fun b => decide (p b)) = some a ↔ IsFirst p l a := by
  simp only [List.find?_eq_some_iff_append, IsFirst, decide_eq_true_eq, Bool.not_eq_true',
    decide_eq_false_iff_not]
  constructor
  · rintro ⟨ha, before, after, hl, hbefore⟩
    exact ⟨before, after, hl, ha, hbefore⟩
  · rintro ⟨before, after, hl, ha, hbefore⟩
    exact ⟨ha, before, after, hl, hbefore⟩

/-- Where there is an element with the property, there is a first one. -/
theorem exists_isFirst (h : ∃ b ∈ l, p b) : ∃ b, IsFirst p l b := by
  classical
  obtain ⟨b, hb, hp⟩ := h
  cases hfind : l.find? (fun b => decide (p b)) with
  | none => exact absurd (decide_eq_true hp) (List.find?_eq_none.1 hfind b hb)
  | some first => exact ⟨first, find?_eq_some_iff_isFirst.1 hfind⟩

end First

/-! ## What counts at a scope -/

/-- The state of the last report for a scope. -/
def effective? : List OverrideMatch → Scope → Option OverrideState
  | [], _ => none
  | m :: rest, s => (effective? rest s).or (if m.scope = s then some m.state else none)

variable {found : List OverrideMatch} {chain : Chain} {s : Scope} {state : OverrideState}

/-- No state is in effect at a scope for which nothing was reported. -/
theorem effective?_eq_none_iff : effective? found s = none ↔ ∀ m ∈ found, m.scope ≠ s := by
  induction found with
  | nil => simp [effective?]
  | cons m rest ih =>
    rw [effective?, Option.or_eq_none_iff, ih, List.forall_mem_cons, and_comm]
    simp

/-- The state in effect is that of the last report. -/
theorem effective?_eq_some_iff :
    effective? found s = some state ↔
      ∃ before after, found = before ++ ⟨s, state⟩ :: after ∧ ∀ m ∈ after, m.scope ≠ s := by
  induction found with
  | nil => simp [effective?]
  | cons m rest ih =>
    rw [effective?, Option.or_eq_some_iff, ih, effective?_eq_none_iff]
    constructor
    · rintro (⟨before, after, rfl, hafter⟩ | ⟨hrest, hm⟩)
      · exact ⟨m :: before, after, rfl, hafter⟩
      · obtain ⟨rfl, rfl⟩ : m.scope = s ∧ m.state = state := by simpa using hm
        exact ⟨[], rest, rfl, hrest⟩
    · rintro ⟨before, after, heq, hafter⟩
      cases before with
      | nil =>
        obtain ⟨rfl, rfl⟩ := List.cons.inj heq
        exact .inr ⟨hafter, if_pos rfl⟩
      | cons b before =>
        obtain ⟨rfl, rfl⟩ := List.cons.inj heq
        exact .inl ⟨before, after, rfl, hafter⟩

/-- What was cleared later hides what was set before. -/
example : effective? [⟨.system, .enabled⟩, ⟨.system, .unset⟩] .system = some .unset := by decide

theorem lastMatch?_eq_map (found : List OverrideMatch) (s : Scope) :
    lastMatch? found s = (effective? found s).map fun state => ⟨s, state⟩ := by
  rw [lastMatch?]
  induction found with
  | nil => rfl
  | cons m rest ih =>
    obtain ⟨scope, state⟩ := m
    rw [List.reverse_cons, List.find?_append, ih, effective?, Option.map_or]
    by_cases h : scope = s
    · simp [h]
    · simp [h]

/-- The state found for a scope is on or off. -/
def Valued (eff : Scope → Option OverrideState) (s : Scope) : Prop :=
  eff s = some .enabled ∨ eff s = some .disabled

theorem valued_iff {eff : Scope → Option OverrideState} :
    Valued eff s ↔ ∃ state, eff s = some state ∧ state.hasValue = true := by
  constructor
  · rintro (h | h)
    · exact ⟨_, h, rfl⟩
    · exact ⟨_, h, rfl⟩
  · rintro ⟨state, h, hvalue⟩
    cases state with
    | enabled => exact .inl h
    | disabled => exact .inr h
    | missing => cases hvalue
    | unset => cases hvalue

/-! ## The rules -/

/-- The groups of an order of kinds: the usual ones if the order is empty, else those of its
kinds, each where its first kind stands. -/
inductive GroupsOf : List ScopeKind → List ScopeGroup → Prop where
  | unordered : GroupsOf [] [.user, .rolePerm, .org, .tenant, .system]
  | collapsed {order : List ScopeKind} {groups : List ScopeGroup} : order ≠ [] →
      (∀ g, g ∈ groups ↔ ∃ k ∈ order, ScopeGroup.ofKind k = g) →
      (groups.Pairwise fun g g' =>
        (order.map ScopeGroup.ofKind).idxOf g < (order.map ScopeGroup.ofKind).idxOf g') →
      GroupsOf order groups

/-- A scope of a group wins with its state.  Among roles and permissions the value `on` goes
before the other one. -/
inductive Wins (on : Bool) (chain : Chain) (eff : Scope → Option OverrideState) :
    ScopeGroup → Scope → OverrideState → Prop where
  /-- In other groups the first scope with a value wins. -/
  | first {g : ScopeGroup} {s : Scope} {state : OverrideState} : g ≠ .rolePerm →
      IsFirst (fun t => ScopeGroup.ofKind t.kind = g ∧ Valued eff t) chain s →
      eff s = some state → Wins on chain eff g s state
  /-- The first role or permission with the favoured value wins. -/
  | favoured {s : Scope} :
      IsFirst (fun t => ScopeGroup.ofKind t.kind = .rolePerm ∧ eff t = some (.ofBool on)) chain s →
      Wins on chain eff .rolePerm s (.ofBool on)
  /-- If there is none, the first with the other value wins. -/
  | other {s : Scope} :
      (∀ t ∈ chain, ¬ (ScopeGroup.ofKind t.kind = .rolePerm ∧ eff t = some (.ofBool on))) →
      IsFirst (fun t => ScopeGroup.ofKind t.kind = .rolePerm ∧ eff t = some (.ofBool !on)) chain s →
      Wins on chain eff .rolePerm s (.ofBool !on)

/-- What was found for the scopes of a group, in the order of the chain. -/
def reports (g : ScopeGroup) (chain : Chain) (eff : Scope → Option OverrideState) :
    List OverrideMatch :=
  chain.filterMap fun t =>
    if ScopeGroup.ofKind t.kind = g then (eff t).map fun state => ⟨t, state⟩ else none

/-- What is decided for a chain. -/
inductive Decides (on : Bool) (chain : Chain) (eff : Scope → Option OverrideState)
    (groups : List ScopeGroup) : Decision → Prop where
  /-- The first group with a value at one of its scopes decides.  What was found for the group is
  told with the value it has. -/
  | decided {g : ScopeGroup} {s : Scope} {state : OverrideState} :
      IsFirst (fun g => ∃ t ∈ chain, ScopeGroup.ofKind t.kind = g ∧ Valued eff t) groups g →
      Wins on chain eff g s state →
      Decides on chain eff groups
        { verdict := some (decide (state = .enabled)), state := state, scope := some s,
          candidates := (reports g chain eff).map fun m => ⟨m.scope, m.state, m.state.value⟩ }
  /-- Without a value at a scope in one of the groups nothing decides. -/
  | undecided : (∀ t ∈ chain, ScopeGroup.ofKind t.kind ∈ groups → ¬ Valued eff t) →
      Decides on chain eff groups
        { verdict := none, state := .missing, scope := none, candidates := [] }

/-! ## The order of the groups -/

/-- The walk visits each group once, at the place of its first kind. -/
theorem groupsOf_groupOrder (order : List ScopeKind) : GroupsOf order (groupOrder order) := by
  cases order with
  | nil => exact .unordered
  | cons k rest =>
    refine .collapsed (List.cons_ne_nil k rest) (fun g => ?_) (pairwise_idxOf_eraseDups _)
    exact mem_groupOrder.trans (or_iff_right (List.cons_ne_nil k rest))

/-! ## The winner of a group -/

/-- What is found for a group can be told from the states in effect. -/
theorem groupMatches_eq_reports (g : ScopeGroup) (chain : Chain) (found : List OverrideMatch) :
    groupMatches g chain found = reports g chain (effective? found) := by
  rw [groupMatches, List.filterMap_filter, reports]
  refine List.filterMap_congr fun t _ => ?_
  simp only [ScopeGroup.contains, decide_eq_true_eq, lastMatch?_eq_map]

variable {g : ScopeGroup} {on : Bool} {w : OverrideMatch} {eff : Scope → Option OverrideState}
  {groups : List ScopeGroup}

/-- A group is told of its own scopes in the chain, each with the state in effect. -/
theorem mem_reports :
    w ∈ reports g chain eff ↔
      w.scope ∈ chain ∧ ScopeGroup.ofKind w.scope.kind = g ∧ eff w.scope = some w.state := by
  obtain ⟨scope, state⟩ := w
  simp only [reports, List.mem_filterMap, Option.ite_none_right_eq_some, Option.map_eq_some_iff,
    OverrideMatch.mk.injEq]
  constructor
  · rintro ⟨t, ht, hg, _, heff, rfl, rfl⟩
    exact ⟨ht, hg, heff⟩
  · rintro ⟨ht, hg, heff⟩
    exact ⟨scope, ht, hg, state, heff, rfl, rfl⟩

/-- The first report with a property of its state is that for the first scope with it. -/
theorem find?_reports_eq_some_iff (q : OverrideState → Bool) :
    (reports g chain eff).find? (fun m => q m.state) = some w ↔
      IsFirst (fun t => ScopeGroup.ofKind t.kind = g ∧ ∃ state, eff t = some state ∧ q state = true)
          chain w.scope ∧ eff w.scope = some w.state := by
  classical
  let report (t : Scope) : Option OverrideMatch :=
    if ScopeGroup.ofKind t.kind = g then (eff t).map fun state => ⟨t, state⟩ else none
  have hreport (t : Scope) (m : OverrideMatch) : report t = some m ↔
      t = m.scope ∧ ScopeGroup.ofKind t.kind = g ∧ eff t = some m.state := by
    obtain ⟨scope, state⟩ := m
    simp only [report, Option.ite_none_right_eq_some, Option.map_eq_some_iff,
      OverrideMatch.mk.injEq]
    constructor
    · rintro ⟨hg, _, heff, rfl, rfl⟩
      exact ⟨rfl, hg, heff⟩
    · rintro ⟨rfl, hg, heff⟩
      exact ⟨hg, state, heff, rfl, rfl⟩
  have hany : (fun t => (report t).any fun m => q m.state) = fun t => decide
      (ScopeGroup.ofKind t.kind = g ∧ ∃ state, eff t = some state ∧ q state = true) := by
    funext t
    rw [Bool.eq_iff_iff, decide_eq_true_iff, Option.any_eq_true]
    constructor
    · rintro ⟨m, hm, hq⟩
      obtain ⟨-, hg, heff⟩ := (hreport t m).1 hm
      exact ⟨hg, m.state, heff, hq⟩
    · rintro ⟨hg, state, heff, hq⟩
      exact ⟨⟨t, state⟩, (hreport t _).2 ⟨rfl, hg, heff⟩, hq⟩
  rw [reports, List.find?_filterMap, hany, Option.bind_eq_some_iff]
  constructor
  · rintro ⟨t, hfirst, hm⟩
    obtain ⟨rfl, -, heff⟩ := (hreport t w).1 hm
    exact ⟨find?_eq_some_iff_isFirst.1 hfirst, heff⟩
  · rintro ⟨hfirst, heff⟩
    obtain ⟨-, -, -, ⟨hg, -⟩, -⟩ := id hfirst
    exact ⟨w.scope, find?_eq_some_iff_isFirst.2 hfirst, (hreport _ w).2 ⟨rfl, hg, heff⟩⟩

/-- Among the reports of a group, the first in a state is the first of its scopes in the chain. -/
theorem firstIn_reports_eq_some_iff :
    firstIn state (reports g chain eff) = some w ↔
      IsFirst (fun t => ScopeGroup.ofKind t.kind = g ∧ eff t = some state) chain w.scope ∧
        w.state = state := by
  rw [firstIn, find?_reports_eq_some_iff (fun st => decide (st = state))]
  simp only [decide_eq_true_eq, exists_eq_right]
  refine and_congr_right fun hfirst => ?_
  obtain ⟨-, -, -, ⟨-, heff⟩, -⟩ := hfirst
  rw [heff, Option.some.injEq, eq_comm]

theorem firstIn_reports_eq_none_iff :
    firstIn state (reports g chain eff) = none ↔
      ∀ t ∈ chain, ¬ (ScopeGroup.ofKind t.kind = g ∧ eff t = some state) := by
  rw [firstIn, List.find?_eq_none]
  constructor
  · rintro h t ht ⟨hg, heff⟩
    exact h ⟨t, state⟩ (mem_reports.2 ⟨ht, hg, heff⟩) (decide_eq_true rfl)
  · intro h m hm hstate
    obtain ⟨ht, hg, heff⟩ := mem_reports.1 hm
    exact h m.scope ht ⟨hg, heff.trans (congrArg some (of_decide_eq_true hstate))⟩

theorem wins_iff_of_ne (hg : g ≠ .rolePerm) :
    Wins on chain eff g s state ↔
      IsFirst (fun t => ScopeGroup.ofKind t.kind = g ∧ Valued eff t) chain s ∧
        eff s = some state := by
  constructor
  · intro h
    cases h with
    | first _ hfirst heff => exact ⟨hfirst, heff⟩
    | favoured _ => exact absurd rfl hg
    | other _ _ => exact absurd rfl hg
  · rintro ⟨hfirst, heff⟩
    exact .first hg hfirst heff

/-- The winner of a group is the one that the rules name. -/
theorem groupWinner_reports_eq_some_iff :
    groupWinner (preferring (.ofBool on) (.ofBool !on)) g (reports g chain eff) = some w ↔
      Wins on chain eff g w.scope w.state := by
  by_cases hg : g = .rolePerm
  · subst hg
    obtain ⟨scope, state⟩ := w
    simp only [groupWinner, preferring_eq_or, Option.or_eq_some_iff, firstIn_reports_eq_some_iff,
      firstIn_reports_eq_none_iff]
    constructor
    · rintro (⟨hfirst, rfl⟩ | ⟨hnone, hfirst, rfl⟩)
      · exact .favoured hfirst
      · exact .other hnone hfirst
    · intro h
      cases h with
      | first hg _ _ => exact absurd rfl hg
      | favoured hfirst => exact .inl ⟨hfirst, rfl⟩
      | other hnone hfirst => exact .inr ⟨hnone, hfirst, rfl⟩
  · have hwinner : groupWinner (preferring (.ofBool on) (.ofBool !on)) g (reports g chain eff) =
        (reports g chain eff).find? (fun m => m.state.hasValue) := by
      cases g with
      | rolePerm => exact absurd rfl hg
      | user => rfl
      | org => rfl
      | tenant => rfl
      | system => rfl
    rw [hwinner, find?_reports_eq_some_iff, wins_iff_of_ne hg]
    simp only [valued_iff]

/-- A group is passed over exactly when none of its scopes has a value. -/
theorem groupWinner_reports_eq_none_iff :
    groupWinner (preferring (.ofBool on) (.ofBool !on)) g (reports g chain eff) = none ↔
      ¬ ∃ t ∈ chain, ScopeGroup.ofKind t.kind = g ∧ Valued eff t := by
  have hdecisive := groupWinner_decisive (preferring_decisive on) g
  constructor
  · rintro h ⟨t, ht, hg, hvalued⟩
    obtain ⟨state, heff, hvalue⟩ := valued_iff.1 hvalued
    have hfalse := hdecisive.passed h ⟨t, state⟩ (mem_reports.2 ⟨ht, hg, heff⟩)
    rw [hvalue] at hfalse
    cases hfalse
  · intro h
    cases hw : groupWinner (preferring (.ofBool on) (.ofBool !on)) g (reports g chain eff) with
    | none => rfl
    | some w =>
      obtain ⟨ht, hg, heff⟩ := mem_reports.1 (hdecisive.mem hw)
      exact absurd ⟨w.scope, ht, hg, valued_iff.2 ⟨w.state, heff, hdecisive.hasValue hw⟩⟩ h

/-! ## The decision -/

/-- The walk over the groups ends with what the rules allow. -/
theorem Decides.eq_decideGroups {d : Decision}
    (h : Decides on chain (effective? found) groups d) :
    decideGroups (preferring (.ofBool on) (.ofBool !on)) chain found groups = d := by
  cases h with
  | decided hfirst hwins =>
    obtain ⟨before, after, rfl, -, hbefore⟩ := hfirst
    rw [decideGroups_append_of_passed, decideGroups]
    · have hwinner := groupWinner_reports_eq_some_iff (w := ⟨_, _⟩) |>.2 hwins
      simp only [groupMatches_eq_reports, hwinner]
      rfl
    · intro g hg
      rw [groupMatches_eq_reports]
      exact groupWinner_reports_eq_none_iff.2 (hbefore g hg)
  | undecided hnone =>
    refine decideGroups_of_passed fun g hg => ?_
    rw [groupMatches_eq_reports, groupWinner_reports_eq_none_iff]
    rintro ⟨t, ht, rfl, hvalued⟩
    exact hnone t ht hg hvalued

/-- The rules allow a decision, and it has a value exactly when one of the groups has. -/
theorem exists_decides (on : Bool) (chain : Chain) (eff : Scope → Option OverrideState)
    (groups : List ScopeGroup) :
    ∃ d, Decides on chain eff groups d ∧ (d.verdict.isSome = true ↔
      ∃ t ∈ chain, ScopeGroup.ofKind t.kind ∈ groups ∧ Valued eff t) := by
  by_cases h : ∃ g ∈ groups, ∃ t ∈ chain, ScopeGroup.ofKind t.kind = g ∧ Valued eff t
  · obtain ⟨g, hfirst⟩ := exists_isFirst h
    obtain ⟨-, -, -, hg, -⟩ := id hfirst
    have hwinner : groupWinner (preferring (.ofBool on) (.ofBool !on)) g (reports g chain eff) ≠
        none := fun hnone => groupWinner_reports_eq_none_iff.1 hnone hg
    obtain ⟨w, hw⟩ := Option.ne_none_iff_exists'.1 hwinner
    refine ⟨_, .decided hfirst (groupWinner_reports_eq_some_iff.1 hw), fun _ => ?_, fun _ => rfl⟩
    obtain ⟨g, hmem, t, ht, rfl, hvalued⟩ := h
    exact ⟨t, ht, hmem, hvalued⟩
  · have hnone : ∀ t ∈ chain, ScopeGroup.ofKind t.kind ∈ groups → ¬ Valued eff t :=
      fun t ht hg hvalued => h ⟨_, hg, t, ht, rfl, hvalued⟩
    refine ⟨_, .undecided hnone, fun hsome => (nomatch hsome), ?_⟩
    rintro ⟨t, ht, hg, hvalued⟩
    exact absurd hvalued (hnone t ht hg)

/-- A strategy decides by the rules, and the rules allow nothing else.  What counts at a scope is
the state of the last report for it. -/
theorem decision_by_rules (on : Bool) (key : String) (chain : Chain) (found : List OverrideMatch)
    (order : List ScopeKind) :
    let eff := effective? found
    let groups := groupOrder order
    (∀ s state, eff s = some state ↔
      ∃ before after, found = before ++ ⟨s, state⟩ :: after ∧ ∀ m ∈ after, m.scope ≠ s) ∧
    GroupsOf order groups ∧
    ∃ d, (Strategy.favouring on).decide key chain found order = .ok d ∧
      (∀ d', Decides on chain eff groups d' ↔ d' = d) ∧
      (d.verdict.isSome = true ↔
        ∃ t ∈ chain, ScopeGroup.ofKind t.kind ∈ groups ∧ Valued eff t) := by
  intro eff groups
  obtain ⟨d, hd, hmatched⟩ := exists_decides on chain eff groups
  refine ⟨fun s state => effective?_eq_some_iff, groupsOf_groupOrder order, d, ?_, ?_, hmatched⟩
  · rw [Strategy.decide_favouring, hd.eq_decideGroups]
  · intro d'
    constructor
    · intro hd'
      exact hd'.eq_decideGroups.symm.trans hd.eq_decideGroups
    · rintro rfl
      exact hd

end FeatureFlags
