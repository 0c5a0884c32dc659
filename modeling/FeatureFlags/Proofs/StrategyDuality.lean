import FeatureFlags.Proofs.GroupWalk

/-!
# Two dual strategies

The restrictive and the permissive strategy stop at the same group, and differ at most in the
candidate they take among roles and permissions.

*Order.*  `Decision.Below` compares their decisions for the same overrides.  They have the same
candidates, on in the first one is on in the second, and they are the same unless roles and
permissions decide with both values among the candidates.

*Exchange.*  When on and off are exchanged in everything that was found, the decision of one
strategy becomes the exchanged decision of the other.
-/

namespace FeatureFlags

/-! ## Exchanging on and off -/

namespace OverrideState

/-- The state with on and off exchanged. -/
def exchanged : OverrideState → OverrideState
  | enabled => disabled
  | disabled => enabled
  | missing => missing
  | unset => unset

/-- Exchanging on and off twice changes nothing. -/
theorem exchanged_exchanged (s : OverrideState) : s.exchanged.exchanged = s := by
  cases s <;> rfl

/-- An exchange can be made on either side of an equation. -/
theorem exchanged_eq_iff {s t : OverrideState} : s.exchanged = t ↔ s = t.exchanged := by
  constructor
  · rintro rfl
    exact s.exchanged_exchanged.symm
  · rintro rfl
    exact t.exchanged_exchanged

/-- Exactly the states with a value are exchanged. -/
@[simp] theorem hasValue_exchanged (s : OverrideState) : s.exchanged.hasValue = s.hasValue := by
  cases s <;> rfl

@[simp] theorem value_exchanged (s : OverrideState) : s.exchanged.value = s.value.map (!·) := by
  cases s <;> rfl

@[simp] theorem exchanged_ofBool (on : Bool) : (ofBool on).exchanged = ofBool !on := by
  cases on <;> rfl

theorem exchanged_eq_enabled_iff {s : OverrideState} (h : s.hasValue = true) :
    s.exchanged = enabled ↔ ¬ s = enabled := by
  cases s with
  | enabled => decide
  | disabled => decide
  | missing => cases h
  | unset => cases h

end OverrideState

/-- The report with on and off exchanged. -/
def OverrideMatch.exchanged (m : OverrideMatch) : OverrideMatch :=
  { m with state := m.state.exchanged }

/-- The candidate with on and off exchanged, in its state and in its value. -/
def Candidate.exchanged (c : Candidate) : Candidate :=
  { c with state := c.state.exchanged, value := c.value.map (!·) }

/-- A report may be exchanged before or after it becomes a candidate. -/
theorem Candidate.ofMatch_exchanged (m : OverrideMatch) :
    ofMatch m.exchanged = (ofMatch m).exchanged := by
  simp only [ofMatch, exchanged, OverrideMatch.exchanged, OverrideMatch.value,
    OverrideState.value_exchanged]

namespace Decision

/-- The decision with on and off exchanged. -/
def exchanged (d : Decision) : Decision where
  verdict := d.verdict.map (!·)
  state := d.state.exchanged
  scope := d.scope
  candidates := d.candidates.map Candidate.exchanged

/-- The decision for an exchanged winner is the exchanged decision. -/
theorem decided_exchanged {w : OverrideMatch} (h : w.state.hasValue = true)
    (found : List OverrideMatch) :
    decided w.exchanged (found.map OverrideMatch.exchanged) = (decided w found).exchanged := by
  have hcandidates : (found.map OverrideMatch.exchanged).map Candidate.ofMatch =
      (found.map Candidate.ofMatch).map Candidate.exchanged := by
    rw [List.map_map, List.map_map]
    exact List.map_congr_left fun m _ => Candidate.ofMatch_exchanged m
  simp only [decided, exchanged, hcandidates, Option.map_some, OverrideMatch.exchanged,
    OverrideState.exchanged_eq_enabled_iff h, decide_not]

end Decision

variable {g : ScopeGroup} {candidates found : List OverrideMatch} {chain : Chain}
  {groups : List ScopeGroup} {w : OverrideMatch}

/-- The last report of a scope stays the last one. -/
theorem groupMatches_map_exchanged (g : ScopeGroup) (chain : Chain) (found : List OverrideMatch) :
    groupMatches g chain (found.map OverrideMatch.exchanged) =
      (groupMatches g chain found).map OverrideMatch.exchanged := by
  rw [groupMatches, groupMatches, List.map_filterMap]
  refine List.filterMap_congr fun s _ => ?_
  rw [lastMatch?, lastMatch?, ← List.map_reverse, List.find?_map]
  rfl

/-- The first candidate that is on becomes the first one that is off, and the other way round. -/
theorem firstIn_map_exchanged (state : OverrideState) (candidates : List OverrideMatch) :
    firstIn state (candidates.map OverrideMatch.exchanged) =
      (firstIn state.exchanged candidates).map OverrideMatch.exchanged := by
  rw [firstIn, firstIn, List.find?_map]
  congr 2
  funext m
  exact decide_eq_decide.2 OverrideState.exchanged_eq_iff

/-- The winner among exchanged candidates is the one that the other preference finds. -/
theorem groupWinner_map_exchanged (first second : OverrideState) (g : ScopeGroup)
    (candidates : List OverrideMatch) :
    groupWinner (preferring first second) g (candidates.map OverrideMatch.exchanged) =
      (groupWinner (preferring first.exchanged second.exchanged) g candidates).map
        OverrideMatch.exchanged := by
  have hfirst : (candidates.map OverrideMatch.exchanged).find? (·.state.hasValue) =
      (candidates.find? (·.state.hasValue)).map OverrideMatch.exchanged := by
    rw [List.find?_map]
    congr 2
    funext m
    exact m.state.hasValue_exchanged
  cases g with
  | rolePerm =>
    simp only [groupWinner, preferring_eq_or, firstIn_map_exchanged, Option.map_or]
  | user => exact hfirst
  | org => exact hfirst
  | tenant => exact hfirst
  | system => exact hfirst

/-- Preferring on among exchanged states is preferring off among the old ones, group by group. -/
theorem decideGroups_map_exchanged (on : Bool) (chain : Chain) (found : List OverrideMatch)
    (groups : List ScopeGroup) :
    decideGroups (preferring (.ofBool !on) (.ofBool on)) chain
        (found.map OverrideMatch.exchanged) groups =
      (decideGroups (preferring (.ofBool on) (.ofBool !on)) chain found groups).exchanged := by
  refine decideGroups_related (R := fun d d' => d = d'.exchanged) rfl fun g _ => ?_
  rw [groupMatches_map_exchanged, groupWinner_map_exchanged, OverrideState.exchanged_ofBool,
    OverrideState.exchanged_ofBool, Bool.not_not]
  have hdecisive := groupWinner_decisive (preferring_decisive on) g
  cases hw : groupWinner (preferring (.ofBool on) (.ofBool !on)) g (groupMatches g chain found) with
  | none => exact .none
  | some w => exact .some (Decision.decided_exchanged (hdecisive.hasValue hw) _)

/-! ## The order of the two strategies -/

namespace Decision

/-- The group that decides, if one does. -/
def group? (d : Decision) : Option ScopeGroup := d.scope.map fun s => ScopeGroup.ofKind s.kind

/-- Both values are among the candidates. -/
def Divided (d : Decision) : Prop :=
  (∃ m ∈ d.candidates, m.state = .enabled) ∧ ∃ m ∈ d.candidates, m.state = .disabled

/-- The second decision is for on where the first one is, by the same group. -/
structure Below (d d' : Decision) : Prop where
  /-- Both have a value or neither has. -/
  matched : d.verdict.isSome = d'.verdict.isSome
  /-- The candidates are the same. -/
  candidates : d.candidates = d'.candidates
  /-- The group is the same. -/
  group : d.group? = d'.group?
  /-- On in the first is on in the second. -/
  value : d.verdict = some true → d'.verdict = some true
  /-- They differ only if roles and permissions decide with both values among the candidates. -/
  eq_of : d.group? ≠ some .rolePerm ∨ ¬ d.Divided → d = d'

/-- Every decision is below itself. -/
theorem below_self (d : Decision) : d.Below d := ⟨rfl, rfl, rfl, id, fun _ => rfl⟩

/-- With both values among roles and permissions one decision is off and the other on. -/
theorem below_of_divided {w w' : OverrideMatch} (hw : w ∈ found) (hw' : w' ∈ found)
    (hstate : w.state = .disabled) (hstate' : w'.state = .enabled)
    (hgroup : ScopeGroup.ofKind w.scope.kind = .rolePerm)
    (hgroup' : ScopeGroup.ofKind w'.scope.kind = .rolePerm) :
    (decided w found).Below (decided w' found) where
  matched := rfl
  candidates := rfl
  group := congrArg some (hgroup.trans hgroup'.symm)
  value h := by
    rw [verdict_decided, hstate] at h
    cases h
  eq_of h := by
    rcases h with h | h
    · exact absurd (congrArg some hgroup) h
    · exact absurd ⟨⟨_, List.mem_map_of_mem hw', hstate'⟩, _, List.mem_map_of_mem hw, hstate⟩ h

end Decision

theorem ofKind_of_mem_groupMatches (h : w ∈ groupMatches g chain found) :
    ScopeGroup.ofKind w.scope.kind = g := by
  obtain ⟨s, hs, hw⟩ := List.mem_filterMap.1 h
  have hscope : w.scope = s := by
    rw [lastMatch?] at hw
    simpa using List.find?_some hw
  rw [hscope]
  exact of_decide_eq_true (List.mem_filter.1 hs).2

/-- Preferring off and preferring on lead to the same candidate, or to one of each value. -/
theorem preferring_related (candidates : List OverrideMatch) :
    preferring .disabled .enabled candidates = preferring .enabled .disabled candidates ∨
      ∃ w w', preferring .disabled .enabled candidates = some w ∧
        preferring .enabled .disabled candidates = some w' ∧
        w.state = .disabled ∧ w'.state = .enabled := by
  simp only [preferring_eq_or]
  cases hoff : firstIn .disabled candidates with
  | none => exact .inl (by rw [Option.none_or, Option.or_none])
  | some w =>
    cases hon : firstIn .enabled candidates with
    | none => exact .inl rfl
    | some w' => exact .inr ⟨w, w', rfl, rfl, (firstIn_eq_some hoff).2, (firstIn_eq_some hon).2⟩

/-- The restrictive walk over the groups never says on where the permissive one says off. -/
theorem decideGroups_below (chain : Chain) (found : List OverrideMatch)
    (groups : List ScopeGroup) :
    (decideGroups (preferring .disabled .enabled) chain found groups).Below
      (decideGroups (preferring .enabled .disabled) chain found groups) := by
  refine decideGroups_related (Decision.below_self _) fun g _ => ?_
  have hsame (w : Option OverrideMatch) : Option.Rel
      (fun w w' => (Decision.decided w (groupMatches g chain found)).Below
        (.decided w' (groupMatches g chain found))) w w := by
    cases w with
    | none => exact .none
    | some w => exact .some (Decision.below_self _)
  cases g with
  | rolePerm =>
    rcases preferring_related (groupMatches .rolePerm chain found) with
      heq | ⟨w, w', hoff, hon, hstate, hstate'⟩
    · simp only [groupWinner, heq]
      exact hsame _
    · simp only [groupWinner, hoff, hon]
      have hw := (preferring_eq_some hoff).1
      have hw' := (preferring_eq_some hon).1
      exact .some (Decision.below_of_divided hw hw' hstate hstate' (ofKind_of_mem_groupMatches hw)
        (ofKind_of_mem_groupMatches hw'))
  | user => exact hsame _
  | org => exact hsame _
  | tenant => exact hsame _
  | system => exact hsame _

/-! ## The main theorem -/

/-- The decision of the restrictive strategy lies below that of the permissive one, and the two
change places when on and off are exchanged in what was found. -/
theorem strategies_dual (key : String) (chain : Chain) (found : List OverrideMatch)
    (order : List ScopeKind) :
    ∃ off on, Strategy.restrictive.decide key chain found order = .ok off ∧
      Strategy.permissive.decide key chain found order = .ok on ∧ off.Below on ∧
      Strategy.permissive.decide key chain (found.map OverrideMatch.exchanged) order =
        .ok off.exchanged ∧
      Strategy.restrictive.decide key chain (found.map OverrideMatch.exchanged) order =
        .ok on.exchanged := by
  refine ⟨_, _, rfl, rfl, decideGroups_below _ _ _, ?_, ?_⟩
  · exact congrArg Except.ok (decideGroups_map_exchanged false chain found (groupOrder order))
  · exact congrArg Except.ok (decideGroups_map_exchanged true chain found (groupOrder order))

/-- With a role that is on and a permission that is off the two strategies differ. -/
example :
    let admin : Scope := ⟨.role, "admin", "", ""⟩
    let edit : Scope := ⟨.perm, "edit", "", ""⟩
    let verdict (s : Strategy) :=
      (s.decide "f" [admin, edit] [⟨edit, .disabled⟩, ⟨admin, .enabled⟩] []).map (·.verdict)
    verdict .restrictive = .ok (some false) ∧ verdict .permissive = .ok (some true) :=
  ⟨rfl, rfl⟩

end FeatureFlags
