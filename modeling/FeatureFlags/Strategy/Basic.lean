import FeatureFlags.Error
import FeatureFlags.OverrideState
import FeatureFlags.Strategy.Group

/-!
# Strategies

A strategy decides which of the overrides that were found for a chain counts.

The two strategies here take the groups of the chain one after the other.  In each group they
look at the states found for its scopes, in the order of the chain; when a scope was reported
twice the later report counts.  The first group with a state that decides a value gives the
decision.

Inside a group the first deciding state in the order of the chain wins.  Roles and permissions
are the exception.  There the restrictive strategy lets a disabled state win over every
enabled one, and the permissive strategy the other way round.
-/

namespace FeatureFlags

/-! ## Decisions -/

/-- What was found at a scope, with the value it decides. -/
structure Candidate where
  /-- The scope. -/
  scope : Scope
  /-- The state there. -/
  state : OverrideState
  /-- The value, if the state decides one. -/
  value : Option Bool
deriving DecidableEq, Repr

/-- The candidate of a state that was found. -/
def Candidate.ofMatch (m : OverrideMatch) : Candidate := ⟨m.scope, m.state, m.value⟩

/-- What a strategy makes of the overrides found for a chain. -/
structure Decision where
  /-- The value, if an override decides one. -/
  verdict : Option Bool := none
  /-- The state that decides. -/
  state : OverrideState := .missing
  /-- The scope of the state that decides. -/
  scope : Option Scope := none
  /-- What was found in the group that decides, in the order of the chain. -/
  candidates : List Candidate := []
deriving DecidableEq, Repr, Inhabited

namespace Decision

/-- No override decides. -/
def undecided : Decision := {}

/-- The state found at a scope decides, among those found for its group. -/
def decided (winner : OverrideMatch) (found : List OverrideMatch) : Decision where
  verdict := some (winner.state = .enabled)
  state := winner.state
  scope := some winner.scope
  candidates := found.map .ofMatch

end Decision

/-- A rule that decides which of the overrides found counts. -/
structure Strategy where
  /-- The name of the strategy. -/
  name : String
  /-- The decision for a key, its chain, what was found, and the order of kinds. -/
  decide : String → Chain → List OverrideMatch → List ScopeKind → Except Error Decision

/-! ## Groups of a chain -/

/-- The groups of an order of kinds. -/
def groupOrder (order : List ScopeKind) : List ScopeGroup :=
  if order.isEmpty then ScopeGroup.defaultOrder else (order.map ScopeGroup.ofKind).eraseDups

theorem mem_groupOrder {order : List ScopeKind} {g : ScopeGroup} :
    g ∈ groupOrder order ↔ order = [] ∨ ∃ k ∈ order, ScopeGroup.ofKind k = g := by
  rw [groupOrder]
  cases order with
  | nil => cases g <;> simp [ScopeGroup.defaultOrder]
  | cons k rest => simp [eq_comm]

/-- The last report for a scope. -/
def lastMatch? (found : List OverrideMatch) (s : Scope) : Option OverrideMatch :=
  found.reverse.find? (·.scope = s)

/-- What was found for the scopes of a group, in the order of the chain. -/
def groupMatches (g : ScopeGroup) (chain : Chain) (found : List OverrideMatch) :
    List OverrideMatch :=
  (chain.filter fun s => g.contains s.kind).filterMap (lastMatch? found)

/-! ## The winner of a group -/

/-- How the winner among roles and permissions is chosen. -/
abbrev RolePermRule := List OverrideMatch → Option OverrideMatch

/-- The first of the candidates in a state. -/
def firstIn (state : OverrideState) (candidates : List OverrideMatch) : Option OverrideMatch :=
  candidates.find? (·.state = state)

/-- The first candidate in one state, or else the first in another. -/
def preferring (first second : OverrideState) : RolePermRule := fun candidates =>
  firstIn first candidates <|> firstIn second candidates

/-- The candidate of a group that decides. -/
def groupWinner (rule : RolePermRule) (g : ScopeGroup) (candidates : List OverrideMatch) :
    Option OverrideMatch :=
  match g with
  | .rolePerm => rule candidates
  | _ => candidates.find? (·.state.hasValue)

/-- The decision of the first group that has a winner. -/
def decideGroups (rule : RolePermRule) (chain : Chain) (found : List OverrideMatch) :
    List ScopeGroup → Decision
  | [] => .undecided
  | g :: rest =>
    let candidates := groupMatches g chain found
    match groupWinner rule g candidates with
    | some winner => .decided winner candidates
    | none => decideGroups rule chain found rest

/-! ## The two strategies -/

namespace Strategy

/-- The strategy with a rule for roles and permissions. -/
def byGroups (name : String) (rule : RolePermRule) : Strategy where
  name := name
  decide _ chain found order := .ok (decideGroups rule chain found (groupOrder order))

/-- A disabled role or permission wins over every enabled one. -/
def restrictive : Strategy := byGroups "default" (preferring .disabled .enabled)

/-- An enabled role or permission wins over every disabled one. -/
def permissive : Strategy := byGroups "most_permissive" (preferring .enabled .disabled)

end Strategy

end FeatureFlags
