import FeatureFlags.Scope.Basic

/-!
# Chains

A chain lists the scopes that apply to one question, in the order in which they are asked.
-/

namespace FeatureFlags

/-- Scopes in the order in which they are asked. -/
abbrev Chain := List Scope

namespace Chain

/-- Whether the system is in the chain. -/
def hasSystem (c : Chain) : Bool := c.any Scope.isSystem

/-- The chain, with the system at its end unless it is in the chain already. -/
def withSystem (c : Chain) : Chain := if c.hasSystem then c else c ++ [Scope.system]

/-- How a chain is shown. -/
def display (c : Chain) : String := "[" ++ ", ".intercalate (c.map Scope.display) ++ "]"

theorem mem_withSystem {c : Chain} {s : Scope} :
    s ∈ c.withSystem ↔ s ∈ c ∨ s = .system ∧ c.hasSystem = false := by
  unfold withSystem
  split
  · next h => simp [h]
  · next h => simp at h; simp [h]

theorem hasSystem_withSystem (c : Chain) : c.withSystem.hasSystem = true := by
  unfold withSystem
  split
  · assumption
  · simp [hasSystem, Scope.isSystem, Scope.system]

theorem withSystem_withSystem (c : Chain) : c.withSystem.withSystem = c.withSystem := by
  rw [withSystem, if_pos c.hasSystem_withSystem]

end Chain

end FeatureFlags
