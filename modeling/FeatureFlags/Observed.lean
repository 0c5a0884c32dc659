import FeatureFlags.Event
import FeatureFlags.Log

/-!
# What can be seen from outside

A computation of a gate has a result, and while it runs others see things happen: a
collaborator is asked, a line is written to the log, a hook is told.  `Observed α` is the
result together with these effects in their order.

The result of a sequence of computations is the result of the last one, and its effects are
those of all of them, one after the other.
-/

namespace FeatureFlags

/-- A question to a collaborator. -/
inductive Call where
  /-- The claims of the actor. -/
  | claims
  /-- The further permissions of an actor. -/
  | permissions (subjectId : String)
  /-- The overrides of a key. -/
  | readOverrides (key : String)
  /-- The decision about what was found for a key. -/
  | decide (key : String) (found : Nat)
  /-- The default of a key. -/
  | defaultFor (key : String)
  /-- A write, or the clearing of an override when there is no value. -/
  | writeOverride (key : String) (scope : Scope) (value : Option Bool)
deriving DecidableEq, Repr, Inhabited

/-- Something that happens while a gate is at work. -/
inductive Effect where
  /-- A collaborator is asked. -/
  | asked (call : Call)
  /-- A line is written to the log. -/
  | logged (record : LogRecord)
  /-- A resolve hook, known by its place in the list, is told of a resolution. -/
  | toldResolve (hook : Nat) (event : ResolveEvent)
  /-- An activity hook, known by its place in the list, is told of a change. -/
  | toldUpdate (hook : Nat) (event : UpdateEvent)
deriving DecidableEq, Repr, Inhabited

/-- The collaborators that are asked, in their order. -/
def Effect.calls (effects : List Effect) : List Call :=
  effects.filterMap fun | .asked call => some call | _ => none

/-- The lines written to the log, in their order. -/
def Effect.records (effects : List Effect) : List LogRecord :=
  effects.filterMap fun | .logged record => some record | _ => none

/-- The resolutions that hooks are told of, each with the hook. -/
def Effect.resolves (effects : List Effect) : List (Nat × ResolveEvent) :=
  effects.filterMap fun | .toldResolve hook event => some (hook, event) | _ => none

/-- The changes that hooks are told of, each with the hook. -/
def Effect.updates (effects : List Effect) : List (Nat × UpdateEvent) :=
  effects.filterMap fun | .toldUpdate hook event => some (hook, event) | _ => none

namespace Effect

variable {effects : List Effect}

theorem mem_calls {call : Call} : call ∈ calls effects ↔ .asked call ∈ effects := by
  rw [calls, List.mem_filterMap]
  constructor
  · rintro ⟨e, he, h⟩
    cases e with
    | asked c => exact Option.some.inj h ▸ he
    | logged r => cases h
    | toldResolve i event => cases h
    | toldUpdate i event => cases h
  · exact fun h => ⟨_, h, rfl⟩

theorem mem_resolves {told : Nat × ResolveEvent} :
    told ∈ resolves effects ↔ .toldResolve told.1 told.2 ∈ effects := by
  rw [resolves, List.mem_filterMap]
  constructor
  · rintro ⟨e, he, h⟩
    cases e with
    | asked c => cases h
    | logged r => cases h
    | toldResolve i event => exact Option.some.inj h ▸ he
    | toldUpdate i event => cases h
  · exact fun h => ⟨_, h, rfl⟩

@[simp] theorem calls_append (l l' : List Effect) : calls (l ++ l') = calls l ++ calls l' :=
  List.filterMap_append

@[simp] theorem resolves_append (l l' : List Effect) :
    resolves (l ++ l') = resolves l ++ resolves l' :=
  List.filterMap_append

@[simp] theorem updates_append (l l' : List Effect) :
    updates (l ++ l') = updates l ++ updates l' :=
  List.filterMap_append

/-- What is picked from lines of the log is nothing if no line is picked. -/
theorem filterMap_map_logged {α : Type} {pick : Effect → Option α}
    (hpick : ∀ r, pick (.logged r) = none) (records : List LogRecord) :
    (records.map .logged).filterMap pick = [] := by
  rw [List.filterMap_map]
  exact List.filterMap_eq_nil_iff.2 fun r _ => hpick r

@[simp] theorem calls_map_logged (records : List LogRecord) : calls (records.map .logged) = [] :=
  filterMap_map_logged (fun _ => rfl) records

@[simp] theorem updates_map_logged (records : List LogRecord) :
    updates (records.map .logged) = [] :=
  filterMap_map_logged (fun _ => rfl) records

end Effect

/-- A result, and what happens until it is there. -/
@[ext]
structure Observed (α : Type) where
  /-- The result. -/
  value : α
  /-- What happens until then. -/
  effects : List Effect := []

namespace Observed

variable {α β : Type}

instance : Monad Observed where
  pure a := ⟨a, []⟩
  bind x f := ⟨(f x.value).value, x.effects ++ (f x.value).effects⟩

@[simp] theorem value_pure (a : α) : (pure a : Observed α).value = a := rfl

@[simp] theorem effects_pure (a : α) : (pure a : Observed α).effects = [] := rfl

@[simp] theorem value_bind (x : Observed α) (f : α → Observed β) :
    (x >>= f).value = (f x.value).value := rfl

@[simp] theorem effects_bind (x : Observed α) (f : α → Observed β) :
    (x >>= f).effects = x.effects ++ (f x.value).effects := rfl

/-- A collaborator is asked. -/
def ask (call : Call) : Observed Unit := ⟨(), [.asked call]⟩

/-- A line is written to the log. -/
def log (record : LogRecord) : Observed Unit := ⟨(), [.logged record]⟩

/-- Several things happen. -/
def all (effects : List Effect) : Observed Unit := ⟨(), effects⟩

@[simp] theorem effects_ask (call : Call) : (ask call).effects = [.asked call] := rfl

@[simp] theorem effects_log (record : LogRecord) : (log record).effects = [.logged record] := rfl

@[simp] theorem effects_all (effects : List Effect) : (all effects).effects = effects := rfl

end Observed

end FeatureFlags
