import FeatureFlags.Gate.Update
import Mathlib.Data.List.Basic

/-!
# What happens while a gate works

Each part of a resolution does one sort of thing only: the search for a chain asks about the
actor, and the overrides ask the reader and the strategy.  All of them may write to the log.  No
hook is told until the resolution is over.

`Observed.Only` says that everything that happens is of one sort.  Whatever does not happen
follows from it.
-/

namespace FeatureFlags

/-! ## Sorts of effects -/

namespace Effect

/-- A question about the actor, or a line of the log. -/
inductive AboutActor : Effect → Prop where
  | claims : AboutActor (.asked .claims)
  | permissions {subjectId : String} : AboutActor (.asked (.permissions subjectId))
  | logged {record : LogRecord} : AboutActor (.logged record)

/-- A question about overrides, or a line of the log. -/
inductive AboutOverrides : Effect → Prop where
  | read {key : String} : AboutOverrides (.asked (.readOverrides key))
  | decide {key : String} {found : Nat} : AboutOverrides (.asked (.decide key found))
  | logged {record : LogRecord} : AboutOverrides (.logged record)

end Effect

namespace Observed

variable {α β : Type} {P : Effect → Prop}

/-- Everything that happens is of one sort. -/
def Only (P : Effect → Prop) (x : Observed α) : Prop := ∀ e ∈ x.effects, P e

namespace Only

theorem pure (a : α) : (pure a : Observed α).Only P := fun _ h => nomatch h

theorem ask {call : Call} (h : P (.asked call)) : (ask call).Only P := List.forall_mem_singleton.2 h

theorem log {record : LogRecord} (h : P (.logged record)) : (log record).Only P :=
  List.forall_mem_singleton.2 h

theorem bind {x : Observed α} {f : α → Observed β} (hx : x.Only P) (hf : (f x.value).Only P) :
    (x >>= f).Only P := by
  intro e he
  rw [effects_bind, List.mem_append] at he
  exact he.elim (hx e) (hf e)

variable {x : Observed α}

/-- Whoever is asked is asked something of the sort. -/
theorem of_mem_calls (h : x.Only P) {call : Call} (hcall : call ∈ Effect.calls x.effects) :
    P (.asked call) :=
  h _ (Effect.mem_calls.1 hcall)

/-- No resolve hook is told where this is not of the sort. -/
theorem resolves_eq_nil (h : x.Only P) (hP : ∀ i event, ¬ P (.toldResolve i event)) :
    Effect.resolves x.effects = [] :=
  List.eq_nil_iff_forall_not_mem.2 fun _ ht => hP _ _ (h _ (Effect.mem_resolves.1 ht))

end Only

end Observed

/-! ## The parts of a resolution -/

namespace Gate

open Observed (Only)
open Effect (AboutActor AboutOverrides)

/-- The claims are asked from the providers, and from no one else. -/
theorem only_fullClaims (g : Gate) (context : Context) :
    (g.fullClaims context).Only AboutActor := by
  refine .bind (.ask .claims) ?_
  cases g.collaborators.claims context with
  | error e => exact .pure _
  | ok claims =>
    cases g.collaborators.permissions with
    | none => exact .pure _
    | some permissions => exact .bind (.ask .permissions) (.pure _)

/-- The way to a chain asks about the actor only, and a chain that is given needs nobody. -/
theorem only_chainFor (g : Gate) (context : Context) (provided : Option Chain) :
    (g.chainFor context provided).Only AboutActor := by
  cases provided with
  | some chain => exact .pure _
  | none =>
    refine .bind (g.only_fullClaims context) ?_
    cases (g.fullClaims context).value with
    | ok claims => exact .pure _
    | error e =>
      simp only [withoutClaims]
      cases g.config.claimsFailureMode with
      | failClosed => exact .pure _
      | failOpen => exact .bind (.log .logged) (.pure _)

variable (g : Gate) (reader : OverrideReader) (store : OverrideStore) (chain : Chain)
  (key : String)

theorem only_decideKey : (g.decideKey reader store chain key).Only AboutOverrides := by
  refine .bind (.ask .read) ?_
  cases reader store key chain with
  | error e => exact .pure _
  | ok found => exact .bind (.ask .decide) (.pure _)

/-- The legacy keys are walked with questions about overrides only. -/
theorem only_decideAliases (aliases : List String) :
    (g.decideAliases reader store chain key aliases).Only AboutOverrides := by
  induction aliases with
  | nil => exact .pure _
  | cons legacy rest ih =>
    refine .bind (g.only_decideKey reader store chain legacy) ?_
    cases (g.decideKey reader store chain legacy).value with
    | error e => exact .pure _
    | ok d =>
      simp only
      split
      · exact .bind (.log .logged) (.pure _)
      · exact ih

theorem only_decideOverrides :
    (g.decideOverrides reader store chain key).Only AboutOverrides := by
  refine .bind (g.only_decideKey reader store chain key) ?_
  cases (g.decideKey reader store chain key).value with
  | error e => exact .pure _
  | ok d =>
    simp only
    split
    · exact .pure _
    · refine .bind (g.only_decideAliases reader store chain key _) ?_
      split <;> exact .pure _

/-- The overrides of all keys are read without a question about anything else. -/
theorem only_askOverrides (t : Trace) : (g.askOverrides store t).Only AboutOverrides := by
  rw [askOverrides]
  cases g.collaborators.reader with
  | none => exact .pure _
  | some reader =>
    refine .bind (g.only_decideOverrides reader store t.chain t.normalizedKey) ?_
    split <;> exact .pure _

/-! ## Hooks -/

/-- Hooks are told of something one after the other, and each may write to the log.  What is picked
from this is what is picked for each place in their list. -/
theorem filterMap_flatMap_zipIdx {α ρ : Type} {pick : Effect → Option α}
    (hpick : ∀ r, pick (.logged r) = none) (told : Nat → Effect) (lines : ρ → List LogRecord)
    (hooks : List ρ) :
    (hooks.zipIdx.flatMap fun x => told x.2 :: (lines x.1).map .logged).filterMap pick =
      (List.range hooks.length).filterMap fun i => pick (told i) := by
  have hone : ∀ x : ρ × Nat,
      (told x.2 :: (lines x.1).map .logged).filterMap pick = (pick (told x.2)).toList := by
    intro x
    rw [List.filterMap_cons, Effect.filterMap_map_logged hpick]
    cases pick (told x.2) <;> rfl
  rw [List.filterMap_flatMap]
  simp only [hone]
  rw [List.range_eq_range', ← List.zipIdx_map_snd 0, List.filterMap_map,
    List.filterMap_eq_flatMap_toList]
  rfl

/-- Every resolve hook is told once, in the order of the hooks. -/
theorem resolves_tellResolve (event : ResolveEvent) :
    Effect.resolves (g.tellResolve event).effects =
      (List.range g.collaborators.resolveHooks.length).map (·, event) := by
  rw [Effect.resolves]
  refine (filterMap_flatMap_zipIdx ?_ (.toldResolve · event)
    (fun hook : ResolveHook => hook event) g.collaborators.resolveHooks).trans ?_
  · exact fun _ => rfl
  · exact congrFun List.filterMap_eq_map' _

/-- Telling the hooks of a resolution asks nobody. -/
theorem calls_tellResolve (event : ResolveEvent) :
    Effect.calls (g.tellResolve event).effects = [] := by
  rw [Effect.calls]
  refine (filterMap_flatMap_zipIdx ?_ (.toldResolve · event)
    (fun hook : ResolveHook => hook event) g.collaborators.resolveHooks).trans ?_
  · exact fun _ => rfl
  · exact List.filterMap_eq_nil_iff.2 fun _ _ => rfl

theorem calls_fail (t : Trace) (e : Error) : Effect.calls (g.fail t e).effects = [] := by
  simp only [fail, Observed.effects_bind, Effect.calls_append, calls_tellResolve]
  rfl

/-- Every activity hook is told once, in the order of the hooks. -/
theorem updates_tellUpdate (event : UpdateEvent) :
    Effect.updates (g.tellUpdate event).effects =
      (List.range g.collaborators.activityHooks.length).map (·, event) := by
  rw [Effect.updates]
  refine (filterMap_flatMap_zipIdx ?_ (.toldUpdate · event)
    (fun hook : ActivityHook => hook event) g.collaborators.activityHooks).trans ?_
  · exact fun _ => rfl
  · exact congrFun List.filterMap_eq_map' _

/-- Telling the hooks of a change asks nobody. -/
theorem calls_tellUpdate (event : UpdateEvent) :
    Effect.calls (g.tellUpdate event).effects = [] := by
  rw [Effect.calls]
  refine (filterMap_flatMap_zipIdx ?_ (.toldUpdate · event)
    (fun hook : ActivityHook => hook event) g.collaborators.activityHooks).trans ?_
  · exact fun _ => rfl
  · exact List.filterMap_eq_nil_iff.2 fun _ _ => rfl

end Gate

end FeatureFlags
