import FeatureFlags.AuditHook
import FeatureFlags.Proofs.Effects
import FeatureFlags.Proofs.Failures

/-!
# Reports

However a resolution ends, every resolve hook is told of it, once and in the order of the hooks.
What the hooks are told is what the caller gets: the trace, and the error if there is one.

A resolution ends by one of three computations: it fails, it finishes, or it repeats an answer.
Each of them reports what it gives (`Gate.Reported`), and nothing that comes before the end tells
a hook.
-/

namespace FeatureFlags

open Text (trim)

namespace Resolution

/-- Why a resolution failed, if it did. -/
def error? (r : Resolution) : Option Error :=
  match r.result with
  | .ok _ => none
  | .error e => some e

theorem error?_eq_some_iff {r : Resolution} {e : Error} :
    r.error? = some e ↔ r.result = .error e := by
  rw [error?]
  cases r.result with
  | ok v => simp
  | error e' => simp

/-- What the hooks are told of a resolution. -/
def event (r : Resolution) : ResolveEvent := .ofTrace r.trace r.error?

end Resolution

namespace Gate

/-- The hooks are told of a resolution once each, and its trace fits its result. -/
structure Reported (g : Gate) (r : Resolution) (effects : List Effect) : Prop where
  /-- Every hook is told of the resolution, in the order of the hooks. -/
  told : Effect.resolves effects =
    (List.range g.collaborators.resolveHooks.length).map (·, r.event)
  /-- The value in the trace is the value of the result. -/
  value : ∀ v, r.result = .ok v → r.trace.value = v
  /-- Without a result the feature is off. -/
  off : ∀ e, r.result = .error e → r.trace.value = false ∧ r.trace.source = .fallback

/-- A report stays what it is when other things happen before it. -/
theorem Reported.after {g : Gate} {r : Resolution} {effects : List Effect}
    (h : g.Reported r effects) {before : List Effect} (hbefore : Effect.resolves before = []) :
    g.Reported r (before ++ effects) where
  told := by rw [Effect.resolves_append, hbefore, List.nil_append, h.told]
  value := h.value
  off := h.off

variable (g : Gate)

/-! ## The ends of a resolution -/

/-- A line in the log and then the hooks: this is how each of the three ends goes. -/
theorem resolves_log_tellResolve (record : LogRecord) (event : ResolveEvent) (r : Resolution) :
    Effect.resolves (do .log record; g.tellResolve event; pure r : Observed Resolution).effects =
      (List.range g.collaborators.resolveHooks.length).map (·, event) := by
  simp only [Observed.effects_bind, Observed.effects_pure, List.append_nil,
    Effect.resolves_append, resolves_tellResolve]
  rfl

/-- A resolution that fails reports its error and that the feature is off. -/
theorem reported_fail (t : Trace) (e : Error) :
    g.Reported (g.fail t e).value (g.fail t e).effects where
  told := g.resolves_log_tellResolve _ _ _
  value v h := by cases h
  off _ _ := ⟨rfl, rfl⟩

/-- A resolution that finishes reports its answer. -/
theorem reported_finish (t : Trace) : g.Reported (g.finish t).value (g.finish t).effects where
  told := g.resolves_log_tellResolve _ _ _
  value v h := Except.ok.inj h
  off e h := by cases h

/-- A repeated answer is reported like a fresh one. -/
theorem reported_replay (t : Trace) (entry : CacheEntry) :
    g.Reported (g.replay t entry).value (g.replay t entry).effects where
  told := g.resolves_log_tellResolve _ _ _
  value v h := Except.ok.inj h
  off e h := by cases h

/-! ## Before the end -/

theorem resolves_askDefaults (t : Trace) : Effect.resolves (g.askDefaults t).effects = [] := by
  rw [askDefaults, Observed.effects_bind]
  cases g.collaborators.defaults t.normalizedKey with
  | ok answer => rfl
  | error e => rfl

/-- Nothing is reported while the overrides are asked. -/
theorem resolves_askOverrides (store : OverrideStore) (t : Trace) :
    Effect.resolves (g.askOverrides store t).effects = [] := by
  refine (g.only_askOverrides store t).resolves_eq_nil ?_
  intro i event h
  cases h

/-- Nothing is reported on the way to the chain. -/
theorem resolves_chainFor (context : Context) (provided : Option Chain) :
    Effect.resolves (g.chainFor context provided).effects = [] := by
  refine (g.only_chainFor context provided).resolves_eq_nil ?_
  intro i event h
  cases h

/-- A resolution that is left to the defaults ends with one report. -/
theorem reported_resolveDefault (t : Trace) (keep : Bool) :
    g.Reported (g.resolveDefault t keep).value.1 (g.resolveDefault t keep).effects := by
  rw [resolveDefault, Observed.effects_bind, Observed.value_bind]
  refine .after ?_ (g.resolves_askDefaults t)
  cases (g.askDefaults t).value.error with
  | some e =>
    simp only [Observed.effects_bind, Observed.effects_pure, List.append_nil]
    exact g.reported_fail _ e
  | none =>
    simp only [Observed.effects_bind, Observed.effects_pure, List.append_nil]
    exact g.reported_finish _

/-- Every resolution that is not repeated ends with one report, whichever layer answers. -/
theorem reported_resolveFresh (store : OverrideStore) (t : Trace) :
    g.Reported (g.resolveFresh store t).value.1 (g.resolveFresh store t).effects := by
  rw [resolveFresh, Observed.effects_bind, Observed.value_bind]
  refine .after ?_ (g.resolves_askOverrides store t)
  generalize (g.askOverrides store t).value = o
  cases o.error with
  | some e =>
    simp only
    split
    · simp only [Observed.effects_bind, Observed.effects_pure, List.append_nil]
      exact g.reported_fail _ e
    · exact (g.reported_resolveDefault _ false).after rfl
  | none =>
    cases o.verdict with
    | some value =>
      simp only [Observed.effects_bind, Observed.effects_pure, List.append_nil]
      exact g.reported_finish _
    | none => exact g.reported_resolveDefault _ true

theorem reported_resolveIn (s : GateState) (t : Trace) :
    g.Reported (g.resolveIn s t).value.1 (g.resolveIn s t).effects := by
  unfold resolveIn
  obtain ⟨entry, cache⟩ := s.cache.get t.normalizedKey t.chain
  cases entry with
  | some entry =>
    simp only [Observed.effects_bind, Observed.effects_pure, List.append_nil]
    exact g.reported_replay t entry
  | none =>
    have h := g.reported_resolveFresh s.store t
    simp only [Observed.effects_bind, Observed.value_bind]
    split
    · simpa only [Observed.effects_pure, Observed.value_pure, List.append_nil] using h
    · simpa only [Observed.effects_pure, Observed.value_pure, List.append_nil] using h

/-- Every resolution ends with one report, also one without a key or without a chain. -/
theorem reported_resolve (s : GateState) (context : Context) (key : String)
    (provided : Option Chain) :
    g.Reported (g.resolve s context key provided).value.1
      (g.resolve s context key provided).effects := by
  by_cases hkey : g.aliases.normalize key = ""
  · rw [resolve_of_empty hkey]
    exact g.reported_fail _ _
  · cases hchain : (g.chainFor context provided).value with
    | error e =>
      rw [resolve_of_chain_error hkey hchain]
      exact (g.reported_fail _ _).after (g.resolves_chainFor context provided)
    | ok chain =>
      rw [resolve_of_chain hkey hchain]
      exact (g.reported_resolveIn s _).after (g.resolves_chainFor context provided)

/-! ## The main theorem -/

/-- Every resolution is reported to every hook, with what the caller gets.  A resolution that fails
gives no value and leaves the cache as it is, and its error is that of an empty key or of the call
that stopped it, under the code of the layer. -/
theorem resolution_is_reported (s : GateState) (context : Context) (key : String)
    (provided : Option Chain) :
    let x := g.resolve s context key provided
    let r := x.value.1
    (∃ event : ResolveEvent,
      Effect.resolves x.effects =
        (List.range g.collaborators.resolveHooks.length).map (·, event) ∧
      event.trace = r.trace ∧ event.key = r.trace.key ∧
      event.normalizedKey = r.trace.normalizedKey ∧ event.chain = r.trace.chain ∧
      event.value = r.trace.value ∧ event.source = r.trace.source ∧
      ∀ e, event.error = some e ↔ r.result = .error e) ∧
    (∀ v, r.result = .ok v → r.trace.value = v) ∧
    (∀ e, r.result = .error e →
      r.trace.value = false ∧ r.trace.source = .fallback ∧ x.value.2 = s.cache) ∧
    (trim key = "" → ∃ e, r.result = .error e ∧
      e.code = .featureKeyRequired ∧ e.rootCode = .featureKeyRequired) ∧
    (trim key ≠ "" → ∀ e, r.result = .error e ↔
      ∃ layer cause, g.Stops s context key provided layer cause ∧
        e = g.layerError r.trace cause layer ∧
        e.code = layer.code ∧ e.rootCode = cause.rootCode) := by
  intro x r
  have hreported : g.Reported r x.effects := g.reported_resolve s context key provided
  refine ⟨⟨r.event, hreported.told, rfl, rfl, rfl, rfl, rfl, rfl,
    fun _ => Resolution.error?_eq_some_iff⟩, hreported.value, ?_, ?_, ?_⟩
  · intro e he
    obtain ⟨hvalue, hsource⟩ := hreported.off e he
    exact ⟨hvalue, hsource, snd_value_resolve_of_error he⟩
  · intro hkey
    have hempty := (g.consistent_aliases.normalize_eq_empty_iff key).2 hkey
    have hx : x.value = _ := value_resolve_of_empty hempty s context provided
    exact ⟨_, congrArg (·.1.result) hx, rfl, rfl⟩
  · intro hkey e
    refine (result_resolve_eq_error_iff (normalize_ne_empty hkey)).trans ?_
    constructor
    · rintro ⟨layer, cause, hstops, rfl⟩
      exact ⟨layer, cause, hstops, rfl, g.code_layerError _ _ _, g.rootCode_layerError _ _ _⟩
    · rintro ⟨layer, cause, hstops, he, -, -⟩
      exact ⟨layer, cause, hstops, he⟩

/-- A strict gate with two hooks for which a feature was renamed.  Nothing can be read under the
old key. -/
def oldKeyDown : Gate where
  config := { strictStore := true, aliases := .ofList [("old", "new")] }
  accepted := rfl
  normalizer := .standard
  collaborators := {
    reader := some fun store key chain =>
      if key = "old" then .error ((Error.adapter "down").wrap .internal)
      else .ok (store.getAll key chain)
    resolveHooks := [fun event => [AuditHook.resolveRecord {} event], fun _ => []] }

/-- The error of the reader has a cause of its own, which the layer keeps. -/
theorem resolution_is_reported_oldKeyDown :
    let x := oldKeyDown.resolve ⟨.empty, .lru (.ofCapacity 0)⟩ {} " new " none
    (∃ e event, x.value.1.result = .error e ∧ e.code = .storeReadFailed ∧
      e.rootCode = .adapterFailed ∧ Effect.resolves x.effects = [(0, event), (1, event)] ∧
      event.error = some e ∧ x.value.2 = .lru (.ofCapacity 0)) ∧
    ∃ e, (oldKeyDown.resolve ⟨.empty, .noop⟩ {} "  " none).value.1.result = .error e ∧
      e.rootCode = .featureKeyRequired := by
  intro x
  have hchain : (oldKeyDown.chainFor {} none).value = .ok [.system] := by decide +kernel
  have hnormalize : oldKeyDown.aliases.normalize " new " = "new" := by decide +kernel
  have haliases : oldKeyDown.aliases.aliasesFor "new" = ["old"] := by decide +kernel
  have hstops : oldKeyDown.Stops ⟨.empty, .lru (.ofCapacity 0)⟩ {} " new " none .overrides
      ((Error.adapter "down").wrap .internal) := by
    refine .overrides hchain rfl rfl ⟨_, rfl, ?_⟩
    rw [hnormalize, haliases]
    exact .later ⟨{}, by decide +kernel, rfl⟩ (.here rfl)
  obtain ⟨⟨event, htold, -, -, -, -, -, -, herror⟩, -, hoff, -, hcause⟩ :=
    oldKeyDown.resolution_is_reported ⟨.empty, .lru (.ofCapacity 0)⟩ {} " new " none
  obtain ⟨-, -, -, hempty, -⟩ := oldKeyDown.resolution_is_reported ⟨.empty, .noop⟩ {} "  " none
  constructor
  · have hresult := (hcause (by decide) _).2 ⟨_, _, hstops, rfl, code_layerError _ _ _ _,
      rootCode_layerError _ _ _ _⟩
    obtain ⟨-, -, hcache⟩ := hoff _ hresult
    exact ⟨_, event, hresult, rfl, rfl, htold, (herror _).2 hresult, hcache⟩
  · obtain ⟨e, he, -, hroot⟩ := hempty (by decide)
    exact ⟨e, he, hroot⟩

end Gate

end FeatureFlags
