import FeatureFlags.Proofs.Effects
import FeatureFlags.Proofs.Run
import FeatureFlags.Proofs.Writes

/-!
# What a change does when writes fail

A change writes its keys one after the other, the canonical key first.  Each write may fail, and
then it has written nothing and no further one is tried.  `Change.Tries` says which writes are
tried and what comes of them, for any writer.

What follows is decided by the first write.  If it fails, the state is the old one and no hook is
told.  If it goes through, the change counts as done: the writes that went through stay, the
cache is emptied, and every activity hook is told once, after all writes.  A failure after the
first write is the result all the same, so that a change is never done in part without notice.
-/

namespace FeatureFlags

open Text (trim)

/-! ## Writers -/

/-- A write that goes through changes the record of its key and its scope and no other. -/
def OverrideWriter.Local (writer : OverrideWriter) : Prop :=
  ∀ store key scope value actor store', writer.write store key scope value actor = .ok store' →
    ∀ k p, ¬ (trim key = trim k ∧ scope = p) → store'.record? k p = store.record? k p

/-- The store writes nothing but the record it is asked to write. -/
theorem OverrideWriter.local_ofStore : OverrideWriter.ofStore.Local := by
  intro store key scope value actor store' h k p hne
  simp only [OverrideWriter.ofStore, OverrideStore.write] at h
  split at h
  · cases h
  · obtain rfl := Except.ok.inj h
    rw [OverrideStore.record?_put, if_neg hne]

/-- A writer that fails at times writes nothing more than before. -/
theorem OverrideWriter.Local.withFaults {writer : OverrideWriter} (h : writer.Local)
    (fault : String → Option Error) : (writer.withFaults fault).Local :=
  fun store key scope value actor store' hwrite =>
    h store key scope value actor store' (eq_ok_of_orFault hwrite)

namespace Gate

variable {g : Gate} {s : GateState} {c : Change} {writer : OverrideWriter}
  {store last : OverrideStore} {key : String} {keys tried : List String} {failure : Option Error}

/-! ## Writes up to a failure -/

namespace Change

/-- The change is written under some keys one after the other, and every write goes through. -/
inductive Writes (c : Change) (writer : OverrideWriter) :
    OverrideStore → List String → OverrideStore → Prop where
  /-- There is nothing to write. -/
  | nil {store : OverrideStore} : Writes c writer store [] store
  /-- The first write goes through, and then the others do. -/
  | cons {store next last : OverrideStore} {key : String} {rest : List String} :
      writer.write store key c.scope c.value c.actor = .ok next → Writes c writer next rest last →
      Writes c writer store (key :: rest) last

/-- What comes of writing the change under some keys one after the other: the keys that are tried,
the store after that, and the failure. -/
inductive Tries (c : Change) (writer : OverrideWriter) (store : OverrideStore)
    (keys : List String) : List String → OverrideStore → Option Error → Prop where
  /-- Every write goes through. -/
  | all {last : OverrideStore} : c.Writes writer store keys last →
      Tries c writer store keys keys last none
  /-- A write fails, and those before it go through. -/
  | upTo {before after : List String} {k : String} {last : OverrideStore} {e : Error} :
      keys = before ++ k :: after → c.Writes writer store before last →
      writer.write last k c.scope c.value c.actor = .error e →
      Tries c writer store keys (before ++ [k]) last (some e)

/-- Records under other keys and at other scopes stay as they are. -/
theorem Writes.record?_eq (h : c.Writes writer store keys last) (hlocal : writer.Local)
    {k : String} {p : Scope} (hne : ∀ a ∈ keys, ¬ (trim a = trim k ∧ c.scope = p)) :
    last.record? k p = store.record? k p := by
  induction h with
  | nil => rfl
  | cons hwrite _ ih =>
    obtain ⟨hkey, hrest⟩ := List.forall_mem_cons.1 hne
    rw [ih hrest, hlocal _ _ _ _ _ _ hwrite k p hkey]

namespace Tries

/-- Only records under keys that were tried can change. -/
theorem record?_eq (h : c.Tries writer store keys tried last failure) (hlocal : writer.Local)
    {k : String} {p : Scope} (hne : ∀ a ∈ tried, ¬ (trim a = trim k ∧ c.scope = p)) :
    last.record? k p = store.record? k p := by
  cases h with
  | all hwrites => exact hwrites.record?_eq hlocal hne
  | upTo _ hwrites _ =>
    exact hwrites.record?_eq hlocal fun a ha => hne a (List.mem_append_left _ ha)

/-- The first write fails, so no other is tried. -/
theorem of_error {e : Error} (h : writer.write store key c.scope c.value c.actor = .error e)
    (rest : List String) : c.Tries writer store (key :: rest) [key] store (some e) :=
  .upTo (List.nil_append (key :: rest)).symm .nil h

/-- The first write goes through, so the others are tried. -/
theorem cons {next : OverrideStore} {rest : List String}
    (h : writer.write store key c.scope c.value c.actor = .ok next)
    (hrest : c.Tries writer next rest tried last failure) :
    c.Tries writer store (key :: rest) (key :: tried) last failure := by
  cases hrest with
  | all hwrites => exact .all (.cons h hwrites)
  | upTo heq hwrites herror =>
    rw [← List.cons_append]
    exact .upTo (by rw [heq, List.cons_append]) (.cons h hwrites) herror

end Tries

end Change

/-! ## The writes of a change -/

/-- A write that fails leaves nothing in the log. -/
theorem writeKey_of_error {e : Error}
    (h : writer.write store key c.scope c.value c.actor = .error e) :
    writeKey writer store c key = ⟨.error e, [.asked (.writeOverride key c.scope c.value)]⟩ := by
  simp only [writeKey, h]
  rfl

theorem writeKey_of_ok {next : OverrideStore}
    (h : writer.write store key c.scope c.value c.actor = .ok next) :
    writeKey writer store c key = ⟨.ok next, .asked (.writeOverride key c.scope c.value) ::
      (writer.records key c.scope c.value).map .logged⟩ := by
  simp only [writeKey, h]
  show Observed.mk (Except.ok next) (_ :: (_ ++ [])) = _
  rw [List.append_nil]
  rfl

/-- A write asks the writer once, and tells no hook. -/
theorem effects_writeKey (writer : OverrideWriter) (store : OverrideStore) (c : Change)
    (key : String) :
    Effect.calls (writeKey writer store c key).effects =
        [.writeOverride key c.scope c.value] ∧
      Effect.updates (writeKey writer store c key).effects = [] := by
  cases h : writer.write store key c.scope c.value c.actor with
  | error e =>
    rw [writeKey_of_error h]
    exact ⟨rfl, rfl⟩
  | ok next =>
    rw [writeKey_of_ok h]
    exact ⟨congrArg (_ :: ·) (Effect.calls_map_logged _), Effect.updates_map_logged _⟩

/-- The legacy keys are written up to the first failure, and no hook is told meanwhile. -/
theorem tries_writeAliases (writer : OverrideWriter) (c : Change) (store : OverrideStore)
    (keys : List String) :
    let w := writeAliases writer c store keys
    ∃ tried, c.Tries writer store keys tried w.value.1 w.value.2 ∧
      Effect.calls w.effects = (tried.map fun k => .writeOverride k c.scope c.value) ∧
      Effect.updates w.effects = [] := by
  induction keys generalizing store with
  | nil => exact ⟨[], .all .nil, rfl, rfl⟩
  | cons key rest ih =>
    obtain ⟨hcalls, hupdates⟩ := effects_writeKey writer store c key
    simp only [writeAliases, Observed.value_bind, Observed.effects_bind, Effect.calls_append,
      Effect.updates_append, value_writeKey, hcalls, hupdates]
    cases hwrite : writer.write store key c.scope c.value c.actor with
    | error e => exact ⟨[key], .of_error hwrite rest, rfl, rfl⟩
    | ok next =>
      obtain ⟨tried, htries, hcalls', hupdates'⟩ := ih next
      simp only [hcalls', hupdates']
      exact ⟨key :: tried, .cons hwrite htries, rfl, rfl⟩

/-! ## Changes -/

/-- The event of a change, which sets the override when there is a value and else clears it. -/
def Change.event (c : Change) (key : String) : UpdateEvent where
  key := trim key
  normalizedKey := c.key
  scope := c.scope
  actor := c.actor
  action := if c.value.isSome then .set else .unset
  value := c.value

/-- What a change does that has everything it needs. -/
structure Performs (g : Gate) (s : GateState) (key : String) (c : Change)
    (writer : OverrideWriter) (tried : List String) (last : OverrideStore)
    (failure : Option Error) (u : Observed (Except Error Unit × GateState)) : Prop where
  /-- The canonical key and its legacy keys are written up to the first failure. -/
  tries : c.Tries writer s.store (c.key :: g.aliases.aliasesFor c.key) tried last failure
  /-- No collaborator is asked for anything else. -/
  calls : Effect.calls u.effects = tried.map fun k => .writeOverride k c.scope c.value
  /-- The result is the failure if there is one. -/
  result : u.value.1 = failure.elim (.ok ()) fun e =>
    .error (e.wrap .storeWriteFailed (g.writePlace key c.scope c.value))
  /-- If the first write fails, nothing else has happened. -/
  undone : ∀ e, writer.write s.store c.key c.scope c.value c.actor = .error e →
    tried = [c.key] ∧ failure = some e ∧ u.value.2 = s ∧
      u.effects = [.asked (.writeOverride c.key c.scope c.value)]
  /-- If it goes through, the change is done and no answer is kept any more, and after the writes
  every hook is told of it. -/
  done : ∀ next, writer.write s.store c.key c.scope c.value c.actor = .ok next →
    u.value.2 = ⟨last, s.cache.clear⟩ ∧ u.value.2.cache.entries = [] ∧
      Effect.updates u.effects =
        (List.range g.collaborators.activityHooks.length).map (·, c.event key) ∧
      ∃ before after, u.effects = before ++ after ∧ Effect.updates before = [] ∧
        Effect.calls after = []
  /-- The records at other scopes and under keys that were not tried are the old ones. -/
  elsewhere : writer.Local → ∀ k p, (∀ a ∈ tried, ¬ (trim a = trim k ∧ c.scope = p)) →
    u.value.2.store.record? k p = s.store.record? k p

section Prepared

variable {scope : Scope} {value : Option Bool} {actor : Actor}
  (hprepare : g.prepare key scope value actor = .ok (c, writer))

include hprepare

theorem value_of_prepare : c.value = value := by
  simp only [prepare] at hprepare
  split at hprepare
  · cases hprepare
  · split at hprepare
    · cases hprepare
    · split at hprepare
      · cases hprepare
      · cases hprepare
        rfl

/-- When the canonical key cannot be written, the change ends there. -/
theorem update_of_first_error {e : Error}
    (h : writer.write s.store c.key c.scope c.value c.actor = .error e) :
    g.update s key scope value actor =
      ⟨(.error (e.wrap .storeWriteFailed (g.writePlace key c.scope value)), s),
        [.asked (.writeOverride c.key c.scope c.value)]⟩ := by
  simp only [update, hprepare, writeKey_of_error h]
  rfl

/-- Once the canonical key is written, the change counts as done, and its result is what comes of
the legacy keys. -/
theorem update_of_first_ok {next : OverrideStore}
    (h : writer.write s.store c.key c.scope c.value c.actor = .ok next) :
    let u := g.update s key scope value actor
    let w := writeAliases writer c next (g.aliases.aliasesFor c.key)
    u.value.1 = (w.value.2.elim (.ok ()) fun e =>
        .error (e.wrap .storeWriteFailed (g.writePlace key c.scope value))) ∧
      u.value.2 = ⟨w.value.1, s.cache.clear⟩ ∧
      u.effects = ((writeKey writer s.store c c.key).effects ++ w.effects) ++
        .logged (updateRecord (c.event key)) :: (g.tellUpdate (c.event key)).effects := by
  intro u w
  simp only [u, w, update, hprepare, Observed.value_bind, Observed.effects_bind, writeKey_of_ok h]
  refine ⟨rfl, rfl, ?_⟩
  rw [List.append_assoc, Change.event, ← UpdateAction.ofWrite_eq]
  simp only [Observed.effects_pure, Observed.effects_log, List.append_nil]
  rfl

/-- A change that has everything it needs does what `Performs` says. -/
theorem performs_update (s : GateState) :
    ∃ tried last failure,
      g.Performs s key c writer tried last failure (g.update s key scope value actor) := by
  obtain rfl : c.value = value := value_of_prepare hprepare
  cases hwrite : writer.write s.store c.key c.scope c.value c.actor with
  | error e =>
    refine ⟨[c.key], s.store, some e, ?_⟩
    rw [update_of_first_error hprepare hwrite]
    exact
      { tries := .of_error hwrite _
        calls := rfl
        result := rfl
        undone := fun e' he' => by
          obtain rfl := Except.error.inj (hwrite.symm.trans he')
          exact ⟨rfl, rfl, rfl, rfl⟩
        done := fun next hnext => nomatch hwrite.symm.trans hnext
        elsewhere := fun _ _ _ _ => rfl }
  -- From here on the change is done, whatever comes of the legacy keys.
  | ok next =>
    obtain ⟨hresult, hstate, heffects⟩ := update_of_first_ok hprepare hwrite
    obtain ⟨hcalls, hupdates⟩ := effects_writeKey writer s.store c c.key
    obtain ⟨tried, htries, hcalls', hupdates'⟩ :=
      tries_writeAliases writer c next (g.aliases.aliasesFor c.key)
    generalize writeAliases writer c next (g.aliases.aliasesFor c.key) = w at *
    have hbefore :
        Effect.updates ((writeKey writer s.store c c.key).effects ++ w.effects) = [] := by
      rw [Effect.updates_append, hupdates, hupdates', List.append_nil]
    refine ⟨c.key :: tried, w.value.1, w.value.2, ?_⟩
    exact
      { tries := htries.cons hwrite
        calls := by
          rw [heffects, Effect.calls_append, Effect.calls_append, hcalls, hcalls']
          show _ ++ Effect.calls (g.tellUpdate _).effects = _
          rw [calls_tellUpdate, List.append_nil]
          rfl
        result := hresult
        undone := fun e he => nomatch hwrite.symm.trans he
        done := fun _ _ => by
          refine ⟨hstate, ?_, ?_, _, _, heffects, hbefore, g.calls_tellUpdate _⟩
          · rw [hstate]
            exact ResolveCache.entries_clear _
          · rw [heffects, Effect.updates_append, hbefore]
            exact g.updates_tellUpdate _
        elsewhere := fun hlocal k p hne => by
          rw [hstate]
          exact (htries.cons hwrite).record?_eq hlocal hne }

end Prepared

/-- A change that lacks something is refused, and then nothing happens.  What it lacks first, of a
key, an identifier and a writer, is the error.  Every other change does what `Performs` says. -/
theorem change_effects (g : Gate) (s : GateState) (key : String) (scope : Scope)
    (value : Option Bool) (actor : Actor) :
    let u := g.update s key scope value actor
    let c := g.changeFor key scope value actor
    (c.key = "" → u = ⟨(.error (.ofCode .featureKeyRequired (g.updatePlace key value)), s), []⟩) ∧
    (c.key ≠ "" → c.scope.hasRequiredIds = false → u =
      ⟨(.error (.withText .scopeRequired (c.scope.kind.name ++ " scope requires an identifier")
        (g.scopePlace key scope value)), s), []⟩) ∧
    (c.key ≠ "" → c.scope.hasRequiredIds = true → g.collaborators.writer = none → u =
      ⟨(.error (.ofCode .overrideStoreRequired (g.scopePlace key scope value)), s), []⟩) ∧
    (c.key ≠ "" → c.scope.hasRequiredIds = true → ∀ writer, g.collaborators.writer = some writer →
      ∃ tried last failure, g.Performs s key c writer tried last failure u) := by
  intro u c
  refine ⟨fun hkey => ?_, fun hkey hids => ?_, fun hkey hids hwriter => ?_,
    fun hkey hids writer hwriter => ?_⟩
  · exact update_of_prepare_error (prepare_of_empty hkey scope value actor) s
  · exact update_of_prepare_error (prepare_of_incomplete hkey hids value actor) s
  · exact update_of_prepare_error (prepare_of_no_writer hkey hids hwriter value actor) s
  · have haccepts : g.Accepts key scope :=
      ⟨fun htrim => hkey ((g.consistent_aliases.normalize_eq_empty_iff key).2 htrim), hids⟩
    exact performs_update (prepare_of_accepts hwriter haccepts value actor) s

/-- A writer to the store for which the legacy key is out of reach. -/
def reachingHalf : OverrideWriter :=
  OverrideWriter.ofStore.withFaults fun key => if key = "old" then some (.adapter "down") else none

/-- The gate for which a feature was renamed, with that writer and two activity hooks. -/
def renamingHalf : Gate :=
  { Gate.renaming with
    collaborators := { Gate.renaming.collaborators with
      writer := some reachingHalf, activityHooks := [fun _ => [], fun _ => []] } }

theorem change_effects_renamingHalf :
    let ann : Actor := ⟨"ann", "user", "Ann"⟩
    let c : Change := ⟨"new", .tenant "t", some true, ann⟩
    let event : UpdateEvent := ⟨"old", "new", .tenant "t", ann, .set, some true⟩
    let u := renamingHalf.update .initial " old" (.tenant " t ") (some true) ann
    c.key ≠ "" ∧ c.scope.hasRequiredIds = true ∧
      renamingHalf.collaborators.writer = some reachingHalf ∧ reachingHalf.Local ∧
      (∃ tried last failure,
        renamingHalf.Performs .initial " old" c reachingHalf tried last failure u) ∧
      u.value.1 = .error ((Error.adapter "down").wrap .storeWriteFailed
        (renamingHalf.writePlace " old" c.scope c.value)) ∧
      Effect.calls u.effects = [.writeOverride "new" (.tenant "t") (some true),
        .writeOverride "old" (.tenant "t") (some true)] ∧
      Effect.updates u.effects = [(0, event), (1, event)] := by
  intro ann c event u
  have hc : renamingHalf.changeFor " old" (.tenant " t ") (some true) ann = c := by decide +kernel
  have hperforms := (change_effects renamingHalf .initial " old" (.tenant " t ") (some true)
    ann).2.2.2
  rw [hc] at hperforms
  refine ⟨by decide, by decide, rfl, OverrideWriter.local_ofStore.withFaults _,
    hperforms (by decide) (by decide) reachingHalf rfl, ?_⟩
  decide +kernel

end Gate

end FeatureFlags
