import FeatureFlags.Proofs.CacheCoherence
import FeatureFlags.Proofs.Precedence
import FeatureFlags.Proofs.Writes

/-!
# Cleared overrides

Clearing an override leaves a record behind, which a strategy finds among the overrides of the
key.  Still a feature whose override was cleared is resolved as if the override had never been
written.

*Values.*  What a gate takes from a store is the values in it, and a cleared override has no
value, as an override that was never written has none.  `OverrideStore.SameValues` compares two
stores by their values.  A change is one equation about values (`value?_update`), and so is a
deletion (`value?_deleteUnder`).

*Answers.*  Stores with the same values lead to the same answers, except that a trace lists the
records of cleared overrides beside the override that decides.  `gist` leaves this list out,
together with the mark of a repeated answer.

*Runs.*  The same changes keep the values of two stores the same, so the answers stay the same
in all that follows (`map_gist_run`).
-/

namespace FeatureFlags

open Text (trim)

/-! ## The values in a store -/

namespace OverrideStore

/-- The value of a feature at a scope, if it has one there. -/
def value? (s : OverrideStore) (key : String) (p : Scope) : Option Bool := (s.get key p).value

/-- The features have the same values in both stores. -/
def SameValues (s s' : OverrideStore) : Prop := ∀ key p, s.value? key p = s'.value? key p

/-- What is found with a value depends on the values in the store only, so a cleared override is not
told from a missing one. -/
theorem filter_hasValue_getAll (s : OverrideStore) (key : String) (chain : Chain) :
    (s.getAll key chain).filter (·.state.hasValue) =
      chain.filterMap fun p => (s.value? key p).map fun on => ⟨p, .ofBool on⟩ := by
  rw [getAll, List.filter_filterMap]
  refine List.filterMap_congr fun p _ => ?_
  rw [value?, get]
  cases s.record? key p with
  | none => rfl
  | some r =>
    obtain ⟨state, actor⟩ := r
    cases state with
    | missing => rfl
    | enabled => rfl
    | disabled => rfl
    | unset => rfl

/-- The store without the records of some features at a scope. -/
def deleteUnder (s : OverrideStore) (p : Scope) (keys : List String) : OverrideStore :=
  keys.foldl (fun s key => (s.delete key p).2) s

/-- Exactly the records of the given features at the scope are gone. -/
theorem record?_deleteUnder (s : OverrideStore) (p : Scope) (keys : List String) (k : String)
    (q : Scope) :
    (s.deleteUnder p keys).record? k q =
      if trim k ∈ keys.map trim ∧ p = q then none else s.record? k q := by
  induction keys generalizing s with
  | nil => simp [deleteUnder]
  | cons key rest ih =>
    rw [deleteUnder, List.foldl_cons, ← deleteUnder, ih, record?_delete]
    simp only [List.map_cons, List.mem_cons]
    by_cases hq : p = q
    · by_cases hrest : trim k ∈ rest.map trim
      · simp [hq, hrest]
      · simp [hq, hrest, eq_comm]
    · simp [hq]

/-- A deletion, told by values.  It is the equation of a change that clears. -/
theorem value?_deleteUnder (s : OverrideStore) (p : Scope) (keys : List String) (k : String)
    (q : Scope) :
    (s.deleteUnder p keys).value? k q =
      if trim k ∈ keys.map trim ∧ p = q then none else s.value? k q := by
  rw [value?, get, record?_deleteUnder]
  split
  · rfl
  · rfl

end OverrideStore

/-! ## Answers without what was found beside them -/

/-- The decision without the other overrides of the group that decides. -/
def Decision.gist (d : Decision) : Decision := { d with candidates := [] }

/-- What the overrides said, without those that did not decide. -/
def OverrideTrace.gist (o : OverrideTrace) : OverrideTrace := { o with candidates := [] }

/-- The trace without the overrides that did not decide and the mark of a repeated answer. -/
def Trace.gist (t : Trace) : Trace :=
  { t with overrides := t.overrides.gist, cacheHit := false }

/-- The resolution with the gist of its trace. -/
def Resolution.gist (r : Resolution) : Resolution := { r with trace := r.trace.gist }

/-- The reply with the gist of its trace. -/
def Reply.gist : Reply → Reply
  | .resolved r => .resolved r.gist
  | .updated result => .updated result

theorem Decision.verdict_eq_of_gist {d d' : Decision} (h : d.gist = d'.gist) :
    d.verdict = d'.verdict := by
  have hverdict : d.gist.verdict = d'.gist.verdict := congrArg Decision.verdict h
  exact hverdict

theorem Resolution.gist_unmarked (r : Resolution) : r.unmarked.gist = r.gist := rfl

/-- The decision stays the same but for the candidates when every group keeps its winner. -/
theorem gist_decideGroups {rule : RolePermRule} {chain : Chain} {found found' : List OverrideMatch}
    {groups : List ScopeGroup}
    (h : ∀ g ∈ groups, groupWinner rule g (groupMatches g chain found) =
      groupWinner rule g (groupMatches g chain found')) :
    (decideGroups rule chain found groups).gist = (decideGroups rule chain found' groups).gist := by
  refine decideGroups_related (R := fun d d' => d.gist = d'.gist) rfl fun g hg => ?_
  rw [h g hg]
  cases groupWinner rule g (groupMatches g chain found') with
  | none => exact .none
  | some w => exact .some rfl

namespace Gate

variable {g : Gate} {on : Bool} {store store' : OverrideStore} {chain : Chain} {key : String}
  {s s' : GateState}

/-! ## Stores with the same values -/

/-- From the same values a strategy makes the same decision, but for the candidates. -/
theorem gist_decision (hstrategy : g.collaborators.strategy = .favouring on)
    (h : store.SameValues store') {d : Decision}
    (hd : g.decision .ofStore store chain key = .ok d) :
    ∃ d', g.decision .ofStore store' chain key = .ok d' ∧ d.gist = d'.gist := by
  rw [decision_ofStore hstrategy] at hd
  obtain rfl := Except.ok.inj hd
  refine ⟨_, decision_ofStore hstrategy .., gist_decideGroups fun group _ => ?_⟩
  -- Only what has a value can win a group, and that is the same in both stores.
  rw [groupMatches_getAll, groupMatches_getAll,
    ← groupWinner_filter_hasValue on group (store.getAll _ _),
    ← groupWinner_filter_hasValue on group (store'.getAll _ _),
    OverrideStore.filter_hasValue_getAll, OverrideStore.filter_hasValue_getAll]
  simp only [h key]

/-- From the same values the same key decides in the same way. -/
theorem gist_overrides? (hreader : g.collaborators.reader = some .ofStore)
    (hstrategy : g.collaborators.strategy = .favouring on) (h : store.SameValues store')
    (chain : Chain) (key : String) :
    ∃ o o', g.overrides? store key chain = some o ∧ g.overrides? store' key chain = some o' ∧
      o.gist = o'.gist := by
  obtain ⟨d, legacy, hd⟩ :=
    exists_firstDecision hstrategy store chain key (g.aliases.aliasesFor key)
  obtain ⟨d', hd', hgist⟩ := hd.transfer (R := fun d d' => d.gist = d'.gist)
    (fun _ _ => Decision.verdict_eq_of_gist) fun k d hk => gist_decision hstrategy h hk
  refine ⟨_, _, (overrides?_eq_some_iff hreader).2 ⟨d, legacy, hd, rfl⟩,
    (overrides?_eq_some_iff hreader).2 ⟨d', legacy, hd', rfl⟩, ?_⟩
  show ({ toDecision := d.gist, «alias» := legacy } : OverrideTrace) =
    { toDecision := d'.gist, «alias» := legacy }
  rw [hgist]

/-- The defaults do not look at what was found beside the decision. -/
theorem gist_resolveDefault (g : Gate) (t : Trace) (keep : Bool) :
    (g.resolveDefault t keep).value.1.gist = (g.resolveDefault t.gist keep).value.1.gist := by
  cases h : g.collaborators.defaults t.normalizedKey with
  | error cause =>
    rw [value_resolveDefault_of_error h, value_resolveDefault_of_error (t := t.gist) h]
    rfl
  | ok d =>
    rw [value_resolveDefault_of_ok h, value_resolveDefault_of_ok (t := t.gist) h]
    rfl

/-- From the same values the same answer follows, whether it is an override or a default. -/
theorem gist_resolveFresh (hreader : g.collaborators.reader = some .ofStore)
    (hstrategy : g.collaborators.strategy = .favouring on) (h : store.SameValues store')
    (t : Trace) :
    (g.resolveFresh store t).value.1.gist = (g.resolveFresh store' t).value.1.gist := by
  obtain ⟨o, o', ho, ho', hgist⟩ := gist_overrides? hreader hstrategy h t.chain t.normalizedKey
  have hverdict : o.verdict = o'.verdict := congrArg (fun o => o.verdict) hgist
  have htrace : Trace.gist { t with overrides := o } = Trace.gist { t with overrides := o' } :=
    congrArg (fun o => { t with overrides := o, cacheHit := false }) hgist
  rw [value_resolveFresh_of_overrides? ho, value_resolveFresh_of_overrides? ho', hverdict]
  cases o'.verdict with
  | none =>
    simp only
    rw [gist_resolveDefault, htrace, ← gist_resolveDefault]
  | some value =>
    show Resolution.mk (.ok value) (withVerdict (Trace.gist { t with overrides := o }) value) =
      ⟨.ok value, withVerdict (Trace.gist { t with overrides := o' }) value⟩
    rw [htrace]

/-- A coherent cache does not change the gist of an answer. -/
theorem gist_resolve_withoutCache (hs : g.Coherent s) (context : Context) (key : String)
    (provided : Option Chain) :
    (g.resolve s context key provided).value.1.gist =
      (g.resolve (withoutCache s) context key provided).value.1.gist := by
  rw [← Resolution.gist_unmarked, unmarked_resolve hs, Resolution.gist_unmarked]

/-! ## States with the same values -/

/-- Two states with the same values, and with caches that are coherent. -/
structure Equivalent (g : Gate) (s s' : GateState) : Prop where
  /-- The stores have the same values. -/
  values : s.store.SameValues s'.store
  /-- The cache of the one state is coherent. -/
  left : g.Coherent s
  /-- The cache of the other state is coherent. -/
  right : g.Coherent s'

/-- A change, told by values, whether it was accepted or refused. -/
theorem value?_update (hwriter : g.collaborators.writer = some .ofStore) (s : GateState)
    (key : String) (scope : Scope) (value : Option Bool) (actor : Actor) (k : String) (p : Scope) :
    (g.update s key scope value actor).value.2.store.value? k p =
      if g.Accepts key scope ∧ trim k ∈ (g.writtenKeys key).map trim ∧
          g.policy.normalizeScope scope = p then
        value
      else s.store.value? k p := by
  rw [OverrideStore.value?, OverrideStore.get, record?_update hwriter]
  split
  · exact OverrideState.value_ofWrite value
  · rfl

namespace Equivalent

/-- The same request keeps two states equivalent. -/
theorem step (h : g.Equivalent s s') (hwriter : g.collaborators.writer = some .ofStore)
    (q : Request) : g.Equivalent (g.step s q).2 (g.step s' q).2 := by
  refine ⟨?_, coherent_step_nothing h.left q, coherent_step_nothing h.right q⟩
  cases q with
  | resolve context key provided => exact h.values
  | update key scope value actor =>
    intro k p
    simp only [Gate.step, value?_update hwriter, h.values k p]

/-- Equivalent states give the same gist to every question. -/
theorem gist_resolve (h : g.Equivalent s s') (hreader : g.collaborators.reader = some .ofStore)
    (hstrategy : g.collaborators.strategy = .favouring on) (context : Context) (key : String)
    (provided : Option Chain) :
    (g.resolve s context key provided).value.1.gist =
      (g.resolve s' context key provided).value.1.gist := by
  rw [gist_resolve_withoutCache h.left, gist_resolve_withoutCache h.right]
  rcases resolve_cases g context key provided with ⟨r, hr⟩ | ⟨chain, -, hr⟩
  · rw [hr, hr]
  · rw [hr, hr, withoutCache, withoutCache, value_resolveIn_noop, value_resolveIn_noop]
    exact gist_resolveFresh hreader hstrategy h.values _

/-- The replies of equivalent states to one request agree, also when it is a change. -/
theorem gist_reply (h : g.Equivalent s s') (hreader : g.collaborators.reader = some .ofStore)
    (hwriter : g.collaborators.writer = some .ofStore)
    (hstrategy : g.collaborators.strategy = .favouring on) (q : Request) :
    (g.step s q).1.gist = (g.step s' q).1.gist := by
  cases q with
  | resolve context key provided =>
    exact congrArg Reply.resolved (h.gist_resolve hreader hstrategy context key provided)
  | update key scope value actor =>
    by_cases haccepts : g.Accepts key scope
    · simp only [Gate.step, value_update_of_accepts hwriter haccepts]
    · obtain ⟨e, he⟩ := value_update_of_not_accepts haccepts value actor
      simp only [Gate.step, he]

/-- Equivalent states are told apart by no run. -/
theorem map_gist_run (h : g.Equivalent s s') (hreader : g.collaborators.reader = some .ofStore)
    (hwriter : g.collaborators.writer = some .ofStore)
    (hstrategy : g.collaborators.strategy = .favouring on) (requests : List Request) :
    (g.run s requests).1.map Reply.gist = (g.run s' requests).1.map Reply.gist := by
  induction requests generalizing s s' with
  | nil => rfl
  | cons q rest ih =>
    simp only [run, List.map_cons]
    rw [h.gist_reply hreader hwriter hstrategy q, ih (h.step hwriter q)]

end Equivalent

/-! ## Cleared and never written -/

/-- The state without the records of a key and its legacy keys at a scope, and without the kept
answers. -/
def forget (g : Gate) (s : GateState) (key : String) (scope : Scope) : GateState :=
  ⟨s.store.deleteUnder (g.policy.normalizeScope scope) (g.writtenKeys key), s.cache.clear⟩

/-- Clearing an override leads to the state in which the override is forgotten, also when the
values of the override differed before. -/
theorem equivalent_forget (hwriter : g.collaborators.writer = some .ofStore) {scope : Scope}
    (haccepts : g.Accepts key scope)
    (h : ∀ k p, ¬ (trim k ∈ (g.writtenKeys key).map trim ∧ g.policy.normalizeScope scope = p) →
      s.store.value? k p = s'.store.value? k p) (actor : Actor) :
    g.Equivalent (g.unset s key scope actor).value.2 (g.forget s' key scope) := by
  refine ⟨fun k p => ?_, coherent_of_entries_eq_nil ?_, coherent_of_entries_eq_nil ?_⟩
  · rw [unset, value?_update hwriter, forget, OverrideStore.value?_deleteUnder]
    simp only [haccepts, true_and]
    split
    · rfl
    · next hother => exact h k p hother
  · rw [unset, value_update_of_accepts hwriter haccepts, ResolveCache.entries_clear]
  · rw [forget, ResolveCache.entries_clear]

/-- After an override was cleared, and also after it was written and then cleared, a gate answers
as if all records of the override had been deleted.  The store knows the difference. -/
theorem cleared_like_never_written (g : Gate) (on : Bool)
    (hreader : g.collaborators.reader = some .ofStore)
    (hwriter : g.collaborators.writer = some .ofStore)
    (hstrategy : g.collaborators.strategy = .favouring on) (s : GateState) (key : String)
    (scope : Scope) (v : Bool) (actor actor' actor'' : Actor)
    (haccepted : (g.unset s key scope actor).value.1 = .ok ()) (later : List Request) :
    let cleared := (g.unset s key scope actor).value
    let written := (g.set s key scope v actor').value
    let recleared := (g.unset written.2 key scope actor'').value
    let forgotten := g.forget s key scope
    (written.1 = .ok () ∧ recleared.1 = .ok ()) ∧
      ((g.run cleared.2 later).1.map Reply.gist = (g.run forgotten later).1.map Reply.gist ∧
        (g.run recleared.2 later).1.map Reply.gist =
          (g.run forgotten later).1.map Reply.gist) ∧
      ∀ k ∈ g.writtenKeys key,
        cleared.2.store.get k (g.policy.normalizeScope scope) = .unset ∧
          recleared.2.store.get k (g.policy.normalizeScope scope) = .unset ∧
          forgotten.store.get k (g.policy.normalizeScope scope) = .missing := by
  intro cleared written recleared forgotten
  have haccepts := accepts_of_update_eq_ok haccepted
  have hcleared : g.Equivalent cleared.2 forgotten :=
    equivalent_forget hwriter haccepts (fun _ _ _ => rfl) actor
  have hrecleared : g.Equivalent recleared.2 forgotten := by
    refine equivalent_forget hwriter haccepts (fun k p hother => ?_) actor''
    show (g.update s key scope (some v) actor').value.2.store.value? k p = s.store.value? k p
    rw [value?_update hwriter, if_neg fun hc => hother hc.2]
  refine ⟨⟨?_, ?_⟩, ⟨?_, ?_⟩, fun k hk => ⟨?_, ?_, ?_⟩⟩
  · exact congrArg Prod.fst (value_update_of_accepts hwriter haccepts s (some v) actor')
  · exact congrArg Prod.fst (value_update_of_accepts hwriter haccepts written.2 none actor'')
  · exact hcleared.map_gist_run hreader hwriter hstrategy later
  · exact hrecleared.map_gist_run hreader hwriter hstrategy later
  · exact get_update_of_accepts hwriter haccepts s none actor hk
  · exact get_update_of_accepts hwriter haccepts written.2 none actor'' hk
  · show (s.store.deleteUnder _ _).get k _ = .missing
    rw [OverrideStore.get, OverrideStore.record?_deleteUnder,
      if_pos ⟨List.mem_map_of_mem hk, rfl⟩]
    rfl

/-- The feature is on, and off at a tenant, of which a user asks for it. -/
def offAtOneTenant : List Request :=
  [.update "old" .system (some true) ⟨"ann", "user", "Ann"⟩,
    .update "new" (.tenant "t") (some false) ⟨"ann", "user", "Ann"⟩,
    .resolve (.ofClaims { tenantId := "t" }) "old" none]

theorem cleared_like_never_written_offAtOneTenant :
    let s := (Gate.renaming.run .initial offAtOneTenant).2
    let later := [Request.resolve (.ofClaims { tenantId := "t" }) "old" none]
    let cleared := (Gate.renaming.unset s " old" (.tenant " t ") ⟨"bob", "user", "Bob"⟩).value
    let forgotten := Gate.renaming.forget s " old" (.tenant " t ")
    cleared.1 = .ok () ∧
      (Gate.renaming.run cleared.2 later).1.map Reply.gist =
        (Gate.renaming.run forgotten later).1.map Reply.gist ∧
      cleared.2.store.get "new" (.tenant "t") = .unset ∧
      forgotten.store.get "new" (.tenant "t") = .missing ∧
      (Gate.renaming.resolve s (.ofClaims { tenantId := "t" }) "new" none).value.1.result =
        .ok false ∧
      (Gate.renaming.resolve cleared.2 (.ofClaims { tenantId := "t" }) "new" none).value.1.result =
        .ok true := by
  dsimp only
  have haccepted : (Gate.renaming.unset (Gate.renaming.run .initial offAtOneTenant).2 " old"
      (.tenant " t ") ⟨"bob", "user", "Bob"⟩).value.1 = .ok () := by decide +kernel
  have hscope : Gate.renaming.policy.normalizeScope (.tenant " t ") = .tenant "t" := by
    decide +kernel
  have hwritten : "new" ∈ Gate.renaming.writtenKeys " old" := by decide +kernel
  obtain ⟨-, ⟨hreplies, -⟩, hstates⟩ := cleared_like_never_written .renaming false rfl rfl rfl
    (Gate.renaming.run .initial offAtOneTenant).2 " old" (.tenant " t ") true
    ⟨"bob", "user", "Bob"⟩ ⟨"ann", "user", "Ann"⟩ ⟨"ann", "user", "Ann"⟩ haccepted
    [.resolve (.ofClaims { tenantId := "t" }) "old" none]
  obtain ⟨hunset, -, hmissing⟩ := hstates "new" hwritten
  rw [hscope] at hunset hmissing
  exact ⟨haccepted, hreplies, hunset, hmissing, by decide +kernel, by decide +kernel⟩

end Gate

end FeatureFlags
