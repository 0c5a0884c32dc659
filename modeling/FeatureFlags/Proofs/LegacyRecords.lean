import FeatureFlags.Proofs.CacheCoherence
import FeatureFlags.Proofs.GroupWalk
import FeatureFlags.Proofs.Writes

/-!
# The records of legacy keys

A change is written under the canonical key and under all its legacy keys.  So the legacy keys of
a feature have the records of the feature, whichever of its keys the changes were asked for.

This needs that the feature was renamed once (`AliasTable.RenamedOnce`): its key was not renamed
again, and its legacy keys have no legacy keys themselves.  Then a change writes either all keys
of the feature or none of them (`mem_writtenKeys_iff`), and records that agree keep agreeing.

Keys with the same records lead to the same decisions, unless the strategy looks at the key.  So
there is nothing to be found under a legacy key that was not found under the canonical key before.
This is about overrides that are looked up: an answer that another gate left in a common cache may
rest on a legacy key of that gate (`legacy_keys_noticed`).
-/

namespace FeatureFlags

open Text (trim)

/-! ## Features that were renamed once -/

namespace AliasTable

variable {t : AliasTable} {a c : String}

/-- Every renaming that ends at the key begins at a legacy key of it. -/
structure RenamedOnce (t : AliasTable) (c : String) : Prop where
  /-- The key is not a legacy key. -/
  canonical : t.isAlias c = false
  /-- Its legacy keys have no legacy keys themselves. -/
  leaves : ∀ a ∈ t.aliasesFor c, t.aliasesFor a = []

namespace Consistent

/-- A legacy key without legacy keys is nobody's canonical key. -/
theorem normalize_ne_of_mem_aliasesFor (h : t.Consistent) (ha : a ∈ t.aliasesFor c)
    (hleaf : t.aliasesFor a = []) (key : String) : t.normalize key ≠ a := by
  intro heq
  have hfind := h.mem_aliasesFor_iff.1 ha
  rw [normalize] at heq
  cases hkey : t.canonicalOf.find? (trim key) with
  | none =>
    rw [hkey, Option.getD_none] at heq
    rw [heq, hfind] at hkey
    cases hkey
  | some c' =>
    rw [hkey, Option.getD_some] at heq
    subst heq
    have hmem : trim key ∈ t.aliasesFor c' := by
      rw [h.mem_aliasesFor_iff, hkey, h.trim_of_mem_aliasesFor ha]
    rw [hleaf] at hmem
    cases hmem

end Consistent

end AliasTable

/-! ## The keys that a change writes -/

namespace Gate

variable {g : Gate} {s : GateState} {store : OverrideStore} {chain : Chain} {key a c : String}

theorem map_trim_writtenKeys (g : Gate) (key : String) :
    (g.writtenKeys key).map trim = g.writtenKeys key := by
  have hlegacy : ∀ a ∈ g.aliases.aliasesFor (g.aliases.normalize key), trim a = a :=
    fun a ha => g.consistent_aliases.trim_of_mem_aliasesFor ha
  rw [writtenKeys, List.map_cons, g.consistent_aliases.trim_normalize, List.map_congr_left hlegacy,
    List.map_id']

/-- A change that writes one key of a feature writes its legacy keys too, and the other way
round. -/
theorem mem_writtenKeys_iff (hc : g.aliases.RenamedOnce c) (ha : a ∈ g.aliases.aliasesFor c)
    (key : String) : a ∈ g.writtenKeys key ↔ trim c ∈ g.writtenKeys key := by
  have haliases := g.consistent_aliases
  have hfind := haliases.mem_aliasesFor_iff.1 ha
  simp only [writtenKeys, List.mem_cons, haliases.mem_aliasesFor_iff, haliases.trim_normalize,
    AliasTable.find?_trim_eq_none_of_not_isAlias hc.canonical, hfind]
  constructor
  · rintro (heq | heq)
    · exact absurd heq.symm (haliases.normalize_ne_of_mem_aliasesFor ha (hc.leaves a ha) key)
    · exact .inl (Option.some.inj heq)
  · rintro (heq | heq)
    · exact .inr (congrArg some heq)
    · cases heq

/-! ## Records that agree -/

/-- Two keys have the same records. -/
def SameRecords (store : OverrideStore) (k k' : String) : Prop :=
  ∀ p, store.record? k p = store.record? k' p

/-- No change makes the records of a feature and its legacy key differ. -/
theorem sameRecords_update (hwriter : g.collaborators.writer = some .ofStore)
    (hc : g.aliases.RenamedOnce c) (ha : a ∈ g.aliases.aliasesFor c)
    (h : SameRecords s.store a c) (key : String) (scope : Scope) (value : Option Bool)
    (actor : Actor) :
    SameRecords (g.update s key scope value actor).value.2.store a c := by
  intro p
  simp only [record?_update hwriter, map_trim_writtenKeys,
    g.consistent_aliases.trim_of_mem_aliasesFor ha, mem_writtenKeys_iff hc ha, h p]

/-- Records that agree keep agreeing through every run, by induction on its requests. -/
theorem sameRecords_run (hwriter : g.collaborators.writer = some .ofStore)
    (hc : g.aliases.RenamedOnce c) (ha : a ∈ g.aliases.aliasesFor c)
    (h : SameRecords s.store a c) (requests : List Request) :
    SameRecords (g.run s requests).2.store a c := by
  induction requests generalizing s with
  | nil => exact h
  | cons q rest ih =>
    refine ih ?_
    cases q with
    | resolve context key provided => exact h
    | update key scope value actor => exact sameRecords_update hwriter hc ha h key scope value actor

end Gate

/-! ## Decisions that agree -/

/-- What the strategy leaves undecided for one key, it leaves undecided for another one too. -/
def Strategy.AlsoUndecided (strategy : Strategy) (key a : String) : Prop :=
  ∀ chain found order, Gate.Undecided (strategy.decide key chain found order) →
    Gate.Undecided (strategy.decide a chain found order)

/-- Strategies that go by groups do not look at the key. -/
theorem Strategy.alsoUndecided_byGroups (name : String) (rule : RolePermRule) (key a : String) :
    (byGroups name rule).AlsoUndecided key a := fun _ _ _ h => h

namespace Gate

variable {g : Gate} {s : GateState} {store : OverrideStore} {chain : Chain} {key a c : String}
  {reader : OverrideReader}

/-- From the same records, what is undecided for the key is undecided for its legacy key. -/
theorem undecided_of_sameRecords (hstrategy : g.collaborators.strategy.AlsoUndecided key a)
    (h : SameRecords store a key) (hkey : Undecided (g.decision .ofStore store chain key)) :
    Undecided (g.decision .ofStore store chain a) := by
  have hfound : store.getAll a chain = store.getAll key chain := by
    simp only [OverrideStore.getAll, h _]
  simp only [decision, OverrideReader.ofStore, hfound] at hkey ⊢
  exact hstrategy chain _ _ hkey

/-- Legacy keys that are undecided whenever the canonical key is change nothing. -/
theorem value_decideOverrides_of_undecided
    (h : Undecided (g.decision reader store chain key) →
      ∀ a ∈ g.aliases.aliasesFor key, Undecided (g.decision reader store chain a)) :
    (g.decideOverrides reader store chain key).value =
      (g.decision reader store chain key).map (·, none) := by
  rw [value_decideOverrides]
  cases hkey : g.decision reader store chain key with
  | error e => rfl
  | ok d =>
    cases hv : d.verdict with
    | some v => simp only [hv, Option.isSome_some, if_true, Except.map]
    | none =>
      have hnone : (g.decideAliases reader store chain key (g.aliases.aliasesFor key)).value =
          .ok none :=
        decideAliases_eq_none_iff.2 (h ⟨d, hkey, hv⟩)
      simp only [hv, hnone, Option.isSome_none, Bool.false_eq_true, if_false, Except.map]

/-! ## Without legacy keys -/

/-- The gate that knows no legacy keys. -/
def withoutLegacyKeys (g : Gate) : Gate :=
  { g with config := { g.config with aliases := ∅ }, accepted := g.accepted }

theorem value_decideOverrides_withoutLegacyKeys (g : Gate) (reader : OverrideReader)
    (store : OverrideStore) (chain : Chain) (key : String) :
    (g.withoutLegacyKeys.decideOverrides reader store chain key).value =
      (g.decision reader store chain key).map (·, none) :=
  value_decideOverrides_of_undecided fun _ a ha => nomatch (show a ∈ [] from ha)

section Undecided

variable {t : Trace} (hreader : g.collaborators.reader = some reader)
  (h : Undecided (g.decision reader store t.chain t.normalizedKey) →
    ∀ a ∈ g.aliases.aliasesFor t.normalizedKey, Undecided (g.decision reader store t.chain a))

include hreader h

/-- Where legacy keys change nothing, the overrides say the same without them. -/
theorem value_askOverrides_withoutLegacyKeys :
    (g.askOverrides store t).value = (g.withoutLegacyKeys.askOverrides store t).value := by
  have hreader' : g.withoutLegacyKeys.collaborators.reader = some reader := hreader
  simp only [askOverrides, hreader, hreader', Observed.value_bind,
    value_decideOverrides_of_undecided h, value_decideOverrides_withoutLegacyKeys]
  cases g.decision reader store t.chain t.normalizedKey <;> rfl

theorem alias_askOverrides_eq_none : (g.askOverrides store t).value.alias = none := by
  simp only [askOverrides, hreader, Observed.value_bind, value_decideOverrides_of_undecided h]
  cases g.decision reader store t.chain t.normalizedKey <;> rfl

/-- Where legacy keys change nothing, a gate that knows none resolves the same. -/
theorem value_resolveFresh_withoutLegacyKeys :
    (g.resolveFresh store t).value = (g.withoutLegacyKeys.resolveFresh store t).value := by
  simp only [resolveFresh, Observed.value_bind, value_askOverrides_withoutLegacyKeys hreader h]
  generalize (g.withoutLegacyKeys.askOverrides store t).value = o
  cases o.error with
  | some e =>
    show Observed.value (if g.config.strictStore then _ else _) =
      Observed.value (if g.config.strictStore then _ else _)
    split <;> rfl
  | none => cases o.verdict <;> rfl

end Undecided

/-! ## The main theorem -/

theorem alias_resolve_of_sameRecords (hs : g.Coherent s)
    (hreader : g.collaborators.reader = some .ofStore) {asked : String}
    (h : ∀ a ∈ g.aliases.aliasesFor (g.aliases.normalize asked),
      g.collaborators.strategy.AlsoUndecided (g.aliases.normalize asked) a ∧
        SameRecords s.store a (g.aliases.normalize asked)) (context : Context)
    (provided : Option Chain) :
    let r := (g.resolve s context asked provided).value.1
    r.trace.overrides.alias = none ∧
      ∀ chain, trim asked ≠ "" → (g.chainFor context provided).value = .ok chain →
        r.unmarked = (g.withoutLegacyKeys.resolveIn (withoutCache s)
          { g.begin asked with chain }).value.1.unmarked := by
  intro r
  have hr : r.unmarked = _ := unmarked_resolve hs context asked provided
  have halias : r.trace.overrides.alias = r.unmarked.trace.overrides.alias := rfl
  by_cases hempty : g.aliases.normalize asked = ""
  · rw [value_resolve_of_empty hempty] at hr
    refine ⟨by rw [halias, hr]; rfl, fun chain hasked => ?_⟩
    exact absurd ((g.consistent_aliases.normalize_eq_empty_iff asked).1 hempty) hasked
  · cases hchain : (g.chainFor context provided).value with
    | error e =>
      rw [value_resolve_of_chain_error hempty hchain] at hr
      exact ⟨by rw [halias, hr]; rfl, fun chain _ heq => nomatch heq⟩
    | ok chain =>
      let t : Trace := { g.begin asked with chain }
      have hundecided : Undecided (g.decision .ofStore s.store chain t.normalizedKey) →
          ∀ a ∈ g.aliases.aliasesFor t.normalizedKey,
            Undecided (g.decision .ofStore s.store chain a) :=
        fun hkey a ha => undecided_of_sameRecords (h a ha).1 (h a ha).2 hkey
      have hnone : (g.askOverrides s.store t).value.alias = none :=
        alias_askOverrides_eq_none hreader hundecided
      rw [value_resolve_of_chain hempty hchain, withoutCache, value_resolveIn_noop] at hr
      refine ⟨?_, fun chain' _ heq => ?_⟩
      · rw [← overrides_resolveFresh] at hnone
        rw [halias, hr]
        exact hnone
      · obtain rfl := Except.ok.inj heq
        rw [hr, withoutCache, value_resolveIn_noop,
          value_resolveFresh_withoutLegacyKeys (t := t) hreader hundecided]

/-- After any run that began without overrides, the legacy keys of a feature that was renamed once
have the records of the feature.  Let the strategy leave undecided for the legacy keys what it
leaves undecided for the feature, and let no answer be kept before the run.  Then no resolution of
the feature finds an override under a legacy key, and a gate without legacy keys resolves it the
same. -/
theorem legacy_records_in_sync (g : Gate) (hwriter : g.collaborators.writer = some .ofStore)
    (start : GateState) (hstore : start.store = .empty) (requests : List Request) (c : String)
    (hc : g.aliases.RenamedOnce c) :
    let s := (g.run start requests).2
    (∀ a ∈ g.aliases.aliasesFor c, ∀ p, s.store.record? a p = s.store.record? c p) ∧
    (g.collaborators.reader = some .ofStore → start.cache.entries = [] →
      (∀ a ∈ g.aliases.aliasesFor c, g.collaborators.strategy.AlsoUndecided (trim c) a) →
      ∀ context asked provided, g.aliases.normalize asked = trim c →
        let r := (g.resolve s context asked provided).value.1
        r.trace.overrides.alias = none ∧
          ∀ chain, trim asked ≠ "" → (g.chainFor context provided).value = .ok chain →
            r.unmarked = (g.withoutLegacyKeys.resolveIn (withoutCache s)
              { g.begin asked with chain }).value.1.unmarked) := by
  intro s
  have hsame : ∀ a ∈ g.aliases.aliasesFor c, SameRecords s.store a c := by
    intro a ha
    refine sameRecords_run hwriter hc ha (fun p => ?_) requests
    rw [hstore, OverrideStore.record?_empty, OverrideStore.record?_empty]
  refine ⟨hsame, fun hreader hcache hstrategy context asked provided hasked => ?_⟩
  have hs : g.Coherent s := coherent_run (coherent_of_entries_eq_nil hcache) requests
  refine alias_resolve_of_sameRecords hs hreader (fun a ha => ?_) context provided
  rw [hasked] at ha ⊢
  have ha' : a ∈ g.aliases.aliasesFor c := by
    rwa [AliasTable.aliasesFor, Text.trim_trim] at ha
  refine ⟨hstrategy a ha', fun p => ?_⟩
  have hrecord : s.store.record? (trim c) p = s.store.record? c p := by
    rw [OverrideStore.record?, OverrideStore.scopes, Text.trim_trim]
    rfl
  rw [hsame a ha' p, hrecord]

/-- The feature is turned on under its legacy key, and off for a tenant under its own, and the
latter is asked about. -/
def underBothKeys : List Request :=
  [.update " old" .system (some true) ⟨"ann", "user", "Ann"⟩,
    .update "new" (.tenant " t") (some false) ⟨"bob", "user", "Bob"⟩,
    .resolve (.ofClaims { tenantId := "t" }) "old" none]

theorem legacy_records_in_sync_underBothKeys :
    let s := (Gate.renaming.run .initial underBothKeys).2
    let context := Context.ofClaims { tenantId := "t" }
    let r := (Gate.renaming.resolve s context "old" none).value.1
    s.store.record? "old" (.tenant "t") = s.store.record? " new " (.tenant "t") ∧
      s.store.record? "old" (.tenant "t") = some ⟨.disabled, ⟨"bob", "user", "Bob"⟩⟩ ∧
      r.trace.overrides.alias = none ∧
      r.unmarked = (Gate.renaming.withoutLegacyKeys.resolveIn (withoutCache s)
        { Gate.renaming.begin "old" with chain := [.tenant "t", .system] }).value.1.unmarked := by
  have hc : Gate.renaming.aliases.RenamedOnce " new " :=
    { canonical := by decide +kernel
      leaves := by decide +kernel }
  have hasked : Gate.renaming.aliases.normalize "old" = trim " new " := by decide +kernel
  have hlegacy : "old" ∈ Gate.renaming.aliases.aliasesFor " new " := by decide +kernel
  have hchain : (Gate.renaming.chainFor (.ofClaims { tenantId := "t" }) none).value =
      .ok [.tenant "t", .system] := by decide +kernel
  obtain ⟨hrecords, hresolve⟩ :=
    legacy_records_in_sync .renaming rfl .initial rfl underBothKeys " new " hc
  have hsame := hresolve rfl rfl (fun a _ => Strategy.alsoUndecided_byGroups _ _ _ a)
    (.ofClaims { tenantId := "t" }) "old" none hasked
  exact ⟨hrecords "old" hlegacy _, by decide +kernel, hsame.1, hsame.2 _ (by decide) hchain⟩

/-! ## Where a legacy key is noticed -/

/-- The strategy that leaves the key "new" undecided and is restrictive about all others. -/
def undecidedForNew : Strategy where
  name := "undecided_for_new"
  decide key chain found order :=
    if key = "new" then .ok .undecided else Strategy.restrictive.decide key chain found order

/-- The gate for which a feature was renamed, with that strategy. -/
def renamingByKey : Gate :=
  { Gate.renaming with
    collaborators := { Gate.renaming.collaborators with strategy := undecidedForNew } }

/-- A gate that knows the feature under another legacy key. -/
def renamingOther : Gate :=
  { Gate.renaming with config := { aliases := .ofList [("other", "new")] }, accepted := rfl }

/-- The state in which the override of that key is in the store, written by the one gate, and its
value is kept, found by the other gate. -/
def sharedWithOther : GateState :=
  let s := (Gate.renaming.run .initial [.update "other" .system (some true)
    ⟨"ann", "user", "Ann"⟩]).2
  ⟨s.store, (renamingOther.resolve s {} "new" none).value.2⟩

/-- A legacy key decides in spite of equal records when the strategy leaves the key of the feature
undecided.  A legacy key of another gate is reported when that gate shares the cache. -/
theorem legacy_keys_noticed :
    (let s := (renamingByKey.run .initial [.update "new" .system (some true)
       ⟨"ann", "user", "Ann"⟩]).2
     let r := (renamingByKey.resolve s {} "new" none).value.1
     renamingByKey.aliases.RenamedOnce "new" ∧
       s.store.record? "old" .system = s.store.record? "new" .system ∧
       (r.trace.overrides.alias, r.result) = (some "old", .ok true) ∧
       (renamingByKey.withoutLegacyKeys.resolve s {} "new" none).value.1.result = .ok false) ∧
    (let s := sharedWithOther
     let r := (Gate.renaming.resolve s {} "new" none).value.1
     Gate.renaming.aliases.RenamedOnce "new" ∧
       s.store.record? "old" .system = s.store.record? "new" .system ∧
       (r.trace.overrides.alias, r.result) = (some "other", .ok true) ∧
       (Gate.renaming.resolve (withoutCache s) {} "new" none).value.1.result = .ok false) := by
  refine ⟨⟨⟨?_, ?_⟩, ?_⟩, ⟨⟨?_, ?_⟩, ?_⟩⟩
  all_goals decide +kernel

end Gate

end FeatureFlags
