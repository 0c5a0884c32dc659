import FeatureFlags.Proofs.Answer
import FeatureFlags.Proofs.GroupWalk
import FeatureFlags.Proofs.LegacyKeys

/-!
# Which layer answers

A gate with one of the two strategies answers from four layers: the overrides of the canonical
key, those of its legacy keys in ascending order, the default, and off.  The overrides of a key
count when one of them has a value at a scope of the chain whose group is asked.  The first key
whose overrides count decides alone, and without one the default answers.
-/

namespace FeatureFlags

variable {g : Gate} {on : Bool} {store : OverrideStore} {chain : Chain} {key k : String}

namespace Gate

/-! ## Overrides that count -/

/-- A key has a value at a scope of the chain whose group is asked. -/
def Counts (g : Gate) (store : OverrideStore) (chain : Chain) (key : String) : Prop :=
  ∃ s ∈ chain, ScopeGroup.ofKind s.kind ∈ groupOrder g.policy.order ∧
    (store.get key s).hasValue = true

instance : Decidable (g.Counts store chain key) :=
  inferInstanceAs (Decidable (∃ s ∈ chain, _))

/-- The decision about a key, over the store, is the walk over the groups. -/
theorem decision_ofStore (hstrategy : g.collaborators.strategy = .favouring on)
    (store : OverrideStore) (chain : Chain) (key : String) :
    g.decision .ofStore store chain key =
      .ok (decideGroups (preferring (.ofBool on) (.ofBool !on)) chain (store.getAll key chain)
        (groupOrder g.policy.order)) := by
  rw [decision, hstrategy]
  exact Strategy.decide_favouring ..

/-- A key whose overrides do not count is undecided. -/
theorem decision_of_not_counts (hstrategy : g.collaborators.strategy = .favouring on)
    (h : ¬ g.Counts store chain key) : g.decision .ofStore store chain key = .ok .undecided := by
  rw [decision_ofStore hstrategy, decideGroups_getAll_of_forall (preferring_decisive on)]
  intro s hs hgroup hvalue
  exact h ⟨s, hs, hgroup, hvalue⟩

/-- A key whose overrides count is decided by one of its records. -/
theorem decision_of_counts (hstrategy : g.collaborators.strategy = .favouring on)
    (h : g.Counts store chain key) :
    ∃ d, g.decision .ofStore store chain key = .ok d ∧
      d.RestsOn store key chain (groupOrder g.policy.order) := by
  obtain ⟨s, hs, hgroup, hvalue⟩ := h
  exact ⟨_, decision_ofStore hstrategy store chain key,
    decideGroups_getAll_of_exists (preferring_decisive on) hs hgroup hvalue⟩

theorem undecided_of_not_counts (hstrategy : g.collaborators.strategy = .favouring on)
    (h : ¬ g.Counts store chain key) : Undecided (g.decision .ofStore store chain key) :=
  ⟨.undecided, decision_of_not_counts hstrategy h, rfl⟩

/-! ## The first key that counts -/

/-- The legacy key that is noted when a key decides. -/
def noted (canonical k : String) : Option String := if k = canonical then none else some k

/-- The first key that counts decides alone. -/
theorem firstDecision_of_find?_eq_some (hstrategy : g.collaborators.strategy = .favouring on)
    {aliases : List String} (h : (key :: aliases).find? (g.Counts store chain ·) = some k) :
    ∃ d, g.decision .ofStore store chain k = .ok d ∧
      d.RestsOn store k chain (groupOrder g.policy.order) ∧
      FirstDecision (g.decision .ofStore store chain) key aliases d (noted key k) := by
  have hcounts : g.Counts store chain k := by simpa using List.find?_some h
  obtain ⟨d, hd, hrests⟩ := decision_of_counts hstrategy hcounts
  have hverdict : d.verdict ≠ none := by
    rw [hrests.verdict]
    exact Option.some_ne_none _
  refine ⟨d, hd, hrests, ?_⟩
  by_cases hkey : g.Counts store chain key
  · rw [List.find?_cons_of_pos (by simpa using hkey)] at h
    obtain rfl := Option.some.inj h
    rw [noted, if_pos rfl]
    exact .canonical hd hverdict
  · rw [List.find?_cons_of_neg (by simpa using hkey)] at h
    obtain ⟨-, before, after, rfl, hbefore⟩ := List.find?_eq_some_iff_append.1 h
    have hne : k ≠ key := by
      rintro rfl
      exact hkey hcounts
    rw [noted, if_neg hne]
    refine .legacy (undecided_of_not_counts hstrategy hkey) rfl (fun a ha => ?_) hd hverdict
    exact undecided_of_not_counts hstrategy (by simpa using hbefore a ha)

/-- If no key counts, the walk over the keys decides nothing. -/
theorem firstDecision_of_find?_eq_none (hstrategy : g.collaborators.strategy = .favouring on)
    {aliases : List String} (h : (key :: aliases).find? (g.Counts store chain ·) = none) :
    FirstDecision (g.decision .ofStore store chain) key aliases .undecided none := by
  have hnone : ∀ a ∈ key :: aliases, ¬ g.Counts store chain a := by simpa using h
  obtain ⟨hkey, haliases⟩ := List.forall_mem_cons.1 hnone
  exact .nowhere (decision_of_not_counts hstrategy hkey) rfl fun a ha =>
    undecided_of_not_counts hstrategy (haliases a ha)

/-- Over the store the walk over the keys always comes to an end without an error. -/
theorem exists_firstDecision (hstrategy : g.collaborators.strategy = .favouring on)
    (store : OverrideStore) (chain : Chain) (key : String) (aliases : List String) :
    ∃ d legacy, FirstDecision (g.decision .ofStore store chain) key aliases d legacy := by
  cases hfind : (key :: aliases).find? (g.Counts store chain ·) with
  | none => exact ⟨_, _, firstDecision_of_find?_eq_none hstrategy hfind⟩
  | some k =>
    obtain ⟨d, -, -, hfirst⟩ := firstDecision_of_find?_eq_some hstrategy hfind
    exact ⟨d, _, hfirst⟩

/-! ## The answer -/

/-- If no key counts, the overrides decide nothing. -/
theorem overrides?_of_not_counts (hreader : g.collaborators.reader = some .ofStore)
    (hstrategy : g.collaborators.strategy = .favouring on)
    (h : ∀ k ∈ key :: g.aliases.aliasesFor key, ¬ g.Counts store chain k) :
    g.overrides? store key chain = some {} := by
  have hfind : (key :: g.aliases.aliasesFor key).find? (g.Counts store chain ·) = none :=
    List.find?_eq_none.2 fun k hk => by simpa using h k hk
  have hfirst := firstDecision_of_find?_eq_none hstrategy hfind
  exact (overrides?_eq_some_iff hreader).2 ⟨_, _, hfirst, rfl⟩

theorem not_counts_empty : ¬ g.Counts .empty chain key := by
  rintro ⟨s, -, -, hvalue⟩
  cases hvalue

/-- The overrides of a key decide a resolution, and nothing else does. -/
structure DecidedBy (g : Gate) (store : OverrideStore) (k : String) (r : Resolution) : Prop where
  /-- The answer is that of an override. -/
  source : r.trace.source = .override
  /-- The defaults were not asked. -/
  unasked : r.trace.defaults.checked = false
  /-- The decision is what the strategy makes of the overrides of this key alone. -/
  decision : g.decision .ofStore store r.trace.chain k = .ok r.trace.overrides.toDecision
  /-- The decision rests on a record of this key at a scope of the chain. -/
  rests : r.trace.overrides.RestsOn store k r.trace.chain (groupOrder g.policy.order)
  /-- The answer says whether the feature is on there. -/
  value : r.trace.value = decide (r.trace.overrides.state = .enabled)
  /-- The overrides decide this answer. -/
  verdict : r.trace.overrides.verdict = some r.trace.value
  /-- The result is the answer. -/
  result : r.result = .ok r.trace.value

/-- The default answers, or the feature is off without one. -/
structure LeftToDefault (default : DefaultResult) (r : Resolution) : Prop where
  /-- The answer is that of the default if there is one. -/
  source : r.trace.source = if default.isSet then .default else .fallback
  /-- The defaults were asked. -/
  asked : r.trace.defaults.checked = true
  /-- What they said. -/
  answer : r.trace.defaults.toDefaultResult = default
  /-- No override decided. -/
  undecided : r.trace.overrides.toDecision = .undecided
  /-- No legacy key is noted. -/
  unnoted : r.trace.overrides.alias = none
  /-- The answer is the default, or off. -/
  value : r.trace.value = if default.isSet then default.value else false
  /-- The result is the answer. -/
  result : r.result = .ok r.trace.value

/-- The first key with an override that counts decides a resolution alone, and without one the
default answers.  The keys are the canonical key and then its legacy keys in ascending order. -/
theorem first_counting_key_decides (g : Gate) (on : Bool)
    (hreader : g.collaborators.reader = some .ofStore)
    (hstrategy : g.collaborators.strategy = .favouring on) (store : OverrideStore)
    (context : Context) (key : String) (provided : Option Chain) (chain : Chain)
    (default : DefaultResult) (hkey : Text.trim key ≠ "")
    (hchain : (g.chainFor context provided).value = .ok chain)
    (hdefault : g.collaborators.defaults (g.aliases.normalize key) = .ok default) :
    let canonical := g.aliases.normalize key
    let aliases := g.aliases.aliasesFor canonical
    let r := (g.resolve ⟨store, .noop⟩ context key provided).value.1
    Ascending aliases ∧ r.trace.normalizedKey = canonical ∧ r.trace.chain = chain ∧
      match (canonical :: aliases).find? (g.Counts store chain ·) with
      | some k => r.trace.overrides.alias = (if k = canonical then none else some k) ∧
          g.DecidedBy store k r
      | none => LeftToDefault default r := by
  intro canonical aliases
  have hcanonical : canonical ≠ "" := fun h =>
    hkey ((g.consistent_aliases.normalize_eq_empty_iff key).1 h)
  cases hfind : (canonical :: aliases).find? (g.Counts store chain ·) with
  | some k =>
    obtain ⟨d, hd, hrests, hfirst⟩ := firstDecision_of_find?_eq_some hstrategy hfind
    have ha : g.answer? store canonical chain =
        some (.ofVerdict { toDecision := d, «alias» := noted canonical k }
          (decide (d.state = .enabled))) := by
      rw [answer?, (overrides?_eq_some_iff hreader).2 ⟨d, _, hfirst, rfl⟩, Option.bind_some,
        hrests.verdict]
    rw [value_resolve_noop_of_answer? hcanonical hchain ha]
    exact ⟨g.consistent_aliases.ascending_aliasesFor _, rfl, rfl, rfl,
      ⟨rfl, rfl, hd, hrests, rfl, hrests.verdict, rfl⟩⟩
  | none =>
    have hfirst := firstDecision_of_find?_eq_none hstrategy hfind
    have ha : g.answer? store canonical chain = some (.ofDefault {} default) := by
      rw [answer?, (overrides?_eq_some_iff hreader).2 ⟨_, _, hfirst, rfl⟩]
      show (g.collaborators.defaults canonical).toOption.map (Answer.ofDefault {}) = _
      rw [hdefault]
      rfl
    rw [value_resolve_noop_of_answer? hcanonical hchain ha]
    refine ⟨g.consistent_aliases.ascending_aliasesFor _, rfl, rfl, ?_⟩
    exact ⟨rfl, rfl, rfl, rfl, rfl, default.given_eq, rfl⟩

/-- A store in which a feature is on at a tenant under its legacy key, while the override under
its canonical key was cleared. -/
def clearedStore : OverrideStore :=
  (OverrideStore.empty.put "new" .system ⟨.unset, ⟨"ann", "user", "Ann"⟩⟩).put "old" (.tenant "t")
    ⟨.enabled, ⟨"ann", "user", "Ann"⟩⟩

theorem first_counting_key_decides_clearedStore :
    let context := Context.ofClaims { tenantId := " t " }
    let r := (Gate.renaming.resolve ⟨clearedStore, .noop⟩ context " new " none).value.1
    Text.trim " new " ≠ "" ∧
      (Gate.renaming.chainFor context none).value = .ok [.tenant "t", .system] ∧
      Gate.renaming.collaborators.defaults (Gate.renaming.aliases.normalize " new ") =
        .ok .unset ∧
      r.trace.overrides.alias = some "old" ∧ Gate.renaming.DecidedBy clearedStore "old" r := by
  have hkey : Text.trim " new " ≠ "" := by decide
  have hchain : (Gate.renaming.chainFor (.ofClaims { tenantId := " t " }) none).value =
      .ok [.tenant "t", .system] := by decide +kernel
  have hfirst : ["new", "old"].find?
      (Gate.renaming.Counts clearedStore [.tenant "t", .system] ·) = some "old" := by
    decide +kernel
  have hkeys : Gate.renaming.aliases.normalize " new " = "new" ∧
      Gate.renaming.aliases.aliasesFor "new" = ["old"] := by decide +kernel
  obtain ⟨-, -, -, hdecides⟩ := first_counting_key_decides .renaming false rfl rfl clearedStore
    (.ofClaims { tenantId := " t " }) " new " none _ .unset hkey hchain rfl
  simp only [hkeys.1, hkeys.2, hfirst] at hdecides
  exact ⟨hkey, hchain, rfl, hdecides.1, hdecides.2⟩

end Gate

end FeatureFlags
