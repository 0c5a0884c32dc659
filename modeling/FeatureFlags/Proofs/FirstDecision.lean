import FeatureFlags.Gate.Resolve

/-!
# The first key that decides

A gate reads the overrides of the canonical key first and those of its legacy keys after it.
`FirstDecision` says what comes of it without saying how it is computed, one rule for each
outcome: the canonical key decides, a legacy key decides after all before it did not, or no
key decides.

`FirstFailure` says the same of failures: the reader or the strategy fails at some key after no
key before it decided.

`decideOverrides_eq_ok_iff` and `decideOverrides_eq_error_iff` tie the relations to the
computation.  Everything else about the order of the keys follows from their rules.
-/

namespace FeatureFlags

namespace Gate

variable {g : Gate} {reader : OverrideReader} {store : OverrideStore} {chain : Chain}

/-! ## The decision about one key -/

/-- What the strategy makes of the overrides of one key. -/
def decision (g : Gate) (reader : OverrideReader) (store : OverrideStore) (chain : Chain)
    (key : String) : Except Error Decision :=
  (reader store key chain).bind fun found =>
    g.collaborators.strategy.decide key chain found g.policy.order

/-- The decision about one key is what is made of its overrides, once they are read. -/
theorem value_decideKey (key : String) :
    (g.decideKey reader store chain key).value = g.decision reader store chain key := by
  simp only [decideKey, decision, Observed.value_bind]
  cases reader store key chain <;> rfl

/-- A decision was made, but no override counts. -/
def Undecided (x : Except Error Decision) : Prop := ∃ d, x = .ok d ∧ d.verdict = none

/-! ## The decision about all keys -/

/-- What comes of asking a canonical key and then its legacy keys. -/
inductive FirstDecision (decisionOf : String → Except Error Decision) (key : String)
    (aliases : List String) : Decision → Option String → Prop where
  /-- The canonical key decides. -/
  | canonical {d : Decision} : decisionOf key = .ok d → d.verdict ≠ none →
      FirstDecision decisionOf key aliases d none
  /-- A legacy key decides, and no key before it does. -/
  | legacy {d : Decision} {before after : List String} {k : String} :
      Undecided (decisionOf key) → aliases = before ++ k :: after →
      (∀ a ∈ before, Undecided (decisionOf a)) → decisionOf k = .ok d → d.verdict ≠ none →
      FirstDecision decisionOf key aliases d (some k)
  /-- No key decides. -/
  | nowhere {d : Decision} : decisionOf key = .ok d → d.verdict = none →
      (∀ a ∈ aliases, Undecided (decisionOf a)) → FirstDecision decisionOf key aliases d none

/-- Some keys are asked one after the other, and the first of them that is not undecided fails. -/
inductive FirstFailure (decisionOf : String → Except Error Decision) :
    List String → Error → Prop where
  /-- The first key fails. -/
  | here {k : String} {rest : List String} {cause : Error} : decisionOf k = .error cause →
      FirstFailure decisionOf (k :: rest) cause
  /-- The first key does not decide, and a later one fails. -/
  | later {k : String} {rest : List String} {cause : Error} : Undecided (decisionOf k) →
      FirstFailure decisionOf rest cause → FirstFailure decisionOf (k :: rest) cause

theorem firstFailure_nil {decisionOf : String → Except Error Decision} {cause : Error} :
    ¬ FirstFailure decisionOf [] cause := nofun

theorem firstFailure_cons {decisionOf : String → Except Error Decision} {k : String}
    {rest : List String} {cause : Error} :
    FirstFailure decisionOf (k :: rest) cause ↔ decisionOf k = .error cause ∨
      Undecided (decisionOf k) ∧ FirstFailure decisionOf rest cause := by
  constructor
  · intro h
    cases h with
    | here hk => exact .inl hk
    | later hk hrest => exact .inr ⟨hk, hrest⟩
  · rintro (hk | ⟨hk, hrest⟩)
    · exact .here hk
    · exact .later hk hrest

namespace FirstDecision

variable {decisionOf decisionOf' : String → Except Error Decision} {key : String}
  {aliases : List String}

/-- What comes of it changes as the single decisions do, if these keep their verdicts. -/
theorem transfer {R : Decision → Decision → Prop}
    (hverdict : ∀ d d', R d d' → d.verdict = d'.verdict)
    (h : ∀ k d, decisionOf k = .ok d → ∃ d', decisionOf' k = .ok d' ∧ R d d') {d : Decision}
    {legacy : Option String} (hd : FirstDecision decisionOf key aliases d legacy) :
    ∃ d', FirstDecision decisionOf' key aliases d' legacy ∧ R d d' := by
  have hundecided : ∀ k, Undecided (decisionOf k) → Undecided (decisionOf' k) := by
    rintro k ⟨d, hk, hv⟩
    obtain ⟨d', hk', hR⟩ := h k d hk
    exact ⟨d', hk', (hverdict d d' hR).symm.trans hv⟩
  cases hd with
  | canonical hk hv =>
    obtain ⟨d', hk', hR⟩ := h _ _ hk
    exact ⟨d', .canonical hk' (hverdict d d' hR ▸ hv), hR⟩
  | legacy hk heq hbefore hd hv =>
    obtain ⟨d', hd', hR⟩ := h _ _ hd
    exact ⟨d', .legacy (hundecided _ hk) heq (fun a ha => hundecided a (hbefore a ha)) hd'
      (hverdict d d' hR ▸ hv), hR⟩
  | nowhere hk hv hall =>
    obtain ⟨d', hk', hR⟩ := h _ _ hk
    exact ⟨d', .nowhere hk' (hverdict d d' hR ▸ hv) fun a ha => hundecided a (hall a ha), hR⟩

/-- What comes of it stays the same when decisions are added that failed before. -/
theorem mono (h : ∀ k d, decisionOf k = .ok d → decisionOf' k = .ok d) {d : Decision}
    {legacy : Option String} (hd : FirstDecision decisionOf key aliases d legacy) :
    FirstDecision decisionOf' key aliases d legacy := by
  obtain ⟨d', hd', rfl⟩ := hd.transfer (R := Eq) (fun _ _ => congrArg Decision.verdict)
    fun k d hk => ⟨d, h k d hk, rfl⟩
  exact hd'

end FirstDecision

/-! ## The computation -/

/-- The walk over the legacy keys ends at the first one that fails or decides. -/
theorem decideAliases_cons (key legacy : String) (rest : List String) :
    (g.decideAliases reader store chain key (legacy :: rest)).value =
      match g.decision reader store chain legacy with
      | .error e => .error e
      | .ok d =>
        if d.verdict.isSome then .ok (some (legacy, d))
        else (g.decideAliases reader store chain key rest).value := by
  simp only [decideAliases, Observed.value_bind, value_decideKey]
  cases g.decision reader store chain legacy with
  | error e => rfl
  | ok d => by_cases h : d.verdict.isSome <;> simp [h]

/-- The walk comes to nothing when all legacy keys are undecided. -/
theorem decideAliases_eq_none_iff {key : String} {aliases : List String} :
    (g.decideAliases reader store chain key aliases).value = .ok none ↔
      ∀ a ∈ aliases, Undecided (g.decision reader store chain a) := by
  induction aliases with
  | nil => simp [decideAliases]
  | cons legacy rest ih =>
    rw [decideAliases_cons, List.forall_mem_cons, ← ih]
    cases hd : g.decision reader store chain legacy with
    | error e => simp [Undecided]
    | ok d => cases hv : d.verdict <;> simp [Undecided, hv]

/-- The walk ends with a decision at a legacy key when those before it are undecided. -/
theorem decideAliases_eq_some_iff {key legacy : String} {aliases : List String} {d : Decision} :
    (g.decideAliases reader store chain key aliases).value = .ok (some (legacy, d)) ↔
      ∃ before after, aliases = before ++ legacy :: after ∧
        (∀ a ∈ before, Undecided (g.decision reader store chain a)) ∧
        g.decision reader store chain legacy = .ok d ∧ d.verdict ≠ none := by
  induction aliases with
  | nil => simp [decideAliases]
  | cons a rest ih =>
    rw [decideAliases_cons]
    constructor
    · intro h
      cases ha : g.decision reader store chain a with
      | error e => simp [ha] at h
      | ok d' =>
        cases hv : d'.verdict with
        | some v =>
          obtain ⟨rfl, rfl⟩ : a = legacy ∧ d' = d := by simpa [ha, hv] using h
          exact ⟨[], rest, rfl, by simp, ha, by simp [hv]⟩
        | none =>
          obtain ⟨before, after, rfl, hbefore, hd⟩ := ih.1 (by simpa [ha, hv] using h)
          exact ⟨a :: before, after, rfl, List.forall_mem_cons.2 ⟨⟨d', ha, hv⟩, hbefore⟩, hd⟩
    · rintro ⟨before, after, heq, hbefore, hd, hv⟩
      cases before with
      | nil =>
        obtain ⟨rfl, rfl⟩ := List.cons.inj heq
        simp [hd, Option.isSome_iff_ne_none.2 hv]
      | cons b before =>
        obtain ⟨rfl, rfl⟩ := List.cons.inj heq
        obtain ⟨⟨d', ha, hv'⟩, hbefore⟩ := List.forall_mem_cons.1 hbefore
        simp only [ha, hv', Option.isSome_none, Bool.false_eq_true, if_false]
        exact ih.2 ⟨before, after, rfl, hbefore, hd, hv⟩

/-- The walk fails when a read fails before any legacy key decides. -/
theorem decideAliases_eq_error_iff (key : String) {aliases : List String} {cause : Error} :
    (g.decideAliases reader store chain key aliases).value = .error cause ↔
      FirstFailure (g.decision reader store chain) aliases cause := by
  induction aliases with
  | nil => simp [decideAliases, firstFailure_nil]
  | cons legacy rest ih =>
    rw [decideAliases_cons, firstFailure_cons, ← ih]
    cases hd : g.decision reader store chain legacy with
    | error e => simp [Undecided]
    | ok d => cases hv : d.verdict <;> simp [Undecided, hv]

theorem value_decideOverrides (key : String) :
    (g.decideOverrides reader store chain key).value =
      match g.decision reader store chain key with
      | .error e => .error e
      | .ok d =>
        if d.verdict.isSome then .ok (d, none)
        else
          match (g.decideAliases reader store chain key (g.aliases.aliasesFor key)).value with
          | .error e => .error e
          | .ok none => .ok (d, none)
          | .ok (some (k, d')) => .ok (d', some k) := by
  simp only [decideOverrides, Observed.value_bind, value_decideKey]
  cases g.decision reader store chain key with
  | error e => rfl
  | ok d =>
    by_cases hv : d.verdict.isSome
    · simp only [hv, if_true, Observed.value_pure]
    · simp only [hv, if_false, Observed.value_bind, Bool.false_eq_true]
      cases (g.decideAliases reader store chain key (g.aliases.aliasesFor key)).value with
      | error e => rfl
      | ok found => cases found <;> rfl

variable {key : String} {d : Decision} {legacy : Option String}

/-- A decision that is made is that of the first key that decides. -/
theorem firstDecision_of_decideOverrides
    (h : (g.decideOverrides reader store chain key).value = .ok (d, legacy)) :
    FirstDecision (g.decision reader store chain) key (g.aliases.aliasesFor key) d legacy := by
  rw [value_decideOverrides] at h
  cases hk : g.decision reader store chain key with
  | error e => simp [hk] at h
  | ok d₀ =>
    cases hv : d₀.verdict with
    | some v =>
      obtain ⟨rfl, rfl⟩ : d₀ = d ∧ none = legacy := by simpa [hk, hv] using h
      exact .canonical hk (by simp [hv])
    | none =>
      simp only [hk, hv, Option.isSome_none, Bool.false_eq_true, if_false] at h
      cases ha : (g.decideAliases reader store chain key (g.aliases.aliasesFor key)).value with
      | error e => simp [ha] at h
      | ok found =>
        cases found with
        | none =>
          obtain ⟨rfl, rfl⟩ : d₀ = d ∧ none = legacy := by simpa [ha] using h
          exact .nowhere hk hv (decideAliases_eq_none_iff.1 ha)
        | some found =>
          obtain ⟨rfl, rfl⟩ : found.2 = d ∧ some found.1 = legacy := by simpa [ha] using h
          obtain ⟨before, after, heq, hbefore, hd, hv'⟩ := decideAliases_eq_some_iff.1 ha
          exact .legacy ⟨d₀, hk, hv⟩ heq hbefore hd hv'

/-- The first key that decides makes the decision. -/
theorem decideOverrides_of_firstDecision
    (h : FirstDecision (g.decision reader store chain) key (g.aliases.aliasesFor key) d legacy) :
    (g.decideOverrides reader store chain key).value = .ok (d, legacy) := by
  rw [value_decideOverrides]
  cases h with
  | canonical hk hv => simp only [hk, Option.isSome_iff_ne_none.2 hv, if_true]
  | legacy hk heq hbefore hd hv =>
    obtain ⟨d₀, hk, hv₀⟩ := hk
    have ha : (g.decideAliases reader store chain key (g.aliases.aliasesFor key)).value = _ :=
      decideAliases_eq_some_iff.2 ⟨_, _, heq, hbefore, hd, hv⟩
    simp only [hk, hv₀, Option.isSome_none, Bool.false_eq_true, if_false, ha]
  | nowhere hk hv hall =>
    have ha : (g.decideAliases reader store chain key (g.aliases.aliasesFor key)).value = _ :=
      decideAliases_eq_none_iff.2 hall
    simp only [hk, hv, Option.isSome_none, Bool.false_eq_true, if_false, ha]

/-- The computation gives exactly what the three rules allow. -/
theorem decideOverrides_eq_ok_iff :
    (g.decideOverrides reader store chain key).value = .ok (d, legacy) ↔
      FirstDecision (g.decision reader store chain) key (g.aliases.aliasesFor key) d legacy :=
  ⟨firstDecision_of_decideOverrides, decideOverrides_of_firstDecision⟩

/-- The computation fails exactly when a key does that no decision comes before. -/
theorem decideOverrides_eq_error_iff {cause : Error} :
    (g.decideOverrides reader store chain key).value = .error cause ↔
      FirstFailure (g.decision reader store chain) (key :: g.aliases.aliasesFor key) cause := by
  rw [value_decideOverrides, firstFailure_cons]
  cases hd : g.decision reader store chain key with
  | error e => simp [Undecided]
  | ok d =>
    cases hv : d.verdict with
    | some v => simp [Undecided, hv]
    | none =>
      rw [← decideAliases_eq_error_iff key]
      simp only [Undecided, Except.ok.injEq, exists_eq_left', hv, Option.isSome_none,
        Bool.false_eq_true, if_false, true_and, reduceCtorEq, false_or]
      split <;> simp_all

end Gate

end FeatureFlags
