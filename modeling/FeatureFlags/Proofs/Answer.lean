import FeatureFlags.Proofs.FirstDecision

/-!
# Answers

The answer of a resolution is the part of its trace that says what was found out: the value,
the layer that gave it, and what the overrides and the defaults said.  `Gate.answer?` is the
answer to a canonical key and a chain, if no collaborator fails on the way to it.  It depends
on nothing else, in particular not on the spelling of the key that was asked for.

`value_resolveFresh_of_answer?` and `snd_value_resolveFresh_of_answer?_eq_none` say all there
is to know about a resolution that is not repeated from the cache: with an answer it succeeds
with this answer and may be kept, without one it must not be kept.
-/

namespace FeatureFlags

/-! ## The answer in a trace -/

namespace DefaultResult

/-- The value that a resolution takes from a default. -/
def given (d : DefaultResult) : Bool := d.isSet && d.value

theorem given_eq (d : DefaultResult) : d.given = if d.isSet then d.value else false := by
  cases h : d.isSet <;> simp [given, h]

/-- The layer that gives this value. -/
def source (d : DefaultResult) : ResolveSource := if d.isSet then .default else .fallback

end DefaultResult

/-- What a resolution found out. -/
structure Answer where
  /-- Whether the feature is on. -/
  value : Bool
  /-- The layer that gave the value. -/
  source : ResolveSource
  /-- What the overrides said. -/
  overrides : OverrideTrace
  /-- What the defaults said. -/
  defaults : DefaultTrace
deriving DecidableEq, Repr

namespace Answer

/-- The answer of overrides that decide. -/
def ofVerdict (o : OverrideTrace) (value : Bool) : Answer := ⟨value, .override, o, {}⟩

/-- The answer of the defaults, after overrides that do not decide. -/
def ofDefault (o : OverrideTrace) (d : DefaultResult) : Answer :=
  ⟨d.given, d.source, o, { toDefaultResult := d, checked := true }⟩

end Answer

namespace Trace

/-- The answer in a trace. -/
def answer (t : Trace) : Answer := ⟨t.value, t.source, t.overrides, t.defaults⟩

/-- The trace with another answer. -/
def withAnswer (t : Trace) (a : Answer) : Trace :=
  { t with value := a.value, source := a.source, overrides := a.overrides, defaults := a.defaults }

end Trace

/-- The result, the value in the trace, and the layer that gave it. -/
def Resolution.outcome (r : Resolution) : Option Bool × Bool × ResolveSource :=
  (r.result.toOption, r.trace.value, r.trace.source)

/-! ## The answer of a gate -/

namespace Gate

variable {g : Gate} {store : OverrideStore} {key : String} {chain : Chain}

/-- What the overrides say about a canonical key in a chain, unless they cannot be read. -/
def overrides? (g : Gate) (store : OverrideStore) (key : String) (chain : Chain) :
    Option OverrideTrace :=
  match g.collaborators.reader with
  | none => some {}
  | some reader =>
    match (g.decideOverrides reader store chain key).value with
    | .ok (decision, legacy) => some { toDecision := decision, «alias» := legacy }
    | .error _ => none

/-- The answer to a canonical key in a chain, unless a collaborator fails. -/
def answer? (g : Gate) (store : OverrideStore) (key : String) (chain : Chain) : Option Answer :=
  (g.overrides? store key chain).bind fun o =>
    match o.verdict with
    | some value => some (.ofVerdict o value)
    | none => (g.collaborators.defaults key).toOption.map (.ofDefault o)

/-- Without a reader the overrides say nothing, and that is no failure. -/
theorem overrides?_of_no_reader (hr : g.collaborators.reader = none) :
    g.overrides? store key chain = some {} := by
  simp only [overrides?, hr]

/-- With a reader the overrides say what the first key says that decides. -/
theorem overrides?_eq_some_iff {reader : OverrideReader} (hr : g.collaborators.reader = some reader)
    {o : OverrideTrace} :
    g.overrides? store key chain = some o ↔
      ∃ d legacy,
        FirstDecision (g.decision reader store chain) key (g.aliases.aliasesFor key) d legacy ∧
          o = { toDecision := d, «alias» := legacy } := by
  simp only [overrides?, hr, ← decideOverrides_eq_ok_iff]
  cases (g.decideOverrides reader store chain key).value with
  | error e => simp
  | ok x =>
    obtain ⟨decision, legacy⟩ := x
    simp only [Option.some.injEq, Except.ok.injEq, Prod.mk.injEq]
    constructor
    · rintro rfl
      exact ⟨decision, legacy, ⟨rfl, rfl⟩, rfl⟩
    · rintro ⟨_, _, ⟨rfl, rfl⟩, rfl⟩
      rfl

/-- A decision about the canonical key is the answer. -/
theorem answer?_of_decision {reader : OverrideReader} (hr : g.collaborators.reader = some reader)
    {d : Decision} {value : Bool} (hd : g.decision reader store chain key = .ok d)
    (hv : d.verdict = some value) :
    g.answer? store key chain = some (.ofVerdict { toDecision := d } value) := by
  have hfirst : FirstDecision (g.decision reader store chain) key (g.aliases.aliasesFor key) d
      none := .canonical hd (by simp [hv])
  rw [answer?, (overrides?_eq_some_iff hr).2 ⟨d, none, hfirst, rfl⟩, Option.bind_some, hv]

/-- Overrides that were read carry no error. -/
theorem error_of_overrides? {o : OverrideTrace} (h : g.overrides? store key chain = some o) :
    o.error = none := by
  rw [overrides?] at h
  split at h
  · cases h; rfl
  · split at h
    · cases h; rfl
    · cases h

/-- An answer carries no error, neither of the overrides nor of the defaults. -/
theorem error_of_answer? {a : Answer} (h : g.answer? store key chain = some a) :
    a.overrides.error = none ∧ a.defaults.error = none := by
  obtain ⟨o, ho, ha⟩ := Option.bind_eq_some_iff.1 h
  cases hv : o.verdict with
  | some value =>
    obtain rfl : Answer.ofVerdict o value = a := by simpa [hv] using ha
    exact ⟨error_of_overrides? ho, rfl⟩
  | none =>
    obtain ⟨d, -, rfl⟩ : ∃ d, _ ∧ Answer.ofDefault o d = a := by
      simpa [hv, Option.map_eq_some_iff] using ha
    exact ⟨error_of_overrides? ho, rfl⟩

/-- A gate gives the answers of another one if it makes the decisions of that one about single
keys and knows its defaults. -/
theorem answer?_mono {g' : Gate} {store' : OverrideStore} {a : Answer}
    (haliases : g'.aliases = g.aliases)
    (hnone : g.collaborators.reader = none → g'.collaborators.reader = none)
    (hsome : ∀ reader, g.collaborators.reader = some reader →
      ∃ reader', g'.collaborators.reader = some reader' ∧
        ∀ k d, g.decision reader store chain k = .ok d → g'.decision reader' store' chain k = .ok d)
    (hdefault : ∀ d, g.collaborators.defaults key = .ok d → g'.collaborators.defaults key = .ok d)
    (h : g.answer? store key chain = some a) : g'.answer? store' key chain = some a := by
  obtain ⟨o, ho, ha⟩ := Option.bind_eq_some_iff.1 h
  have ho' : g'.overrides? store' key chain = some o := by
    cases hr : g.collaborators.reader with
    | none =>
      rw [overrides?_of_no_reader (hnone hr)]
      exact (overrides?_of_no_reader hr).symm.trans ho
    | some reader =>
      obtain ⟨d, legacy, hd, rfl⟩ := (overrides?_eq_some_iff hr).1 ho
      obtain ⟨reader', hr', hmono⟩ := hsome reader hr
      exact (overrides?_eq_some_iff hr').2 ⟨d, legacy, haliases ▸ hd.mono hmono, rfl⟩
  refine Option.bind_eq_some_iff.2 ⟨o, ho', ?_⟩
  cases hv : o.verdict with
  | some value => simpa [hv] using ha
  | none =>
    simp only [hv] at ha ⊢
    cases hd : g.collaborators.defaults key with
    | error e => simp [hd, Except.toOption] at ha
    | ok d => rwa [hdefault d hd, ← hd]

/-- A resolution puts into its trace what the overrides say. -/
theorem value_askOverrides_of_overrides? {t : Trace} {o : OverrideTrace}
    (h : g.overrides? store t.normalizedKey t.chain = some o) :
    (g.askOverrides store t).value = o := by
  rw [overrides?] at h
  rw [askOverrides]
  cases hr : g.collaborators.reader with
  | none => simpa [hr] using h
  | some reader =>
    simp only [hr] at h
    simp only [Observed.value_bind]
    cases hd : (g.decideOverrides reader store t.chain t.normalizedKey).value with
    | error e => simp [hd] at h
    | ok x => simpa [hd] using h

/-- If the overrides cannot be read, there is a reader, and the walk over the keys fails. -/
theorem exists_error_of_overrides?_eq_none (h : g.overrides? store key chain = none) :
    ∃ reader cause, g.collaborators.reader = some reader ∧
      (g.decideOverrides reader store chain key).value = .error cause := by
  rw [overrides?] at h
  cases hr : g.collaborators.reader with
  | none => simp [hr] at h
  | some reader =>
    cases hd : (g.decideOverrides reader store chain key).value with
    | error cause => exact ⟨reader, cause, rfl, hd⟩
    | ok x => simp [hr, hd] at h

theorem value_askOverrides_of_error {reader : OverrideReader} {t : Trace} {cause : Error}
    (hr : g.collaborators.reader = some reader)
    (h : (g.decideOverrides reader store t.chain t.normalizedKey).value = .error cause) :
    (g.askOverrides store t).value = { error := some (g.readError t cause) } := by
  simp only [askOverrides, hr, Observed.value_bind, h]
  rfl

/-! ## Resolutions that are not repeated -/

/-- With overrides that were read, these decide or the defaults are asked. -/
theorem value_resolveFresh_of_overrides? {t : Trace} {o : OverrideTrace}
    (h : g.overrides? store t.normalizedKey t.chain = some o) :
    (g.resolveFresh store t).value =
      match o.verdict with
      | some value => ((g.finish (withVerdict { t with overrides := o } value)).value, true)
      | none => (g.resolveDefault { t with overrides := o } true).value := by
  simp only [resolveFresh, Observed.value_bind, value_askOverrides_of_overrides? h,
    error_of_overrides? h]
  cases o.verdict with
  | some value => rfl
  | none => rfl

/-- With overrides that cannot be read, the resolution fails or the defaults are asked. -/
theorem value_resolveFresh_of_error {reader : OverrideReader} {t : Trace} {cause : Error}
    (hr : g.collaborators.reader = some reader)
    (h : (g.decideOverrides reader store t.chain t.normalizedKey).value = .error cause) :
    (g.resolveFresh store t).value =
      let e := g.readError t cause
      if g.config.strictStore then
        ((g.fail { t with overrides := { error := some e } } e).value, false)
      else (g.resolveDefault { t with overrides := { error := some e } } false).value := by
  simp only [resolveFresh, Observed.value_bind, value_askOverrides_of_error hr h]
  split <;> rfl

theorem value_resolveFresh_of_overrides?_eq_none {t : Trace}
    (h : g.overrides? store t.normalizedKey t.chain = none) :
    ∃ e, (g.resolveFresh store t).value =
      if g.config.strictStore then
        ((g.fail { t with overrides := { error := some e } } e).value, false)
      else (g.resolveDefault { t with overrides := { error := some e } } false).value := by
  obtain ⟨reader, cause, hr, hcause⟩ := exists_error_of_overrides?_eq_none h
  exact ⟨g.readError t cause, value_resolveFresh_of_error hr hcause⟩

/-- With a default, or without one, the resolution succeeds. -/
theorem value_resolveDefault_of_ok {t : Trace} {d : DefaultResult}
    (h : g.collaborators.defaults t.normalizedKey = .ok d) (keep : Bool) :
    (g.resolveDefault t keep).value =
      (⟨.ok d.given, t.withAnswer (.ofDefault t.overrides d)⟩, keep) := by
  simp only [resolveDefault, askDefaults, Observed.value_bind, h]
  obtain ⟨_ | _, _⟩ := d <;> rfl

/-- When the default cannot be asked, the resolution fails. -/
theorem value_resolveDefault_of_error {t : Trace} {cause : Error}
    (h : g.collaborators.defaults t.normalizedKey = .error cause) (keep : Bool) :
    (g.resolveDefault t keep).value =
      let e := defaultError t cause
      (⟨.error e, { t with
        value := false, source := .fallback, defaults := { checked := true, error := some e } }⟩,
        false) := by
  simp only [resolveDefault, askDefaults, Observed.value_bind, h]
  rfl

/-- With an answer the resolution succeeds with this answer, which may be kept. -/
theorem value_resolveFresh_of_answer? {t : Trace} (ht : t.defaults = {}) {a : Answer}
    (h : g.answer? store t.normalizedKey t.chain = some a) :
    (g.resolveFresh store t).value = (⟨.ok a.value, t.withAnswer a⟩, true) := by
  obtain ⟨o, ho, ha⟩ := Option.bind_eq_some_iff.1 h
  rw [value_resolveFresh_of_overrides? ho]
  cases hv : o.verdict with
  | some value =>
    obtain rfl : Answer.ofVerdict o value = a := by simpa [hv] using ha
    obtain ⟨_, _, _, _, _, _, _, _, _, _⟩ := t
    cases ht
    rfl
  | none =>
    simp only [hv] at ha
    cases hd : g.collaborators.defaults t.normalizedKey with
    | error e => simp [hd, Except.toOption] at ha
    | ok d =>
      obtain rfl : Answer.ofDefault o d = a := by simpa [hd, Except.toOption] using ha
      rw [value_resolveDefault_of_ok (t := { t with overrides := o }) hd]
      rfl

/-- The outcome for a canonical key about which no override decides. -/
def defaultOutcome (g : Gate) (key : String) : Option Bool × Bool × ResolveSource :=
  match g.collaborators.defaults key with
  | .ok d => (some d.given, d.given, d.source)
  | .error _ => (none, false, .fallback)

/-- Left to the defaults, a resolution has their outcome, whatever is in its trace already. -/
theorem outcome_resolveDefault (g : Gate) (t : Trace) (keep : Bool) :
    (g.resolveDefault t keep).value.1.outcome = g.defaultOutcome t.normalizedKey := by
  rw [defaultOutcome]
  cases h : g.collaborators.defaults t.normalizedKey with
  | error cause =>
    rw [value_resolveDefault_of_error h]
    rfl
  | ok d =>
    rw [value_resolveDefault_of_ok h]
    rfl

/-- The answer of the defaults may be kept only if they were to be had. -/
theorem snd_value_resolveDefault_eq_false {t : Trace} {keep : Bool}
    (h : ∀ d, g.collaborators.defaults t.normalizedKey = .ok d → keep = false) :
    (g.resolveDefault t keep).value.2 = false := by
  cases hd : g.collaborators.defaults t.normalizedKey with
  | error cause => rw [value_resolveDefault_of_error hd]
  | ok d =>
    rw [value_resolveDefault_of_ok hd]
    exact h d hd

/-- Without an answer the result of the resolution must not be kept. -/
theorem snd_value_resolveFresh_of_answer?_eq_none {t : Trace}
    (h : g.answer? store t.normalizedKey t.chain = none) :
    (g.resolveFresh store t).value.2 = false := by
  cases ho : g.overrides? store t.normalizedKey t.chain with
  | none =>
    obtain ⟨e, he⟩ := value_resolveFresh_of_overrides?_eq_none ho
    rw [he]
    split
    · rfl
    · exact snd_value_resolveDefault_eq_false fun _ _ => rfl
  | some o =>
    rw [value_resolveFresh_of_overrides? ho]
    simp only [answer?, ho, Option.bind_some] at h
    cases hv : o.verdict with
    | some value => simp [hv] at h
    | none =>
      simp only [hv] at h
      refine snd_value_resolveDefault_eq_false fun d hd => ?_
      simp [hd, Except.toOption] at h

/-- A resolution fills in the answer of its trace and leaves the rest as it is. -/
theorem trace_resolveDefault (g : Gate) (t : Trace) (keep : Bool) :
    ∃ a, (g.resolveDefault t keep).value.1.trace = t.withAnswer a ∧ a.overrides = t.overrides := by
  cases h : g.collaborators.defaults t.normalizedKey with
  | error cause =>
    rw [value_resolveDefault_of_error h]
    exact ⟨⟨false, .fallback, _, _⟩, rfl, rfl⟩
  | ok d =>
    rw [value_resolveDefault_of_ok h]
    exact ⟨_, rfl, rfl⟩

/-- A resolution fills in an answer whose overrides are what was read. -/
theorem trace_resolveFresh (g : Gate) (store : OverrideStore) (t : Trace) :
    ∃ a, (g.resolveFresh store t).value.1.trace = t.withAnswer a ∧
      a.overrides = (g.askOverrides store t).value := by
  simp only [resolveFresh, Observed.value_bind]
  generalize (g.askOverrides store t).value = o
  cases o.error with
  | some e =>
    simp only
    split
    · exact ⟨⟨false, .fallback, _, _⟩, rfl, rfl⟩
    · exact g.trace_resolveDefault { t with overrides := o } false
  | none =>
    cases o.verdict with
    | some value => exact ⟨⟨value, .override, _, _⟩, rfl, rfl⟩
    | none => exact g.trace_resolveDefault { t with overrides := o } true

/-- The trace of a resolution holds what the overrides said, whatever came after it. -/
theorem overrides_resolveFresh (g : Gate) (store : OverrideStore) (t : Trace) :
    (g.resolveFresh store t).value.1.trace.overrides = (g.askOverrides store t).value := by
  obtain ⟨a, htrace, ha⟩ := g.trace_resolveFresh store t
  rw [htrace, ← ha]
  rfl

/-! ## What is read -/

/-- Readers that give the same for a chain lead to the same walk over the legacy keys. -/
theorem decideAliases_congr {reader : OverrideReader} {store' : OverrideStore}
    (h : ∀ k, reader store k chain = reader store' k chain) (key : String)
    (aliases : List String) :
    g.decideAliases reader store chain key aliases =
      g.decideAliases reader store' chain key aliases := by
  induction aliases with
  | nil => rfl
  | cons k rest ih => simp only [decideAliases, decideKey, h, ih]

/-- A resolution looks at a store only through its reader, and only at its chain. -/
theorem resolveFresh_congr {reader : OverrideReader} {store' : OverrideStore} {t : Trace}
    (hreader : g.collaborators.reader = some reader)
    (h : ∀ k, reader store k t.chain = reader store' k t.chain) :
    g.resolveFresh store t = g.resolveFresh store' t := by
  have hask : g.askOverrides store t = g.askOverrides store' t := by
    simp only [askOverrides, hreader, decideOverrides, decideKey, h, decideAliases_congr h]
  simp only [resolveFresh, hask]

/-! ## Resolutions with a cache -/

variable {s : GateState} {t : Trace}

/-- A kept answer is repeated, and was used last from then on. -/
theorem value_resolveIn_of_hit {e : CacheEntry}
    (h : (s.cache.get t.normalizedKey t.chain).1 = some e) :
    (g.resolveIn s t).value = ((g.replay t e).value, (s.cache.get t.normalizedKey t.chain).2) := by
  unfold resolveIn
  generalize s.cache.get t.normalizedKey t.chain = x at h
  obtain ⟨_, cache⟩ := x
  cases h
  rfl

/-- Where nothing is kept, the answer is sought, and it is kept if it may be. -/
theorem value_resolveIn_of_miss (h : (s.cache.get t.normalizedKey t.chain).1 = none) :
    (g.resolveIn s t).value =
      let r := (g.resolveFresh s.store t).value
      let cache := (s.cache.get t.normalizedKey t.chain).2
      (r.1, if r.2 then cache.put t.normalizedKey t.chain ⟨r.1.trace.value, r.1.trace⟩
        else cache) := by
  unfold resolveIn
  generalize s.cache.get t.normalizedKey t.chain = x at h
  obtain ⟨_, cache⟩ := x
  cases h
  simp only [Observed.value_bind]
  split <;> rfl

/-- Without a cache every answer is sought. -/
theorem value_resolveIn_noop (store : OverrideStore) (t : Trace) :
    (g.resolveIn ⟨store, .noop⟩ t).value = ((g.resolveFresh store t).value.1, .noop) := by
  rw [value_resolveIn_of_miss rfl]
  simp only [ResolveCache.get, ResolveCache.put, ite_self]

/-! ## Resolutions from the start -/

theorem value_chainFor_of_claims {context : Context} {c : Claims}
    (h : (g.fullClaims context).value = .ok c) :
    (g.chainFor context none).value = .ok (g.policy.derive c) := by
  simp only [chainFor, Observed.value_bind, h, Observed.value_pure]

section Start

variable {context : Context} {key : String} {provided : Option Chain}

/-- Without a key the resolution fails, whatever else is given. -/
theorem resolve_of_empty (hkey : g.aliases.normalize key = "") (s : GateState) (context : Context)
    (provided : Option Chain) :
    let x := g.fail (g.begin key) (keyError (g.begin key).key (g.begin key).normalizedKey "resolve")
    g.resolve s context key provided = ⟨(x.value, s.cache), x.effects⟩ := by
  have hbegin : (g.begin key).normalizedKey = "" := hkey
  ext1
  · simp only [resolve, hbegin, if_true, Observed.value_bind, Observed.value_pure]
  · simp only [resolve, hbegin, if_true, Observed.effects_bind, Observed.effects_pure,
      List.append_nil]

/-- Without a chain the resolution fails, whatever the state is. -/
theorem resolve_of_chain_error {e : Error} (hkey : g.aliases.normalize key ≠ "")
    (hchain : (g.chainFor context provided).value = .error e) (s : GateState) :
    let x := g.fail (g.begin key) (chainError (g.begin key) e)
    g.resolve s context key provided =
      ⟨(x.value, s.cache), (g.chainFor context provided).effects ++ x.effects⟩ := by
  have hbegin : (g.begin key).normalizedKey ≠ "" := hkey
  ext1
  · simp only [resolve, hbegin, if_false, Observed.value_bind, hchain, Observed.value_pure]
  · simp only [resolve, hbegin, if_false, Observed.effects_bind, hchain, Observed.effects_pure,
      List.append_nil]

/-- With a key and a chain, the answer for the chain is sought. -/
theorem resolve_of_chain (hkey : g.aliases.normalize key ≠ "")
    (hchain : (g.chainFor context provided).value = .ok chain) (s : GateState) :
    let x := g.resolveIn s { g.begin key with chain }
    g.resolve s context key provided =
      ⟨x.value, (g.chainFor context provided).effects ++ x.effects⟩ := by
  have hbegin : (g.begin key).normalizedKey ≠ "" := hkey
  ext1
  · simp only [resolve, hbegin, if_false, Observed.value_bind, hchain]
  · simp only [resolve, hbegin, if_false, Observed.effects_bind, hchain]

theorem value_resolve_of_empty (hkey : g.aliases.normalize key = "") (s : GateState)
    (context : Context) (provided : Option Chain) :
    (g.resolve s context key provided).value =
      ((g.fail (g.begin key) (keyError (g.begin key).key (g.begin key).normalizedKey
        "resolve")).value, s.cache) :=
  congrArg Observed.value (resolve_of_empty hkey s context provided)

theorem value_resolve_of_chain_error {e : Error} (hkey : g.aliases.normalize key ≠ "")
    (hchain : (g.chainFor context provided).value = .error e) (s : GateState) :
    (g.resolve s context key provided).value =
      ((g.fail (g.begin key) (chainError (g.begin key) e)).value, s.cache) :=
  congrArg Observed.value (resolve_of_chain_error hkey hchain s)

theorem value_resolve_of_chain (hkey : g.aliases.normalize key ≠ "")
    (hchain : (g.chainFor context provided).value = .ok chain) (s : GateState) :
    (g.resolve s context key provided).value =
      (g.resolveIn s { g.begin key with chain }).value := by
  rw [resolve_of_chain hkey hchain s]

/-- Resolutions of a key that lead to the same chain are the same. -/
theorem value_resolve_congr {context' : Context} {provided' : Option Chain}
    (hchain : (g.chainFor context provided).value = .ok chain)
    (hchain' : (g.chainFor context' provided').value = .ok chain) (s : GateState) :
    (g.resolve s context key provided).value = (g.resolve s context' key provided').value := by
  by_cases hkey : g.aliases.normalize key = ""
  · rw [value_resolve_of_empty hkey, value_resolve_of_empty hkey]
  · rw [value_resolve_of_chain hkey hchain, value_resolve_of_chain hkey hchain']

end Start

/-- With an answer to its key and its chain, a resolution without a cache gives this answer. -/
theorem value_resolve_noop_of_answer? {context : Context} {key : String}
    {provided : Option Chain} {a : Answer} (hkey : g.aliases.normalize key ≠ "")
    (hchain : (g.chainFor context provided).value = .ok chain)
    (ha : g.answer? store (g.aliases.normalize key) chain = some a) :
    (g.resolve ⟨store, .noop⟩ context key provided).value.1 =
      ⟨.ok a.value, { g.begin key with chain }.withAnswer a⟩ := by
  rw [value_resolve_of_chain hkey hchain, value_resolveIn_noop,
    value_resolveFresh_of_answer? (t := { g.begin key with chain }) rfl ha]

/-- A resolution either fails without looking at the state, or it gets to a chain. -/
theorem resolve_cases (g : Gate) (context : Context) (key : String) (provided : Option Chain) :
    (∃ r, ∀ s, (g.resolve s context key provided).value = (r, s.cache)) ∨
      ∃ chain, (g.chainFor context provided).value = .ok chain ∧
        ∀ s, (g.resolve s context key provided).value =
          (g.resolveIn s { g.begin key with chain }).value := by
  by_cases hkey : g.aliases.normalize key = ""
  · exact .inl ⟨_, fun s => value_resolve_of_empty hkey s context provided⟩
  · cases hchain : (g.chainFor context provided).value with
    | error e => exact .inl ⟨_, value_resolve_of_chain_error hkey hchain⟩
    | ok chain => exact .inr ⟨chain, rfl, value_resolve_of_chain hkey hchain⟩

end Gate

end FeatureFlags
