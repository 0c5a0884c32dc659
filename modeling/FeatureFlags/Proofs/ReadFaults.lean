import FeatureFlags.Proofs.CacheCoherence
import FeatureFlags.Proofs.Effects
import FeatureFlags.Proofs.Precedence

/-!
# Reads that fail

A resolution reads the overrides of the canonical key, then those of its legacy keys, until one
of them decides.  Each of these reads may fail, also after others that did not decide.
`Gate.CutOff` says that this happens.

Then it is not known what the overrides say, and the resolution never guesses.  If the store is
strict it fails, and the defaults are not asked.  Otherwise it takes the answer of the defaults
and says so in the trace.  Neither is kept.  In every other case the answer is the one without
faults.
-/

namespace FeatureFlags

open Text (trim)

/-! ## Computations that do not ask the defaults -/

/-- The defaults are not asked. -/
def Observed.SparesDefaults {α : Type} (x : Observed α) : Prop :=
  ∀ key, Call.defaultFor key ∉ Effect.calls x.effects

namespace Observed.SparesDefaults

variable {α β : Type}

theorem pure (a : α) : (pure a : Observed α).SparesDefaults := fun _ h => nomatch h

theorem bind {x : Observed α} {f : α → Observed β} (hx : x.SparesDefaults)
    (hf : (f x.value).SparesDefaults) : (x >>= f).SparesDefaults := by
  intro key h
  rw [effects_bind, Effect.calls_append, List.mem_append] at h
  exact h.elim (hx key) (hf key)

/-- A computation whose effects exclude the look-up of a default spares the defaults. -/
theorem of_only {x : Observed α} {P : Effect → Prop} (h : x.Only P)
    (hP : ∀ key, ¬ P (.asked (.defaultFor key))) : x.SparesDefaults :=
  fun key hmem => hP key (h.of_mem_calls hmem)

end Observed.SparesDefaults

namespace Gate

open Observed (SparesDefaults)

variable {g : Gate} {f : Faults} {s : GateState} {store : OverrideStore} {key k : String}
  {chain : Chain} {reader : OverrideReader} {cause : Error} {keys : List String}

theorem sparesDefaults_fail (g : Gate) (t : Trace) (e : Error) : (g.fail t e).SparesDefaults := by
  intro key h
  rw [calls_fail] at h
  cases h

/-- The chain comes from the claims or is given, and neither asks for a default. -/
theorem sparesDefaults_chainFor (g : Gate) (context : Context) (provided : Option Chain) :
    (g.chainFor context provided).SparesDefaults := by
  refine .of_only (g.only_chainFor context provided) ?_
  intro key h
  cases h

/-- Only overrides are read while the overrides are asked. -/
theorem sparesDefaults_askOverrides (g : Gate) (store : OverrideStore) (t : Trace) :
    (g.askOverrides store t).SparesDefaults := by
  refine .of_only (g.only_askOverrides store t) ?_
  intro key h
  cases h

/-- Looking into the cache asks nobody, so what counts is the fresh resolution. -/
theorem sparesDefaults_resolveIn_of_miss {t : Trace}
    (hmiss : (s.cache.get t.normalizedKey t.chain).1 = none)
    (h : (g.resolveFresh s.store t).SparesDefaults) : (g.resolveIn s t).SparesDefaults := by
  rw [resolveIn]
  split
  · next hget =>
    rw [hget] at hmiss
    cases hmiss
  · refine .bind h ?_
    simp only
    split <;> exact .pure _

/-- Finding the chain asks for no default, so what counts is what happens after it. -/
theorem sparesDefaults_resolve_of_chain {context : Context} {provided : Option Chain}
    (hkey : g.aliases.normalize key ≠ "") (hchain : (g.chainFor context provided).value = .ok chain)
    (h : (g.resolveIn s { g.begin key with chain }).SparesDefaults) :
    (g.resolve s context key provided).SparesDefaults := by
  have hbegin : (g.begin key).normalizedKey ≠ "" := hkey
  simp only [resolve, hbegin, if_false]
  refine .bind (g.sparesDefaults_chainFor context provided) ?_
  rw [hchain]
  exact h

/-- A strict store keeps the defaults from being asked when the overrides cannot be read. -/
theorem sparesDefaults_resolveFresh_of_error {t : Trace} (hstrict : g.config.strictStore = true)
    (hreader : g.collaborators.reader = some reader)
    (h : (g.decideOverrides reader store t.chain t.normalizedKey).value = .error cause) :
    (g.resolveFresh store t).SparesDefaults := by
  refine .bind (g.sparesDefaults_askOverrides store t) ?_
  simp only [value_askOverrides_of_error hreader h, hstrict, if_true]
  exact .bind (g.sparesDefaults_fail _ _) (.pure _)

/-! ## Walks that are cut off -/

/-- The overrides of some keys are asked one after the other, and a read fails before any of them
decides. -/
inductive CutOff (g : Gate) (f : Faults) (reader : OverrideReader) (store : OverrideStore)
    (chain : Chain) : List String → Error → Prop where
  /-- The read of the first key fails. -/
  | here {k : String} {rest : List String} {cause : Error} : f.read k = some cause →
      CutOff g f reader store chain (k :: rest) cause
  /-- The first key is read and does not decide, and a later read fails. -/
  | later {k : String} {rest : List String} {cause : Error} : f.read k = none →
      Undecided (g.decision reader store chain k) → CutOff g f reader store chain rest cause →
      CutOff g f reader store chain (k :: rest) cause

/-- Without faults no walk is cut off. -/
theorem not_cutOff_nothing : ¬ g.CutOff {} reader store chain keys cause := by
  intro h
  induction h with
  | here hread => cases hread
  | later _ _ _ ih => exact ih

/-- Nothing fails but what is made to fail. -/
structure Reliable (g : Gate) : Prop where
  /-- Overrides can be read. -/
  reads : ∀ reader, g.collaborators.reader = some reader →
    ∀ store key chain, ∃ found, reader store key chain = .ok found
  /-- The strategy makes a decision of whatever is found. -/
  decides : ∀ key chain found order, ∃ d, g.collaborators.strategy.decide key chain found order =
    .ok d
  /-- Defaults can be looked up. -/
  defaults : ∀ key, ∃ d, g.collaborators.defaults key = .ok d

/-- A gate over the store with a strategy that goes by groups fails nowhere by itself. -/
theorem reliable_of_favouring {on : Bool} (hreader : g.collaborators.reader = some .ofStore)
    (hstrategy : g.collaborators.strategy = .favouring on)
    (hdefaults : ∀ key, ∃ d, g.collaborators.defaults key = .ok d) : g.Reliable where
  reads reader hr store key chain := by
    obtain rfl := Option.some.inj (hreader.symm.trans hr)
    exact ⟨_, rfl⟩
  decides key chain found order := by
    rw [hstrategy]
    exact ⟨_, Strategy.decide_favouring ..⟩
  defaults := hdefaults

section Reliable

variable (hg : g.Reliable) (hreader : g.collaborators.reader = some reader)

include hg hreader

/-- Where nothing fails, there is a decision about every key. -/
theorem Reliable.decision (store : OverrideStore) (chain : Chain) (key : String) :
    ∃ d, g.decision reader store chain key = .ok d := by
  obtain ⟨found, hfound⟩ := hg.reads reader hreader store key chain
  rw [Gate.decision, hfound]
  exact hg.decides key chain found _

/-- A gate on which nothing fails by itself is kept from a decision by a fault only. -/
theorem cutOff_of_firstFailure
    (h : FirstFailure ((g.withFaults f).decision (reader.withFaults f.read) store chain) keys
      cause) : g.CutOff f reader store chain keys cause := by
  induction h with
  | @here k rest cause hk =>
    rw [decision_withFaults] at hk
    cases hread : f.read k with
    | some e =>
      rw [hread] at hk
      exact .here (hread.trans (congrArg some (Except.error.inj hk)))
    | none =>
      obtain ⟨d, hd⟩ := hg.decision hreader store chain k
      rw [hread, hd] at hk
      cases hk
  | @later k rest cause hk _ ih =>
    obtain ⟨d, hd, hv⟩ := hk
    rw [decision_withFaults] at hd
    cases hread : f.read k with
    | some e =>
      rw [hread] at hd
      cases hd
    | none => exact .later hread ⟨d, eq_ok_of_orFault hd, hv⟩ ih

end Reliable

/-- Where only reads are made to fail, an answer is missing because the walk over the keys was cut
off. -/
theorem Reliable.cutOff_of_answer? (hg : g.Reliable) (hf : f.lookUp key = none)
    (h : (g.withFaults f).answer? store key chain = none) :
    ∃ reader cause, g.collaborators.reader = some reader ∧
      ((g.withFaults f).decideOverrides (reader.withFaults f.read) store chain key).value =
        .error cause ∧
      g.CutOff f reader store chain (key :: g.aliases.aliasesFor key) cause := by
  have ho : (g.withFaults f).overrides? store key chain = none := by
    rw [answer?] at h
    cases ho : (g.withFaults f).overrides? store key chain with
    | none => rfl
    | some o =>
      obtain ⟨d, hd⟩ := hg.defaults key
      have hd' : (g.withFaults f).collaborators.defaults key = .ok d := by
        simp only [withFaults, Defaults.withFaults, hf, hd, orFault]
      cases hv : o.verdict <;> simp [ho, hv, hd', Except.toOption] at h
  obtain ⟨reader', cause, hr, hcause⟩ := exists_error_of_overrides?_eq_none ho
  obtain ⟨reader, hreader, rfl⟩ := Option.map_eq_some_iff.1 hr
  exact ⟨reader, cause, hreader, hcause,
    cutOff_of_firstFailure hg hreader (decideOverrides_eq_error_iff.1 hcause)⟩

/-- Where nothing fails, there is an answer to every key and every chain. -/
theorem Reliable.exists_answer? (hg : g.Reliable) (store : OverrideStore) (key : String)
    (chain : Chain) : ∃ a, g.answer? store key chain = some a := by
  cases h : g.answer? store key chain with
  | some a => exact ⟨a, rfl⟩
  -- Without an answer the reads were cut off, and where nothing fails they never are.
  | none =>
    rw [← withFaults_nothing g] at h
    obtain ⟨_, _, -, -, hcut⟩ := hg.cutOff_of_answer? rfl h
    exact absurd hcut not_cutOff_nothing

/-! ## Resolutions that are cut off -/

/-- What a resolution comes to whose reads were cut off. -/
structure Degrades (g : Gate) (t : Trace) (cause : Error)
    (x : Observed (Resolution × ResolveCache)) : Prop where
  /-- The error is that of a failed read, and at its root it is the error of the reader. -/
  error : (g.readError t cause).code = .storeReadFailed ∧
    (g.readError t cause).rootCode = cause.rootCode
  /-- If the store is strict, the resolution fails, and the defaults are not asked. -/
  strict : g.config.strictStore = true →
    x.value.1 = ⟨.error (g.readError t cause),
      { t with
        value := false, source := .fallback,
        overrides := { error := some (g.readError t cause) } }⟩ ∧
      x.SparesDefaults
  /-- Otherwise it has the answer of the defaults, and the error stands in the trace. -/
  permissive : g.config.strictStore = false →
    ∀ d, g.collaborators.defaults t.normalizedKey = .ok d →
      x.value.1 = ⟨.ok d.given,
        t.withAnswer (.ofDefault { error := some (g.readError t cause) } d)⟩
  /-- No answer to the key and the chain is kept. -/
  forgotten : ∀ entry, ((t.normalizedKey, t.chain), entry) ∉ x.value.2.entries

/-- Where nothing is kept, a resolution whose overrides cannot be read degrades. -/
theorem degrades_resolveIn {t : Trace} (hmiss : (s.cache.get t.normalizedKey t.chain).1 = none)
    (hreader : g.collaborators.reader = some reader)
    (h : (g.decideOverrides reader s.store t.chain t.normalizedKey).value = .error cause) :
    g.Degrades t cause (g.resolveIn s t) := by
  have hfresh := value_resolveFresh_of_error hreader h
  have hvalue : (g.resolveIn s t).value = _ := value_resolveIn_of_miss hmiss
  constructor
  case error => exact ⟨rfl, rfl⟩
  case strict =>
    intro hstrict
    simp only [hstrict, if_true] at hfresh
    refine ⟨?_, sparesDefaults_resolveIn_of_miss hmiss ?_⟩
    · rw [hvalue, hfresh]
      rfl
    · exact sparesDefaults_resolveFresh_of_error hstrict hreader h
  case permissive =>
    intro hpermissive d hd
    let t' : Trace := { t with overrides := { error := some (g.readError t cause) } }
    have hdefault := value_resolveDefault_of_ok (t := t') hd false
    simp only [hpermissive, Bool.false_eq_true, if_false] at hfresh
    rw [hvalue, hfresh]
    exact congrArg Prod.fst hdefault
  case forgotten =>
    have hnone : g.answer? s.store t.normalizedKey t.chain = none := by
      simp only [answer?, overrides?, hreader, h, Option.bind_none]
    have hkeep := snd_value_resolveFresh_of_answer?_eq_none hnone
    intro entry
    simp only [hvalue, hkeep, Bool.false_eq_true, if_false]
    exact ResolveCache.not_mem_entries_of_fst_get_eq_none hmiss entry

/-- A degraded resolution is no repetition. -/
theorem Degrades.cacheHit {t : Trace} {x : Observed (Resolution × ResolveCache)}
    (h : g.Degrades t cause x) {d : DefaultResult}
    (hd : g.collaborators.defaults t.normalizedKey = .ok d) :
    x.value.1.trace.cacheHit = t.cacheHit := by
  cases hstrict : g.config.strictStore with
  | true => rw [(h.strict hstrict).1]
  | false =>
    rw [h.permissive hstrict d hd]
    rfl

/-! ## One resolution under faults -/

section Resolve

variable {context : Context} {asked : String} {provided : Option Chain}
  (hkey : g.aliases.normalize asked ≠ "") (hchain : (g.chainFor context provided).value = .ok chain)

include hkey hchain

theorem value_resolve_withFaults (f : Faults) (s : GateState) :
    ((g.withFaults f).resolve s context asked provided).value =
      ((g.withFaults f).resolveIn s { g.begin asked with chain }).value :=
  value_resolve_of_chain (g := g.withFaults f) hkey hchain s

/-- What is kept is repeated whatever fails now, since nobody is asked. -/
theorem unmarked_resolve_of_hit {a : Answer} {e : CacheEntry}
    (hget : (s.cache.get (g.aliases.normalize asked) chain).1 = some e) (he : e.Holds g a) :
    ((g.withFaults f).resolve s context asked provided).value.1.unmarked =
      ⟨.ok a.value, { g.begin asked with chain }.withAnswer a⟩ := by
  let t : Trace := { g.begin asked with chain }
  have hvalue : ((g.withFaults f).resolveIn s t).value = _ := value_resolveIn_of_hit (t := t) hget
  rw [value_resolve_withFaults hkey hchain, hvalue]
  exact unmarked_replay ⟨he.value, he.answer, he.strategy, he.mode⟩ rfl rfl

/-- A whole resolution degrades when the walk over its keys ends in an error. -/
theorem degrades_resolve (hlookUp : ∀ key, f.lookUp key = none)
    (hmiss : (s.cache.get (g.aliases.normalize asked) chain).1 = none)
    (hreader : g.collaborators.reader = some reader)
    (h : ((g.withFaults f).decideOverrides (reader.withFaults f.read) s.store chain
      (g.aliases.normalize asked)).value = .error cause) :
    g.Degrades { g.begin asked with chain } cause
      ((g.withFaults f).resolve s context asked provided) := by
  have hreader' : (g.withFaults f).collaborators.reader = some (reader.withFaults f.read) := by
    simp only [withFaults, hreader, Option.map_some]
  have hdegrades : (g.withFaults f).Degrades { g.begin asked with chain } cause
      ((g.withFaults f).resolveIn s { g.begin asked with chain }) :=
    degrades_resolveIn hmiss hreader' h
  have hvalue := value_resolve_withFaults hkey hchain f s
  constructor
  case error => exact ⟨rfl, rfl⟩
  case strict =>
    intro hstrict
    obtain ⟨hr, hspares⟩ := hdegrades.strict hstrict
    rw [hvalue]
    exact ⟨hr, sparesDefaults_resolve_of_chain hkey hchain hspares⟩
  case permissive =>
    intro hpermissive d hd
    rw [hvalue]
    refine hdegrades.permissive hpermissive d ?_
    simp only [withFaults, Defaults.withFaults, hlookUp]
    exact hd
  case forgotten =>
    rw [hvalue]
    exact hdegrades.forgotten

/-- Where nothing is kept, the answer without faults is given, or the reads were cut off. -/
theorem resolve_of_miss (hg : g.Reliable) (hlookUp : ∀ key, f.lookUp key = none)
    (hmiss : (s.cache.get (g.aliases.normalize asked) chain).1 = none) {a : Answer}
    (ha : g.answer? s.store (g.aliases.normalize asked) chain = some a) :
    let x := (g.withFaults f).resolve s context asked provided
    let canonical := g.aliases.normalize asked
    x.value.1 = ⟨.ok a.value, { g.begin asked with chain }.withAnswer a⟩ ∨
      ∃ reader cause, g.collaborators.reader = some reader ∧
        g.CutOff f reader s.store chain (canonical :: g.aliases.aliasesFor canonical) cause ∧
        g.Degrades { g.begin asked with chain } cause x := by
  intro x canonical
  cases ha' : (g.withFaults f).answer? s.store canonical chain with
  | some a' =>
    obtain rfl := Option.some.inj (ha.symm.trans (answer?_of_withFaults ha'))
    let t : Trace := { g.begin asked with chain }
    have hvalue : ((g.withFaults f).resolveIn s t).value = _ :=
      value_resolveIn_of_miss (t := t) hmiss
    left
    rw [value_resolve_withFaults hkey hchain, hvalue,
      value_resolveFresh_of_answer? (t := t) rfl ha']
  | none =>
    right
    obtain ⟨reader, cause, hreader, herror, hcut⟩ := hg.cutOff_of_answer? (hlookUp canonical) ha'
    exact ⟨reader, cause, hreader, hcut,
      degrades_resolve hkey hchain hlookUp hmiss hreader herror⟩

end Resolve

/-! ## The main theorem -/

/-- After any run that began without kept answers, whatever failed in it, a resolution under read
faults gives the answer without faults, or its reads were cut off and it degrades.  What is
repeated is always the answer without faults. -/
theorem resolve_under_read_faults (g : Gate) (hg : g.Reliable) (start : GateState)
    (hcache : start.cache.entries = []) (calls : List (Faults × Request)) (f : Faults)
    (hlookUp : ∀ key, f.lookUp key = none) (context : Context) (asked : String)
    (provided : Option Chain) (chain : Chain) (hasked : trim asked ≠ "")
    (hchain : (g.chainFor context provided).value = .ok chain) :
    let s := (g.runFaulty start calls).2
    let x := (g.withFaults f).resolve s context asked provided
    let r := x.value.1
    let ideal := (g.resolve (withoutCache s) context asked provided).value.1
    let canonical := g.aliases.normalize asked
    (ideal.result = .ok ideal.trace.value ∧ ideal.trace.error = none) ∧
    (r.trace.cacheHit = true → r.unmarked = ideal) ∧
    (r.unmarked = ideal ∨ ∃ reader cause, g.collaborators.reader = some reader ∧
      g.CutOff f reader s.store chain (canonical :: g.aliases.aliasesFor canonical) cause ∧
      g.Degrades { g.begin asked with chain } cause x) := by
  intro s x r ideal canonical
  have hs : g.Coherent s := coherent_runFaulty (coherent_of_entries_eq_nil hcache) calls
  have hkey : canonical ≠ "" := normalize_ne_empty hasked
  obtain ⟨a, ha⟩ := hg.exists_answer? s.store canonical chain
  have hideal : ideal = ⟨.ok a.value, { g.begin asked with chain }.withAnswer a⟩ :=
    value_resolve_noop_of_answer? hkey hchain ha
  rw [hideal]
  constructor
  · obtain ⟨ho, hd⟩ := error_of_answer? ha
    refine ⟨rfl, ?_⟩
    simp only [Trace.error, Trace.withAnswer, ho, hd]
    rfl
  · cases hget : (s.cache.get canonical chain).1 with
    -- A kept answer is repeated without a read, and coherence says which answer it is.
    | some e =>
      obtain ⟨a', ha', he⟩ := hs _ _ _ (ResolveCache.mem_entries_of_fst_get hget)
      obtain rfl := Option.some.inj (ha.symm.trans ha')
      have hr := unmarked_resolve_of_hit (f := f) hkey hchain hget he
      exact ⟨fun _ => hr, .inl hr⟩
    | none =>
      rcases resolve_of_miss hkey hchain hg hlookUp hget ha with hr | ⟨reader, cause, hcut⟩
      · have hr' : r.unmarked = _ := congrArg Resolution.unmarked hr
        exact ⟨fun _ => hr', .inl hr'⟩
      · obtain ⟨d, hd⟩ := hg.defaults canonical
        refine ⟨fun hhit => ?_, .inr ⟨reader, cause, hcut⟩⟩
        rw [hcut.2.2.cacheHit hd] at hhit
        cases hhit

/-- The overrides of the legacy key are out of reach. -/
def legacyDown : Faults where
  read key := if key = "old" then some (.adapter "down") else none

/-- The state after a question that found the legacy key out of reach. -/
def legacyDownState : GateState :=
  (Gate.renaming.runFaulty ⟨clearedStore, .lru (.ofCapacity 0)⟩
    [(legacyDown, .resolve (.ofClaims { tenantId := "t" }) "new" none)]).2

theorem resolve_under_read_faults_legacyDown :
    let context := Context.ofClaims { tenantId := "t" }
    let x := (Gate.renaming.withFaults legacyDown).resolve legacyDownState context " new " none
    (Gate.renaming.resolve (withoutCache legacyDownState) context " new " none).value.1.result =
        .ok true ∧
      x.value.1.result = .ok false ∧
      ∃ reader cause, Gate.renaming.collaborators.reader = some reader ∧
        Gate.renaming.CutOff legacyDown reader legacyDownState.store [.tenant "t", .system]
          ["new", "old"] cause ∧
        Gate.renaming.Degrades { Gate.renaming.begin " new " with chain := [.tenant "t", .system] }
          cause x := by
  have hreliable : Gate.renaming.Reliable :=
    reliable_of_favouring rfl (show _ = Strategy.favouring false from rfl) fun _ => ⟨.unset, rfl⟩
  have hchain : (Gate.renaming.chainFor (.ofClaims { tenantId := "t" }) none).value =
      .ok [.tenant "t", .system] := by decide +kernel
  have hkeys : Gate.renaming.aliases.normalize " new " = "new" ∧
      Gate.renaming.aliases.aliasesFor "new" = ["old"] := by decide +kernel
  have hideal : (Gate.renaming.resolve (withoutCache legacyDownState)
      (.ofClaims { tenantId := "t" }) " new " none).value.1.result = .ok true := by decide +kernel
  have hresult : ((Gate.renaming.withFaults legacyDown).resolve legacyDownState
      (.ofClaims { tenantId := "t" }) " new " none).value.1.result = .ok false := by decide +kernel
  obtain ⟨-, -, heq | h⟩ := resolve_under_read_faults .renaming hreliable
    ⟨clearedStore, .lru (.ofCapacity 0)⟩ rfl
    [(legacyDown, .resolve (.ofClaims { tenantId := "t" }) "new" none)] legacyDown (fun _ => rfl)
    (.ofClaims { tenantId := "t" }) " new " none _ (by decide) hchain
  · have hsame := congrArg Resolution.result heq
    rw [Resolution.result_unmarked, ← legacyDownState, hresult, hideal] at hsame
    cases hsame
  · simp only [hkeys.1, hkeys.2] at h
    exact ⟨hideal, hresult, h⟩

end Gate

end FeatureFlags
