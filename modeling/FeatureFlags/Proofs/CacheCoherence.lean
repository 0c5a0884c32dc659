import FeatureFlags.Proofs.Answer
import FeatureFlags.Proofs.LegacyKeys
import FeatureFlags.Proofs.Run

/-!
# Cache coherence

A cache is coherent when every answer in it is the answer that the gate would give now, read
afresh from the store.  No request breaks this, whatever calls of the collaborators fail while
it is answered: a resolution keeps an answer only when nothing failed on the way to it, and a
change that reaches the store at all empties the cache.

So a gate with a cache replies as one without.  Only the mark of a repeated answer differs.
-/

namespace FeatureFlags

/-! ## Coherent caches -/

/-- A kept answer is the given one, as the gate gives it. -/
structure CacheEntry.Holds (e : CacheEntry) (g : Gate) (a : Answer) : Prop where
  /-- The value that is repeated. -/
  value : e.value = a.value
  /-- The answer in the trace that is repeated. -/
  answer : e.trace.answer = a
  /-- The trace names the strategy of the gate. -/
  strategy : e.trace.strategy = g.collaborators.strategy.name
  /-- The trace names the mode of the gate. -/
  mode : e.trace.claimsFailureMode = g.config.claimsFailureMode

namespace Gate

variable {g : Gate} {f : Faults} {s : GateState} {store : OverrideStore} {key : String}
  {chain : Chain} {a : Answer}

/-- Every kept answer is the answer that the store gives now. -/
def Coherent (g : Gate) (s : GateState) : Prop :=
  ∀ key chain e, ((key, chain), e) ∈ s.cache.entries →
    ∃ a, g.answer? s.store key chain = some a ∧ e.Holds g a

/-- A cache that holds nothing is coherent. -/
theorem coherent_of_entries_eq_nil (h : s.cache.entries = []) : g.Coherent s := by
  intro key chain e he
  rw [h] at he
  cases he

/-! ## Faults take answers away and change none -/

/-- Under faults the decision about a key is the old one, or the fault of its read. -/
theorem decision_withFaults (g : Gate) (f : Faults) (reader : OverrideReader)
    (store : OverrideStore) (chain : Chain) (key : String) :
    (g.withFaults f).decision (reader.withFaults f.read) store chain key =
      orFault (f.read key) (g.decision reader store chain key) := by
  rw [decision, OverrideReader.withFaults]
  cases f.read key <;> rfl

/-- A decision that is made under faults is the decision without them. -/
theorem decision_of_withFaults {reader : OverrideReader} {d : Decision}
    (h : (g.withFaults f).decision (reader.withFaults f.read) store chain key = .ok d) :
    g.decision reader store chain key = .ok d :=
  eq_ok_of_orFault ((g.decision_withFaults f reader store chain key).symm.trans h)

/-- An answer that is given under faults is the answer without them. -/
theorem answer?_of_withFaults (h : (g.withFaults f).answer? store key chain = some a) :
    g.answer? store key chain = some a := by
  refine answer?_mono (g := g.withFaults f) rfl ?_ ?_ ?_ h
  · simp [withFaults]
  · intro reader hr
    obtain ⟨base, hbase, rfl⟩ := Option.map_eq_some_iff.1 hr
    exact ⟨base, hbase, fun _ _ => decision_of_withFaults⟩
  · exact fun d hd => eq_ok_of_orFault hd

/-- Faults of writes take no answer away. -/
theorem answer?_withFaults_of_answer? (hf : f.OnWritesOnly)
    (h : g.answer? store key chain = some a) :
    (g.withFaults f).answer? store key chain = some a := by
  refine answer?_mono (g := g) rfl ?_ ?_ ?_ h
  · intro hr
    simp [withFaults, hr]
  · intro reader hr
    refine ⟨reader.withFaults f.read, by simp [withFaults, hr], fun k d hd => ?_⟩
    rw [decision_withFaults, (hf k).1]
    exact hd
  · intro d hd
    simp only [withFaults, Defaults.withFaults, (hf key).2]
    exact hd

/-! ## One request -/

/-- What a coherent cache holds after a look-up was there before. -/
theorem Coherent.get (hs : g.Coherent s) (key : String) (chain : Chain) :
    g.Coherent ⟨s.store, (s.cache.get key chain).2⟩ :=
  fun k c e he => hs k c e (ResolveCache.mem_entries_of_mem_get he)

/-- A resolution keeps only an answer that the store gives now, since a fault leaves no answer to
keep. -/
theorem coherent_resolveIn (hs : g.Coherent s) (key : String) (chain : Chain) :
    g.Coherent ⟨s.store,
      ((g.withFaults f).resolveIn s { (g.withFaults f).begin key with chain }).value.2⟩ := by
  generalize ht : { (g.withFaults f).begin key with chain } = t
  cases hget : (s.cache.get t.normalizedKey t.chain).1 with
  | some e =>
    rw [value_resolveIn_of_hit hget]
    exact hs.get _ _
  | none =>
    rw [value_resolveIn_of_miss hget]
    cases ha : (g.withFaults f).answer? s.store t.normalizedKey t.chain with
    | none =>
      simp only [snd_value_resolveFresh_of_answer?_eq_none ha]
      exact hs.get _ _
    | some a =>
      rw [value_resolveFresh_of_answer? (by subst ht; rfl) ha]
      intro k c e he
      rcases ResolveCache.mem_entries_of_mem_put he with heq | he
      · obtain ⟨⟨rfl, rfl⟩, rfl⟩ := heq
        refine ⟨a, answer?_of_withFaults ha, ?_⟩
        subst ht
        exact ⟨rfl, rfl, rfl, rfl⟩
      · exact hs.get _ _ k c e he

/-- A change leaves the state as it was, or it empties the cache. -/
theorem update_cases (g : Gate) (s : GateState) (key : String) (scope : Scope)
    (value : Option Bool) (actor : Actor) :
    (g.update s key scope value actor).value.2 = s ∨
      (g.update s key scope value actor).value.2.cache = s.cache.clear := by
  unfold update
  split
  · exact .inl rfl
  · next c writer _ =>
    simp only [Observed.value_bind]
    split
    · exact .inl rfl
    · exact .inr rfl

/-- No request breaks coherence, whatever fails while it is answered. -/
theorem coherent_step (hs : g.Coherent s) (q : Request) :
    g.Coherent ((g.withFaults f).step s q).2 := by
  cases q with
  | resolve context key provided =>
    rcases resolve_cases (g.withFaults f) context key provided with ⟨r, hr⟩ | ⟨chain, -, hr⟩
    · simp only [step, hr]
      exact hs
    · simp only [step, hr]
      exact coherent_resolveIn hs key chain
  | update key scope value actor =>
    rcases update_cases (g.withFaults f) s key scope value actor with h | h
    · simp only [step, h]
      exact hs
    · exact coherent_of_entries_eq_nil (by simp only [step, h, ResolveCache.entries_clear])

theorem coherent_step_nothing (hs : g.Coherent s) (q : Request) : g.Coherent (g.step s q).2 := by
  have h := coherent_step (f := {}) hs q
  rwa [withFaults_nothing] at h

/-! ## Runs -/

/-- The cache stays coherent through every run, by induction on its requests. -/
theorem coherent_runFaulty (hs : g.Coherent s) (calls : List (Faults × Request)) :
    g.Coherent (g.runFaulty s calls).2 := by
  induction calls generalizing s with
  | nil => exact hs
  | cons call rest ih => exact ih (coherent_step hs call.2)

/-- A run without faults keeps the cache coherent. -/
theorem coherent_run (hs : g.Coherent s) (requests : List Request) :
    g.Coherent (g.run s requests).2 :=
  runFaulty_nothing g s requests ▸ coherent_runFaulty hs _

theorem coherent_run_update (hs : g.Coherent s) (key : String) (scope : Scope)
    (value : Option Bool) (actor : Actor) (later : List Request) :
    g.Coherent (g.run (g.update s key scope value actor).value.2 later).2 :=
  coherent_run (coherent_step_nothing hs (.update key scope value actor)) later

end Gate

/-! ## The mark of a repeated answer -/

/-- The trace without the mark of a repeated answer. -/
def Trace.unmarked (t : Trace) : Trace := { t with cacheHit := false }

/-- The resolution without the mark of a repeated answer. -/
def Resolution.unmarked (r : Resolution) : Resolution := { r with trace := r.trace.unmarked }

theorem Resolution.result_unmarked (r : Resolution) : r.unmarked.result = r.result := rfl

theorem Resolution.outcome_unmarked (r : Resolution) : r.unmarked.outcome = r.outcome := rfl

/-- The reply without the mark of a repeated answer. -/
def Reply.unmarked : Reply → Reply
  | .resolved r => .resolved r.unmarked
  | .updated result => .updated result

namespace Gate

variable {g : Gate} {f : Faults} {s : GateState}

/-- A repeated answer is the answer itself, but for the mark. -/
theorem unmarked_replay {t : Trace} {e : CacheEntry} {a : Answer} (he : e.Holds g a)
    (hstrategy : t.strategy = g.collaborators.strategy.name)
    (hmode : t.claimsFailureMode = g.config.claimsFailureMode) :
    (g.replay t e).value.unmarked = Resolution.unmarked ⟨.ok a.value, t.withAnswer a⟩ := by
  obtain ⟨value, trace⟩ := e
  obtain ⟨hvalue, hanswer, hs, hm⟩ := he
  subst hanswer
  simp only at hvalue hs hm
  subst hvalue
  simp only [replay, Observed.value_bind, Observed.value_pure, Resolution.unmarked, Trace.unmarked,
    Trace.withAnswer, Trace.answer, hs, hm, hstrategy, hmode]

/-- A coherent cache makes no difference to the answer for a chain, unless reads fail. -/
theorem unmarked_resolveIn (hs : g.Coherent s) (hf : f.OnWritesOnly) (key : String)
    (chain : Chain) :
    let gf := g.withFaults f
    let t := { gf.begin key with chain }
    (gf.resolveIn s t).value.1.unmarked = (gf.resolveIn ⟨s.store, .noop⟩ t).value.1.unmarked := by
  intro gf t
  rw [value_resolveIn_noop]
  cases hget : (s.cache.get t.normalizedKey t.chain).1 with
  | none => rw [value_resolveIn_of_miss hget]
  | some e =>
    obtain ⟨a, ha, he⟩ := hs _ _ _ (ResolveCache.mem_entries_of_fst_get hget)
    have ha' : gf.answer? s.store t.normalizedKey t.chain = some a :=
      answer?_withFaults_of_answer? hf ha
    rw [value_resolveIn_of_hit hget, value_resolveFresh_of_answer? rfl ha']
    exact unmarked_replay ⟨he.value, he.answer, he.strategy, he.mode⟩ rfl rfl

/-! ## Without a cache -/

/-- The state without the kept answers, and without a place to keep any. -/
def withoutCache (s : GateState) : GateState := ⟨s.store, .noop⟩

/-- A whole resolution is the same without a cache, unless reads fail, and then nothing is kept. -/
theorem resolve_withoutCache (hs : g.Coherent s) (hf : f.OnWritesOnly) (context : Context)
    (key : String) (provided : Option Chain) :
    ((g.withFaults f).resolve (withoutCache s) context key provided).value.1.unmarked =
        ((g.withFaults f).resolve s context key provided).value.1.unmarked ∧
      ((g.withFaults f).resolve (withoutCache s) context key provided).value.2 = .noop := by
  rcases resolve_cases (g.withFaults f) context key provided with ⟨r, hr⟩ | ⟨chain, -, hr⟩
  · rw [hr, hr]
    exact ⟨rfl, rfl⟩
  · rw [hr, hr, withoutCache]
    refine ⟨(unmarked_resolveIn hs hf key chain).symm, ?_⟩
    rw [value_resolveIn_noop]

/-- Without faults, a resolution from a coherent cache is the one without a cache, but for the mark.
-/
theorem unmarked_resolve (hs : g.Coherent s) (context : Context) (key : String)
    (provided : Option Chain) :
    (g.resolve s context key provided).value.1.unmarked =
      (g.resolve (withoutCache s) context key provided).value.1.unmarked := by
  have h := (resolve_withoutCache (f := {}) hs (fun _ => ⟨rfl, rfl⟩) context key provided).1
  rw [withFaults_nothing] at h
  exact h.symm

theorem result_resolve_withoutCache (hs : g.Coherent s) (context : Context) (key : String)
    (provided : Option Chain) :
    (g.resolve s context key provided).value.1.result =
      (g.resolve (withoutCache s) context key provided).value.1.result := by
  rw [← Resolution.result_unmarked, unmarked_resolve hs, Resolution.result_unmarked]

theorem outcome_resolve_withoutCache (hs : g.Coherent s) (context : Context) (key : String)
    (provided : Option Chain) :
    (g.resolve s context key provided).value.1.outcome =
      (g.resolve (withoutCache s) context key provided).value.1.outcome := by
  rw [← Resolution.outcome_unmarked, unmarked_resolve hs, Resolution.outcome_unmarked]

/-- With overrides that do not decide, a resolution is left to the defaults. -/
theorem outcome_resolve_of_undecided {context : Context} {key : String} {provided : Option Chain}
    {chain : Chain} {o : OverrideTrace} (hs : g.Coherent s) (hkey : g.aliases.normalize key ≠ "")
    (hchain : (g.chainFor context provided).value = .ok chain)
    (ho : g.overrides? s.store (g.aliases.normalize key) chain = some o) (hv : o.verdict = none) :
    (g.resolve s context key provided).value.1.outcome =
      g.defaultOutcome (g.aliases.normalize key) := by
  rw [outcome_resolve_withoutCache hs, withoutCache, value_resolve_of_chain hkey hchain,
    value_resolveIn_noop, value_resolveFresh_of_overrides? (t := { g.begin key with chain }) ho, hv]
  exact outcome_resolveDefault ..

/-- With an answer to its key and its chain, a resolution gives this answer, repeated or not. -/
theorem resolve_of_answer? {context : Context} {key : String} {provided : Option Chain}
    {chain : Chain} {a : Answer} (hs : g.Coherent s) (hkey : g.aliases.normalize key ≠ "")
    (hchain : (g.chainFor context provided).value = .ok chain)
    (ha : g.answer? s.store (g.aliases.normalize key) chain = some a) :
    (g.resolve s context key provided).value.1.result = .ok a.value ∧
      (g.resolve s context key provided).value.1.trace.answer = a := by
  have h := unmarked_resolve hs context key provided
  rw [withoutCache, value_resolve_noop_of_answer? hkey hchain ha] at h
  have hresult : (g.resolve s context key provided).value.1.result = .ok a.value :=
    congrArg Resolution.result h
  have hanswer : (g.resolve s context key provided).value.1.trace.answer = a :=
    congrArg (fun r : Resolution => r.trace.answer) h
  exact ⟨hresult, hanswer⟩

/-- With an answer, the result, the value and the layer are those of the answer. -/
theorem outcome_resolve_of_answer? {context : Context} {key : String} {provided : Option Chain}
    {chain : Chain} {a : Answer} (hs : g.Coherent s) (hkey : g.aliases.normalize key ≠ "")
    (hchain : (g.chainFor context provided).value = .ok chain)
    (ha : g.answer? s.store (g.aliases.normalize key) chain = some a) :
    (g.resolve s context key provided).value.1.outcome = (some a.value, a.value, a.source) := by
  obtain ⟨hresult, hanswer⟩ := resolve_of_answer? hs hkey hchain ha
  rw [Resolution.outcome, hresult, ← hanswer]
  rfl

/-- A change does not look into the cache. -/
theorem value_update_withoutCache (g : Gate) (s : GateState) (key : String) (scope : Scope)
    (value : Option Bool) (actor : Actor) :
    (g.update (withoutCache s) key scope value actor).value =
      ((g.update s key scope value actor).value.1,
        withoutCache (g.update s key scope value actor).value.2) := by
  unfold update
  split
  · rfl
  · simp only [Observed.value_bind, withoutCache]
    split <;> rfl

/-- Each request is answered the same without a cache, and leaves the same store. -/
theorem step_withoutCache (hs : g.Coherent s) (hf : f.OnWritesOnly) (q : Request) :
    ((g.withFaults f).step (withoutCache s) q).1.unmarked =
        ((g.withFaults f).step s q).1.unmarked ∧
      ((g.withFaults f).step (withoutCache s) q).2 =
        withoutCache ((g.withFaults f).step s q).2 := by
  cases q with
  | resolve context key provided =>
    obtain ⟨hreply, hcache⟩ := resolve_withoutCache hs hf context key provided
    simp only [step, Reply.unmarked, hreply, hcache]
    exact ⟨trivial, rfl⟩
  | update key scope value actor =>
    simp only [step, value_update_withoutCache, and_self]

/-- A run is answered the same without a cache, by induction on its requests. -/
theorem unmarked_runFaulty (hs : g.Coherent s) (calls : List (Faults × Request))
    (hcalls : ∀ call ∈ calls, call.1.OnWritesOnly) :
    (g.runFaulty s calls).1.map Reply.unmarked =
      (g.runFaulty (withoutCache s) calls).1.map Reply.unmarked := by
  induction calls generalizing s with
  | nil => rfl
  | cons call rest ih =>
    obtain ⟨hcall, hrest⟩ := List.forall_mem_cons.1 hcalls
    obtain ⟨hreply, hstate⟩ := step_withoutCache hs hcall call.2
    simp only [runFaulty, List.map_cons, hreply, hstate, ih (coherent_step hs call.2) hrest]

/-! ## The main theorem -/

/-- The resolution of a canonical key in a chain by the overrides in a store, without a cache and
without faults. -/
def uncached (g : Gate) (store : OverrideStore) (key : String) (chain : Chain) : Resolution :=
  (g.resolveIn ⟨store, .noop⟩ { g.begin key with normalizedKey := key, chain }).value.1

/-- With an answer to a key and a chain, the fresh resolution gives it. -/
theorem uncached_of_answer? {store : OverrideStore} {key : String} {chain : Chain} {a : Answer}
    (ha : g.answer? store key chain = some a) :
    g.uncached store key chain =
      ⟨.ok a.value, { g.begin key with normalizedKey := key, chain }.withAnswer a⟩ := by
  rw [uncached, value_resolveIn_noop,
    value_resolveFresh_of_answer? (t := { g.begin key with normalizedKey := key, chain }) rfl ha]

/-- After any run, whatever failed in it, a kept answer is the one the store gives now to its key
and its chain, under every spelling of the key.  When only writes fail, the gate replies as a
gate without a cache does. -/
theorem cache_transparent (g : Gate) (capacity : Nat) (store : OverrideStore)
    (calls : List (Faults × Request)) :
    let run := g.runFaulty ⟨store, .lru (.ofCapacity capacity)⟩ calls
    (∀ key chain e, ((key, chain), e) ∈ run.2.cache.entries →
      let r := g.uncached run.2.store key chain
      (r.result = .ok e.value ∧ r.trace.error = none ∧ r.trace.answer = e.trace.answer) ∧
      ∀ context asked provided, Text.trim asked ≠ "" → g.aliases.normalize asked = key →
        (g.chainFor context provided).value = .ok chain →
        let r := (g.resolve ⟨run.2.store, .noop⟩ context asked provided).value.1
        r.result = .ok e.value ∧ r.trace.answer = e.trace.answer) ∧
    ((∀ call ∈ calls, call.1.OnWritesOnly) →
      run.1.map Reply.unmarked = (g.runFaulty ⟨store, .noop⟩ calls).1.map Reply.unmarked) := by
  intro run
  have hstart : g.Coherent ⟨store, .lru (.ofCapacity capacity)⟩ := coherent_of_entries_eq_nil rfl
  refine ⟨fun key chain e he => ?_, unmarked_runFaulty hstart calls⟩
  obtain ⟨a, ha, hvalue, hanswer, -, -⟩ := coherent_runFaulty hstart calls key chain e he
  obtain ⟨ho, hd⟩ := error_of_answer? ha
  rw [hvalue, hanswer, uncached_of_answer? ha]
  refine ⟨⟨rfl, ?_, rfl⟩, fun context asked provided hasked hkey hchain => ?_⟩
  · simp only [Trace.error, Trace.withAnswer, ho, hd]
    rfl
  · subst hkey
    have hcanonical : g.aliases.normalize asked ≠ "" := fun h =>
      hasked ((g.consistent_aliases.normalize_eq_empty_iff asked).1 h)
    rw [value_resolve_noop_of_answer? hcanonical hchain ha]
    exact ⟨rfl, rfl⟩

/-- A change that fails under the legacy key, and then a question under either key. -/
def halfAWrite : List (Faults × Request) :=
  [({ write := fun key => if key = "old" then some (.adapter "down") else none },
      .update "new" .system (some true) ⟨"ann", "user", "Ann"⟩),
    ({}, .resolve {} "old" none), ({}, .resolve {} " new " none)]

theorem cache_transparent_halfAWrite :
    let run := Gate.renaming.runFaulty ⟨.empty, .lru (.ofCapacity 0)⟩ halfAWrite
    ∃ e, (("new", [Scope.system]), e) ∈ run.2.cache.entries ∧ e.value = true ∧
      (Gate.renaming.uncached run.2.store "new" [.system]).result = .ok e.value ∧
      (Gate.renaming.resolve ⟨run.2.store, .noop⟩ {} "old" none).value.1.result = .ok e.value ∧
      run.1.map Reply.unmarked =
        (Gate.renaming.runFaulty ⟨.empty, .noop⟩ halfAWrite).1.map Reply.unmarked := by
  have hkept : (("new", [Scope.system]), true) ∈
      (Gate.renaming.runFaulty ⟨.empty, .lru (.ofCapacity 0)⟩ halfAWrite).2.cache.entries.map
        fun e => (e.1, e.2.value) := by decide +kernel
  obtain ⟨⟨_, e⟩, he, heq⟩ := List.mem_map.1 hkept
  obtain ⟨rfl, hvalue⟩ := Prod.mk.inj heq
  obtain ⟨hentries, hreplies⟩ := cache_transparent .renaming 0 .empty halfAWrite
  obtain ⟨⟨hresult, -, -⟩, hasked⟩ := hentries _ _ e he
  refine ⟨e, he, hvalue, hresult, (hasked {} "old" none (by decide) rfl rfl).1, hreplies ?_⟩
  simp only [halfAWrite, List.forall_mem_cons]
  exact ⟨fun _ => ⟨rfl, rfl⟩, fun _ => ⟨rfl, rfl⟩, fun _ => ⟨rfl, rfl⟩, fun _ h => nomatch h⟩

end Gate

end FeatureFlags
