import FeatureFlags.Proofs.Answer
import FeatureFlags.Proofs.LegacyKeys

/-!
# Why a resolution fails

Three layers of a resolution ask others: who the actor is, which overrides are stored, and what
the default is.  `Gate.Stops` says when a layer stops a resolution, and with the error of which
call.  Apart from an empty key there is no other reason to fail.

The error of the resolution is that of the call, wrapped once by the layer.
-/

namespace FeatureFlags

open Text (trim)

/-! ## Layers -/

/-- A layer of a resolution that asks collaborators. -/
inductive Layer where
  | claims
  | overrides
  | defaults
deriving DecidableEq, Repr

/-- The code of the errors of a layer. -/
def Layer.code : Layer → ErrorCode
  | claims => .scopeResolveFailed
  | overrides => .storeReadFailed
  | defaults => .defaultLookupFailed

namespace Gate

variable {g : Gate} {s : GateState} {store : OverrideStore} {context : Context} {key : String}
  {provided : Option Chain} {chain : Chain} {t : Trace} {cause e : Error}

/-- The error of a layer in a resolution with a trace. -/
def layerError (g : Gate) (t : Trace) (cause : Error) : Layer → Error
  | .claims => chainError t cause
  | .overrides => g.readError t cause
  | .defaults => defaultError t cause

theorem code_layerError (g : Gate) (t : Trace) (cause : Error) (layer : Layer) :
    (g.layerError t cause layer).code = layer.code := by
  cases layer with
  | claims => rfl
  | overrides => rfl
  | defaults => rfl

theorem rootCode_layerError (g : Gate) (t : Trace) (cause : Error) (layer : Layer) :
    (g.layerError t cause layer).rootCode = cause.rootCode := by
  cases layer with
  | claims => rfl
  | overrides => rfl
  | defaults => rfl

/-! ## The claims -/

/-- The claims of the actor, or the further permissions, are not to be had. -/
inductive LacksClaims (g : Gate) (context : Context) : Error → Prop where
  | claims {cause : Error} : g.collaborators.claims context = .error cause →
      LacksClaims g context cause
  | permissions {claims : Claims} {permissions : PermissionProvider} {cause : Error} :
      g.collaborators.claims context = .ok claims →
      g.collaborators.permissions = some permissions →
      permissions context claims = .error cause → LacksClaims g context cause

theorem value_fullClaims_of_lacksClaims (h : g.LacksClaims context cause) :
    (g.fullClaims context).value = .error cause := by
  cases h with
  | claims hclaims => simp only [fullClaims, Observed.value_bind, hclaims, Observed.value_pure]
  | permissions hclaims hpermissions hcause =>
    simp only [fullClaims, Observed.value_bind, hclaims, hpermissions, Observed.value_pure, hcause]
    rfl

theorem lacksClaims_of_value_fullClaims (h : (g.fullClaims context).value = .error cause) :
    g.LacksClaims context cause := by
  simp only [fullClaims, Observed.value_bind] at h
  cases hclaims : g.collaborators.claims context with
  | error e =>
    rw [hclaims] at h
    exact .claims (hclaims.trans h)
  | ok claims =>
    rw [hclaims] at h
    cases hpermissions : g.collaborators.permissions with
    | none =>
      rw [hpermissions] at h
      cases h
    | some permissions =>
      simp only [hpermissions, Observed.value_bind, Observed.value_pure] at h
      cases hcause : permissions context claims with
      | error e =>
        rw [hcause] at h
        exact .permissions hclaims hpermissions (hcause.trans (congrArg _ (Except.error.inj h)))
      | ok perms =>
        rw [hcause] at h
        cases h

theorem value_chainFor_of_lacksClaims (h : g.LacksClaims context cause) :
    (g.chainFor context none).value = (g.withoutClaims cause).value := by
  simp only [chainFor, Observed.value_bind, value_fullClaims_of_lacksClaims h]

/-- A gate that fails open and has no claims asks the fallback chain. -/
theorem value_chainFor_of_failOpen (hmode : g.config.claimsFailureMode = .failOpen)
    (h : g.LacksClaims context cause) :
    (g.chainFor context none).value = .ok g.failureChain := by
  rw [value_chainFor_of_lacksClaims h, withoutClaims, hmode]
  rfl

/-- There is no chain exactly when the claims are missing and the gate is fail-closed. -/
theorem value_chainFor_eq_error_iff :
    (g.chainFor context provided).value = .error cause ↔
      provided = none ∧ g.config.claimsFailureMode = .failClosed ∧
        g.LacksClaims context cause := by
  constructor
  · intro h
    cases provided with
    | some chain => cases h
    | none =>
      cases hclaims : (g.fullClaims context).value with
      | ok claims =>
        rw [value_chainFor_of_claims hclaims] at h
        cases h
      | error e =>
        have hlacks := lacksClaims_of_value_fullClaims hclaims
        rw [value_chainFor_of_lacksClaims hlacks, withoutClaims] at h
        cases hmode : g.config.claimsFailureMode with
        | failOpen =>
          rw [hmode] at h
          cases h
        | failClosed =>
          rw [hmode] at h
          obtain rfl := Except.error.inj h
          exact ⟨rfl, rfl, hlacks⟩
  · rintro ⟨rfl, hmode, hlacks⟩
    rw [value_chainFor_of_lacksClaims hlacks, withoutClaims, hmode]
    rfl

/-! ## The overrides and the defaults -/

/-- The overrides do not decide, or they cannot be read and this is not final. -/
def LeavesToDefaults (g : Gate) (store : OverrideStore) (key : String) (chain : Chain) : Prop :=
  match g.overrides? store key chain with
  | some o => o.verdict = none
  | none => g.config.strictStore = false

theorem result_resolveDefault_eq_error_iff {keep : Bool} :
    (g.resolveDefault t keep).value.1.result = .error e ↔
      ∃ cause, g.collaborators.defaults t.normalizedKey = .error cause ∧
        e = defaultError t cause := by
  cases h : g.collaborators.defaults t.normalizedKey with
  | ok d => simp [value_resolveDefault_of_ok h]
  | error cause => simp [value_resolveDefault_of_error h, eq_comm]

/-- A failure that stops a resolution at the overrides. -/
def FailsAtOverrides (g : Gate) (store : OverrideStore) (key : String) (chain : Chain)
    (cause : Error) : Prop :=
  ∃ reader, g.collaborators.reader = some reader ∧
    FirstFailure (g.decision reader store chain) (key :: g.aliases.aliasesFor key) cause

/-- The overrides are missing exactly when a read or the strategy fails. -/
theorem overrides?_eq_none_iff :
    g.overrides? store key chain = none ↔ ∃ cause, g.FailsAtOverrides store key chain cause := by
  constructor
  · intro h
    obtain ⟨reader, cause, hreader, hcause⟩ := exists_error_of_overrides?_eq_none h
    exact ⟨cause, reader, hreader, decideOverrides_eq_error_iff.1 hcause⟩
  · rintro ⟨cause, reader, hreader, hcause⟩
    simp only [overrides?, hreader, decideOverrides_eq_error_iff.2 hcause]

theorem value_resolveFresh_of_failsAtOverrides
    (h : g.FailsAtOverrides store t.normalizedKey t.chain cause) :
    (g.resolveFresh store t).value =
      let e := g.readError t cause
      if g.config.strictStore then
        ((g.fail { t with overrides := { error := some e } } e).value, false)
      else (g.resolveDefault { t with overrides := { error := some e } } false).value := by
  obtain ⟨reader, hreader, hcause⟩ := h
  exact value_resolveFresh_of_error hreader (decideOverrides_eq_error_iff.2 hcause)

/-- In a strict store the first failure at the overrides is the one that counts. -/
theorem result_resolveFresh_of_strict (hstrict : g.config.strictStore = true)
    (h : g.FailsAtOverrides store t.normalizedKey t.chain cause) :
    (g.resolveFresh store t).value.1.result = .error (g.readError t cause) := by
  rw [value_resolveFresh_of_failsAtOverrides h]
  simp only [hstrict, if_true]
  rfl

theorem result_resolveFresh_of_leavesToDefaults
    (h : g.LeavesToDefaults store t.normalizedKey t.chain) :
    (g.resolveFresh store t).value.1.result = .error e ↔
      ∃ cause, g.collaborators.defaults t.normalizedKey = .error cause ∧
        e = defaultError t cause := by
  rw [LeavesToDefaults] at h
  split at h
  · next o ho =>
    rw [value_resolveFresh_of_overrides? ho, h]
    exact result_resolveDefault_eq_error_iff
  · next ho =>
    obtain ⟨cause, hcause⟩ := overrides?_eq_none_iff.1 ho
    rw [value_resolveFresh_of_failsAtOverrides hcause]
    simp only [h, Bool.false_eq_true, if_false]
    exact result_resolveDefault_eq_error_iff

/-- Why the answer for a chain cannot be given. -/
theorem result_resolveFresh_eq_error_iff :
    (g.resolveFresh store t).value.1.result = .error e ↔
      (g.config.strictStore = true ∧ ∃ cause,
        g.FailsAtOverrides store t.normalizedKey t.chain cause ∧ e = g.readError t cause) ∨
      (g.LeavesToDefaults store t.normalizedKey t.chain ∧ ∃ cause,
        g.collaborators.defaults t.normalizedKey = .error cause ∧ e = defaultError t cause) := by
  constructor
  · intro h
    by_cases hleaves : g.LeavesToDefaults store t.normalizedKey t.chain
    · exact .inr ⟨hleaves, (result_resolveFresh_of_leavesToDefaults hleaves).1 h⟩
    · rw [LeavesToDefaults] at hleaves
      split at hleaves
      -- Overrides that decide are no failure.
      · next o ho =>
        obtain ⟨value, hv⟩ := Option.ne_none_iff_exists'.1 hleaves
        rw [value_resolveFresh_of_overrides? ho, hv] at h
        cases h
      · next ho =>
        have hstrict : g.config.strictStore = true := Bool.of_not_eq_false hleaves
        obtain ⟨cause, hcause⟩ := overrides?_eq_none_iff.1 ho
        rw [result_resolveFresh_of_strict hstrict hcause] at h
        exact .inl ⟨hstrict, cause, hcause, (Except.error.inj h).symm⟩
  · rintro (⟨hstrict, cause, hcause, rfl⟩ | ⟨hleaves, hcause⟩)
    · exact result_resolveFresh_of_strict hstrict hcause
    · exact (result_resolveFresh_of_leavesToDefaults hleaves).2 hcause

/-- What fails is not kept. -/
theorem snd_value_resolveFresh_of_error (h : (g.resolveFresh store t).value.1.result = .error e) :
    (g.resolveFresh store t).value.2 = false := by
  refine snd_value_resolveFresh_of_answer?_eq_none ?_
  rw [answer?]
  rcases result_resolveFresh_eq_error_iff.1 h with ⟨-, cause, hcause, -⟩ | ⟨hleaves, cause, hd, -⟩
  · rw [overrides?_eq_none_iff.2 ⟨cause, hcause⟩, Option.bind_none]
  · rw [LeavesToDefaults] at hleaves
    split at hleaves
    · next o ho => simp only [ho, Option.bind_some, hleaves, hd, Except.toOption, Option.map_none]
    · next ho => rw [ho, Option.bind_none]

/-! ## Resolutions -/

/-- A layer stops a resolution with the error of a call.  An answer that is kept for the chain
comes before all layers but the first. -/
inductive Stops (g : Gate) (s : GateState) (context : Context) (key : String)
    (provided : Option Chain) : Layer → Error → Prop where
  /-- No chain is given, the claims are not to be had, and this is final. -/
  | claims {cause : Error} : provided = none → g.config.claimsFailureMode = .failClosed →
      g.LacksClaims context cause → Stops g s context key provided .claims cause
  /-- The reader or the strategy fails before any key decides, and this is final. -/
  | overrides {chain : Chain} {cause : Error} :
      (g.chainFor context provided).value = .ok chain →
      (s.cache.get (g.aliases.normalize key) chain).1 = none → g.config.strictStore = true →
      g.FailsAtOverrides s.store (g.aliases.normalize key) chain cause →
      Stops g s context key provided .overrides cause
  /-- The overrides do not settle it, and the default cannot be asked. -/
  | defaults {chain : Chain} {cause : Error} :
      (g.chainFor context provided).value = .ok chain →
      (s.cache.get (g.aliases.normalize key) chain).1 = none →
      g.LeavesToDefaults s.store (g.aliases.normalize key) chain →
      g.collaborators.defaults (g.aliases.normalize key) = .error cause →
      Stops g s context key provided .defaults cause

/-- What stops a resolution that has a chain. -/
theorem stops_iff_of_chain (hchain : (g.chainFor context provided).value = .ok chain)
    {layer : Layer} :
    g.Stops s context key provided layer cause ↔
      (s.cache.get (g.aliases.normalize key) chain).1 = none ∧
        (layer = .overrides ∧ g.config.strictStore = true ∧
            g.FailsAtOverrides s.store (g.aliases.normalize key) chain cause ∨
          layer = .defaults ∧ g.LeavesToDefaults s.store (g.aliases.normalize key) chain ∧
            g.collaborators.defaults (g.aliases.normalize key) = .error cause) := by
  constructor
  · intro h
    cases h with
    | claims hprovided hmode hlacks =>
      have herror := value_chainFor_eq_error_iff.2 ⟨hprovided, hmode, hlacks⟩
      cases hchain.symm.trans herror
    | overrides hchain' hmiss hstrict hfails =>
      obtain rfl := Except.ok.inj (hchain.symm.trans hchain')
      exact ⟨hmiss, .inl ⟨rfl, hstrict, hfails⟩⟩
    | defaults hchain' hmiss hleaves hd =>
      obtain rfl := Except.ok.inj (hchain.symm.trans hchain')
      exact ⟨hmiss, .inr ⟨rfl, hleaves, hd⟩⟩
  · rintro ⟨hmiss, ⟨rfl, hstrict, hfails⟩ | ⟨rfl, hleaves, hd⟩⟩
    · exact .overrides hchain hmiss hstrict hfails
    · exact .defaults hchain hmiss hleaves hd

/-- Why a resolution that has a chain fails. -/
theorem result_resolve_eq_error_iff_of_chain (hkey : g.aliases.normalize key ≠ "")
    (hchain : (g.chainFor context provided).value = .ok chain) :
    let r := (g.resolve s context key provided).value.1
    r.result = .error e ↔ ∃ layer cause, g.Stops s context key provided layer cause ∧
      e = g.layerError r.trace cause layer := by
  let t : Trace := { g.begin key with chain }
  simp only [value_resolve_of_chain hkey hchain, stops_iff_of_chain hchain]
  cases hget : (s.cache.get (g.aliases.normalize key) chain).1 with
  | some entry =>
    have hhit : (g.resolveIn s t).value = _ := value_resolveIn_of_hit (t := t) hget
    constructor
    · intro h
      rw [hhit] at h
      cases h
    · rintro ⟨_, _, ⟨hmiss, -⟩, -⟩
      cases hmiss
  | none =>
    have hmiss : (g.resolveIn s t).value = _ := value_resolveIn_of_miss (t := t) hget
    obtain ⟨a, htrace, -⟩ := g.trace_resolveFresh s.store t
    rw [hmiss]
    simp only [htrace, result_resolveFresh_eq_error_iff]
    constructor
    · rintro (⟨hstrict, cause, hfails, rfl⟩ | ⟨hleaves, cause, hd, rfl⟩)
      · exact ⟨.overrides, cause, ⟨trivial, .inl ⟨rfl, hstrict, hfails⟩⟩, rfl⟩
      · exact ⟨.defaults, cause, ⟨trivial, .inr ⟨rfl, hleaves, hd⟩⟩, rfl⟩
    · rintro ⟨_, cause, ⟨-, ⟨rfl, hstrict, hfails⟩ | ⟨rfl, hleaves, hd⟩⟩, rfl⟩
      · exact .inl ⟨hstrict, cause, hfails, rfl⟩
      · exact .inr ⟨hleaves, cause, hd, rfl⟩

/-- A resolution of a key fails exactly when a layer stops it, with the error of this layer. -/
theorem result_resolve_eq_error_iff (hkey : g.aliases.normalize key ≠ "") :
    let r := (g.resolve s context key provided).value.1
    r.result = .error e ↔ ∃ layer cause, g.Stops s context key provided layer cause ∧
      e = g.layerError r.trace cause layer := by
  cases hchain : (g.chainFor context provided).value with
  | ok chain => exact result_resolve_eq_error_iff_of_chain hkey hchain
  | error cause =>
    obtain ⟨hprovided, hmode, hlacks⟩ := value_chainFor_eq_error_iff.1 hchain
    simp only [value_resolve_of_chain_error hkey hchain]
    constructor
    · intro h
      exact ⟨.claims, cause, .claims hprovided hmode hlacks, (Except.error.inj h).symm⟩
    · rintro ⟨_, cause', hstops, rfl⟩
      cases hstops with
      | claims _ _ hlacks' =>
        have hcause := value_chainFor_eq_error_iff.2 ⟨hprovided, hmode, hlacks'⟩
        obtain rfl := Except.error.inj (hchain.symm.trans hcause)
        rfl
      | overrides hchain' => cases hchain.symm.trans hchain'
      | defaults hchain' => cases hchain.symm.trans hchain'

/-! ## What a failure leaves behind -/

/-- A resolution that fails leaves the cache as it is. -/
theorem snd_value_resolve_of_error
    (h : (g.resolve s context key provided).value.1.result = .error e) :
    (g.resolve s context key provided).value.2 = s.cache := by
  rcases g.resolve_cases context key provided with ⟨r, hr⟩ | ⟨chain, -, hr⟩
  · rw [hr]
  · let t : Trace := { g.begin key with chain }
    rw [hr] at h ⊢
    cases hget : (s.cache.get t.normalizedKey t.chain).1 with
    | some entry =>
      rw [value_resolveIn_of_hit hget] at h
      cases h
    | none =>
      rw [value_resolveIn_of_miss hget] at h ⊢
      simp only [snd_value_resolveFresh_of_error h, Bool.false_eq_true, if_false]
      exact ResolveCache.snd_get_of_fst_get_eq_none hget

end Gate

end FeatureFlags
