import FeatureFlags.Proofs.MemberOrder

/-!
# Reading back what was written

A decoder gives back what its encoder wrote (`GivesBack`).  A document may also hold only some of
the members that were written, and members with other names beside them (`PartOf`).  Then a field
that is left out has its default, and is missed if it has none (`Requires`).

A configuration is checked after it is read, so reading it back leads to the result of the check.
-/

namespace FeatureFlags

namespace Json

open JsonTree

variable {α : Type} {decode : Json → Option α} {t v : Json} {keep : String → Bool} {name : String}
  {ms fs : List (String × Json)} {a otherwise : α}

/-! ## Documents that are written in part -/

/-- The members of an object. -/
def members : Json → List (String × Json)
  | .obj members => members
  | _ => []

/-- The value has the members of an object that are kept, in any order, and members with names
that are not in the object. -/
def PartOf (t whole : Json) (keep : String → Bool) : Prop :=
  ∃ extra : List (String × Json), (∀ m ∈ extra, m.1 ∉ whole.members.map Prod.fst) ∧
    t.Reordered (.obj (whole.members.filter (fun m => keep m.1) ++ extra))

/-- The decoder gives back what the encoder wrote, whatever the order of members. -/
def GivesBack (encode : α → Json) (decode : Json → Option α) : Prop :=
  ∀ a t, t.Reordered (encode a) → decode t = some a

/-- The decoder reads no object without a member of the name. -/
def Requires (decode : Json → Option α) (name : String) : Prop :=
  ∀ members : List (String × Json), name ∉ members.map Prod.fst → decode (.obj members) = none

/-- A decoder that ignores order need only give back what is written in one order. -/
theorem givesBack_of_ignoresOrder {encode : α → Json} (hdecode : IgnoresOrder decode)
    (h : ∀ a, decode (encode a) = some a) : GivesBack encode decode :=
  fun a _ ht => (hdecode ht).trans (h a)

/-- The whole is the part of which every member is kept. -/
theorem partOf_self (ms : List (String × Json)) :
    PartOf (.obj ms) (.obj ms) fun _ => true := by
  refine ⟨[], fun _ hm => (nomatch hm), ?_⟩
  rw [List.append_nil, List.filter_eq_self.2 fun _ _ => rfl]
  exact .refl _

/-- The fields of a part are the members that are kept. -/
theorem PartOf.fields? (h : t.PartOf (.obj ms) keep) (names : List String)
    (hnames : ms.map Prod.fst = names) (hnodup : names.Nodup) :
    ∃ fs, t.fields? names = some fs ∧ SameFields fs (ms.filter fun m => keep m.1) := by
  subst hnames
  obtain ⟨extra, hextra, ht⟩ := h
  have hnone : (extra.filter fun m => (ms.map Prod.fst).contains m.1) = [] := by
    refine List.filter_eq_nil_iff.2 fun m hm => ?_
    rw [List.contains_iff_mem]
    exact hextra m hm
  have hkept : ((ms.filter (fun m => keep m.1) ++ extra).filter fun m =>
      (ms.map Prod.fst).contains m.1) = ms.filter fun m => keep m.1 := by
    rw [List.filter_append, hnone, List.append_nil]
    refine List.filter_eq_self.2 fun m hm => ?_
    rw [List.contains_iff_mem]
    exact List.mem_map_of_mem (List.mem_filter.1 hm).1
  have hsub : ((ms.filter fun m => keep m.1).map Prod.fst).Nodup :=
    hnodup.sublist (List.filter_sublist.map _)
  have hrel := ht.fields?_rel (ms.map Prod.fst)
  rw [fields?_obj, known?] at hrel
  simp only [members, hkept, if_pos hsub] at hrel
  generalize t.fields? (ms.map Prod.fst) = fs at hrel ⊢
  cases hrel with
  | some hsame => exact ⟨_, rfl, hsame⟩

/-- A field is found among the members that are kept exactly when its name is kept. -/
theorem field?_filter (ms : List (String × Json)) (keep : String → Bool) (name : String) :
    field? (ms.filter fun m => keep m.1) name =
      if keep name then field? ms name else none := by
  induction ms with
  | nil => simp [field?]
  | cons m rest ih =>
    obtain ⟨a, v⟩ := m
    rw [field?_eq_lookup, field?_eq_lookup] at ih ⊢
    rw [List.filter_cons, Dict.lookup_cons]
    by_cases ha : a = name
    · subst ha
      by_cases hk : keep a
      · rw [if_pos hk, Dict.lookup_cons, if_pos rfl, if_pos hk, if_pos rfl]
      · rw [if_neg hk, ih, if_neg hk, if_neg hk]
    · rw [if_neg ha, ← ih]
      split
      · rw [Dict.lookup_cons, if_neg ha]
      · rfl

namespace SameFields

/-- A field that has to be given is missed exactly when it is left out. -/
theorem required?_part (h : SameFields fs (ms.filter fun m => keep m.1))
    (name : String) (hdecode : IgnoresOrder decode) (hv : field? ms name = some v)
    (ha : decode v = some a) :
    required? fs name decode = if keep name then some a else none := by
  rw [h.required?_eq hdecode, required?, field?_filter]
  split
  · rw [hv, Option.bind_some, ha]
  · rfl

/-- A field that need not be given has its default exactly when it is left out. -/
theorem optional?_part (h : SameFields fs (ms.filter fun m => keep m.1))
    (name : String) (hdecode : IgnoresOrder decode) (hv : field? ms name = some v)
    (ha : decode v = some a) :
    optional? fs name decode otherwise = some (if keep name then a else otherwise) := by
  rw [h.optional?_eq hdecode, optional?, field?_filter]
  split
  · rw [hv]
    exact ha
  · rfl

end SameFields

/-- Without a member of the name a record misses the field. -/
theorem requires_record {names : List String} {read : List (String × Json) → Option α}
    (h : ∀ fs, field? fs name = none → read fs = none) :
    Requires (fun t : Json => (t.fields? names).bind read) name := by
  intro ms hname
  show ((.obj ms : Json).fields? names).bind read = none
  rw [fields?_obj, known?]
  split
  · refine h _ ?_
    rw [field?_eq_lookup, Dict.lookup_eq_none_iff]
    exact fun hmem => hname ((List.filter_sublist.map _).subset hmem)
  · rfl

/-- A list is given back when its items are. -/
theorem list?_map {encode : α → Json} (h : ∀ a, decode (encode a) = some a) (l : List α) :
    list? decode (.arr (l.map encode)) = some l := by
  induction l with
  | nil => rfl
  | cons a rest ih =>
    rw [list?] at ih ⊢
    rw [List.map_cons, all?, h, Option.bind_some, ih, Option.map_some]

theorem list?_ofTexts (texts : List String) : list? text? (Json.ofTexts texts) = some texts :=
  list?_map (show ∀ s : String, text? (.str s : Json) = some s from fun _ => rfl) texts

end Json

open Json JsonTree

variable {t : Json} {keep : String → Bool}

/-! ## Names -/

theorem ScopeKind.decode?_encode (k : ScopeKind) : decode? k.encode = some k :=
  ScopeKind.ofName?_name k

theorem OverrideState.decode?_encode (s : OverrideState) : decode? s.encode = some s :=
  OverrideState.ofName?_name s

theorem ClaimsFailureMode.decode?_encode (m : ClaimsFailureMode) : decode? m.encode = some m :=
  ClaimsFailureMode.ofName?_name m

/-! ## Scopes and chains -/

namespace Scope

/-- The scope without the identifiers that are left out. -/
def keeping (s : Scope) (keep : String → Bool) : Scope where
  kind := s.kind
  id := if keep "id" then s.id else ""
  tenantId := if keep "tenantId" then s.tenantId else ""
  orgId := if keep "orgId" then s.orgId else ""

/-- Only empty identifiers are left out. -/
def LeavesOutEmpty (s : Scope) (keep : String → Bool) : Prop :=
  (keep "id" = false → s.id = "") ∧ (keep "tenantId" = false → s.tenantId = "") ∧
    (keep "orgId" = false → s.orgId = "")

/-- A scope loses nothing when only empty identifiers are left out. -/
theorem keeping_eq_self_iff {s : Scope} : s.keeping keep = s ↔ s.LeavesOutEmpty keep := by
  obtain ⟨kind, id, tenantId, orgId⟩ := s
  simp only [keeping, LeavesOutEmpty, mk.injEq, true_and, ite_eq_left_iff, Bool.not_eq_true,
    eq_comm (a := "")]

/-- A part of a written scope gives back what is kept, if its kind is. -/
theorem decode?_of_partOf (s : Scope) (h : t.PartOf s.encode keep) :
    decode? t = if keep "kind" then some (s.keeping keep) else none := by
  obtain ⟨fs, hfs, hsame⟩ := h.fields? ["kind", "id", "tenantId", "orgId"] rfl (by decide)
  simp only [decode?, hfs, Option.bind_eq_bind, Option.bind_some,
    hsame.required?_part "kind" ignoresOrder_kind rfl s.kind.decode?_encode,
    hsame.optional?_part "id" ignoresOrder_text? rfl rfl,
    hsame.optional?_part "tenantId" ignoresOrder_text? rfl rfl,
    hsame.optional?_part "orgId" ignoresOrder_text? rfl rfl]
  split
  · rfl
  · rfl

theorem decode?_encode (s : Scope) : decode? s.encode = some s :=
  s.decode?_of_partOf (partOf_self _)

/-- The kind is the one field of a scope that has no default. -/
theorem requires_kind : Requires (decode? : Json → Option Scope) "kind" :=
  requires_record fun fs hfs => by
    simp only [required?, hfs, Option.bind_none, Option.bind_eq_bind]

end Scope

theorem Chain.decode?_encode (c : Chain) : Chain.decode? (Chain.encode c) = some c :=
  list?_map Scope.decode?_encode c

/-! ## Claims, actors and matches -/

namespace Claims

/-- The claims without those that are left out. -/
def keeping (c : Claims) (keep : String → Bool) : Claims where
  subjectId := if keep "subjectId" then c.subjectId else ""
  tenantId := if keep "tenantId" then c.tenantId else ""
  orgId := if keep "orgId" then c.orgId else ""
  roles := if keep "roles" then c.roles else []
  perms := if keep "perms" then c.perms else []

/-- Only empty claims are left out. -/
def LeavesOutEmpty (c : Claims) (keep : String → Bool) : Prop :=
  (keep "subjectId" = false → c.subjectId = "") ∧ (keep "tenantId" = false → c.tenantId = "") ∧
    (keep "orgId" = false → c.orgId = "") ∧ (keep "roles" = false → c.roles = []) ∧
    (keep "perms" = false → c.perms = [])

/-- Claims lose nothing when only empty ones are left out. -/
theorem keeping_eq_self_iff {c : Claims} : c.keeping keep = c ↔ c.LeavesOutEmpty keep := by
  obtain ⟨subjectId, tenantId, orgId, roles, perms⟩ := c
  simp only [keeping, LeavesOutEmpty, mk.injEq, ite_eq_left_iff, Bool.not_eq_true,
    eq_comm (a := ""), eq_comm (a := ([] : List String))]

/-- A part of written claims gives back what is kept, since every claim may be left out. -/
theorem decode?_of_partOf (c : Claims) (h : t.PartOf c.encode keep) :
    decode? t = some (c.keeping keep) := by
  obtain ⟨fs, hfs, hsame⟩ :=
    h.fields? ["subjectId", "tenantId", "orgId", "roles", "perms"] rfl (by decide)
  simp only [decode?, hfs, Option.bind_eq_bind, Option.bind_some,
    hsame.optional?_part "subjectId" ignoresOrder_text? rfl rfl,
    hsame.optional?_part "tenantId" ignoresOrder_text? rfl rfl,
    hsame.optional?_part "orgId" ignoresOrder_text? rfl rfl,
    hsame.optional?_part "roles" (ignoresOrder_list? ignoresOrder_text?) rfl
      (list?_ofTexts c.roles),
    hsame.optional?_part "perms" (ignoresOrder_list? ignoresOrder_text?) rfl
      (list?_ofTexts c.perms)]
  rfl

theorem decode?_encode (c : Claims) : decode? c.encode = some c :=
  c.decode?_of_partOf (partOf_self _)

end Claims

namespace Actor

theorem decode?_encode (a : Actor) : decode? a.encode = some a := rfl

/-- No field of an actor may be left out. -/
theorem requires_of_mem {name : String} (h : name ∈ ["id", "type", "name"]) :
    Requires (decode? : Json → Option Actor) name := by
  refine requires_record fun fs hfs => ?_
  have hmissed : required? fs name (text? : Json → Option String) = none := by
    rw [required?, hfs, Option.bind_none]
  rcases List.mem_cons.1 h with rfl | h
  · simp only [hmissed, Option.bind_eq_bind, Option.bind_none]
  rcases List.mem_cons.1 h with rfl | h
  · simp only [hmissed, Option.bind_eq_bind, Option.bind_none, Option.bind_fun_none]
  · obtain rfl := List.mem_singleton.1 h
    simp only [hmissed, Option.bind_eq_bind, Option.bind_none, Option.bind_fun_none]

end Actor

namespace OverrideMatch

theorem decode?_encode (m : OverrideMatch) : decode? m.encode = some m := by
  have hfields : m.encode.fields? ["scope", "state"] =
      some [("scope", m.scope.encode), ("state", m.state.encode)] := rfl
  have hscope : required? [("scope", m.scope.encode), ("state", m.state.encode)] "scope"
      Scope.decode? = some m.scope := m.scope.decode?_encode
  have hstate : required? [("scope", m.scope.encode), ("state", m.state.encode)] "state"
      OverrideState.decode? = some m.state := m.state.decode?_encode
  simp only [decode?, hfields, hscope, hstate, Option.bind_eq_bind, Option.bind_some]
  rfl

/-- Neither the scope nor the state of a match may be left out. -/
theorem requires_of_mem {name : String} (h : name ∈ ["scope", "state"]) :
    Requires (decode? : Json → Option OverrideMatch) name := by
  refine requires_record fun fs hfs => ?_
  rcases List.mem_cons.1 h with rfl | h
  · simp only [required?, hfs, Option.bind_eq_bind, Option.bind_none]
  · obtain rfl := List.mem_singleton.1 h
    simp only [required?, hfs, Option.bind_eq_bind, Option.bind_none, Option.bind_fun_none]

end OverrideMatch

/-! ## Configurations -/

namespace GateConfig

/-- Pairs of texts are given back in the order in which they were written. -/
theorem entries?_ofEntries (l : List (String × String)) :
    entries? text? (.obj (l.map fun e => (e.1, .str e.2)) : Json) = some l := by
  induction l with
  | nil => rfl
  | cons e rest ih =>
    rw [List.map_cons, entries?_cons, ih]
    rfl

/-- The dictionary of legacy keys is made again from its own entries. -/
theorem decodeAliases?_encodeAliases (aliases : Dict String String) :
    decodeAliases? (encodeAliases aliases) = some aliases := by
  rw [decodeAliases?, encodeAliases, entries?_ofEntries, Option.map_some, Dict.ofList_entries]

/-- The configuration with the default in every field that is left out. -/
def keeping (c : GateConfig) (keep : String → Bool) : GateConfig :=
  let dflt : GateConfig := {}
  { scopeOrder := if keep "scopeOrder" then c.scopeOrder else dflt.scopeOrder
    claimsFailureMode :=
      if keep "claimsFailureMode" then c.claimsFailureMode else dflt.claimsFailureMode
    strictStore := if keep "strictStore" then c.strictStore else dflt.strictStore
    preserveRolePermOrder :=
      if keep "preserveRolePermOrder" then c.preserveRolePermOrder else dflt.preserveRolePermOrder
    appendSystemOnFailure :=
      if keep "appendSystemOnFailure" then c.appendSystemOnFailure else dflt.appendSystemOnFailure
    appendSystemOnProvidedChain :=
      if keep "appendSystemOnProvidedChain" then c.appendSystemOnProvidedChain
      else dflt.appendSystemOnProvidedChain
    failureFallbackChain :=
      if keep "failureFallbackChain" then c.failureFallbackChain else dflt.failureFallbackChain
    aliases := if keep "aliases" then c.aliases else dflt.aliases }

/-- A part of a written configuration gives back what is kept, with defaults for the rest. -/
theorem decode?_of_partOf (c : GateConfig) (h : t.PartOf c.encode keep) :
    decode? t = some (c.keeping keep) := by
  obtain ⟨fs, hfs, hsame⟩ := h.fields? fieldNames rfl (by decide)
  simp only [decode?, hfs, Option.bind_eq_bind, Option.bind_some,
    hsame.optional?_part "scopeOrder" (ignoresOrder_list? ignoresOrder_kind) rfl
      (list?_map ScopeKind.decode?_encode c.scopeOrder),
    hsame.optional?_part "claimsFailureMode" ignoresOrder_mode rfl
      c.claimsFailureMode.decode?_encode,
    hsame.optional?_part "strictStore" ignoresOrder_bool? rfl rfl,
    hsame.optional?_part "preserveRolePermOrder" ignoresOrder_bool? rfl rfl,
    hsame.optional?_part "appendSystemOnFailure" ignoresOrder_bool? rfl rfl,
    hsame.optional?_part "appendSystemOnProvidedChain" ignoresOrder_bool? rfl rfl,
    hsame.optional?_part "failureFallbackChain" ignoresOrder_chain rfl
      c.failureFallbackChain.decode?_encode,
    hsame.optional?_part "aliases" ignoresOrder_decodeAliases? rfl
      (decodeAliases?_encodeAliases c.aliases)]
  rfl

theorem decode?_encode (c : GateConfig) : decode? c.encode = some c :=
  c.decode?_of_partOf (partOf_self _)

/-- What is decoded has still to pass the check. -/
theorem ofTree_of_decode? {c : GateConfig} (h : decode? t = some c) : ofTree t = c.validate := by
  rw [ofTree, h]

/-- The check keeps a configuration as it is, or it says that the configuration is at fault. -/
theorem validate_eq_self_or_error (c : GateConfig) :
    c.validate = .ok c ∨ ∃ e, c.validate = .error e ∧ e.code = .configInvalid := by
  rw [validate]
  cases c.incompleteScope? with
  | none => exact .inl rfl
  | some s => exact .inr ⟨incompleteError s, rfl, rfl⟩

end GateConfig

/-! ## The main theorem -/

/-- What is written is read back, whatever the order of members.  A configuration is checked on
the way.  If only part of it is written the rest has its defaults, and members with other names
are passed over.  The identifiers of a scope and all claims may be left out too, and are empty
then.  The kind of a scope and the fields of actors and matches may not. -/
theorem written_values_read_back :
    (∀ (c : GateConfig) (t : Json),
      (t.Reordered c.encode → GateConfig.ofTree t = c.validate) ∧
      (∀ keep, t.PartOf c.encode keep → GateConfig.ofTree t = (c.keeping keep).validate) ∧
      (c.validate = .ok c ∨ ∃ e, c.validate = .error e ∧ e.code = .configInvalid)) ∧
    GivesBack Scope.encode Scope.decode? ∧ GivesBack Chain.encode Chain.decode? ∧
    GivesBack Claims.encode Claims.decode? ∧ GivesBack Actor.encode Actor.decode? ∧
    GivesBack OverrideMatch.encode OverrideMatch.decode? ∧
    (∀ (s : Scope) (t : Json) keep, t.PartOf s.encode keep → keep "kind" = true →
      Scope.decode? t = some (s.keeping keep) ∧
        (Scope.decode? t = some s ↔ s.LeavesOutEmpty keep)) ∧
    (∀ (c : Claims) (t : Json) keep, t.PartOf c.encode keep →
      Claims.decode? t = some (c.keeping keep) ∧
        (Claims.decode? t = some c ↔ c.LeavesOutEmpty keep)) ∧
    Requires Scope.decode? "kind" ∧
    (∀ name ∈ ["id", "type", "name"], Requires Actor.decode? name) ∧
    ∀ name ∈ ["scope", "state"], Requires OverrideMatch.decode? name := by
  refine ⟨fun c t => ⟨fun h => ?_, fun keep h => ?_, c.validate_eq_self_or_error⟩,
    givesBack_of_ignoresOrder ignoresOrder_scope Scope.decode?_encode,
    givesBack_of_ignoresOrder ignoresOrder_chain Chain.decode?_encode,
    givesBack_of_ignoresOrder ignoresOrder_claims Claims.decode?_encode,
    givesBack_of_ignoresOrder ignoresOrder_actor Actor.decode?_encode,
    givesBack_of_ignoresOrder ignoresOrder_match OverrideMatch.decode?_encode,
    fun s t keep h hkind => ?_, fun c t keep h => ?_, Scope.requires_kind,
    fun _ => Actor.requires_of_mem, fun _ => OverrideMatch.requires_of_mem⟩
  · exact GateConfig.ofTree_of_decode?
      (givesBack_of_ignoresOrder ignoresOrder_config GateConfig.decode?_encode c t h)
  · exact GateConfig.ofTree_of_decode? (c.decode?_of_partOf h)
  · have hread := s.decode?_of_partOf h
    rw [if_pos hkind] at hread
    rw [hread]
    exact ⟨rfl, Option.some_inj.trans Scope.keeping_eq_self_iff⟩
  · rw [c.decode?_of_partOf h]
    exact ⟨rfl, Option.some_inj.trans Claims.keeping_eq_self_iff⟩

/-- A configuration with a legacy key and a fallback chain. -/
def strictConfig : GateConfig where
  claimsFailureMode := .failClosed
  strictStore := true
  failureFallbackChain := [.tenant "public", ⟨.user, "guest", "", ""⟩]
  aliases := .ofList [("old", "new")]

theorem written_values_read_back_strictConfig :
    GateConfig.ofTree strictConfig.encode = .ok strictConfig ∧
    GateConfig.ofTree (.obj [("note", .null), ("claimsFailureMode", .str "fail_closed"),
      ("strictStore", .bool true)] : Json) =
        .ok { claimsFailureMode := .failClosed, strictStore := true } ∧
    Scope.decode? (⟨.user, "guest", "", ""⟩ : Scope).encode = some ⟨.user, "guest", "", ""⟩ ∧
    Scope.decode? (.obj [("kind", .str "user"), ("id", .str "guest")] : Json) =
      some ⟨.user, "guest", "", ""⟩ ∧
    Claims.decode? (.obj [] : Json) = some {} ∧
    Scope.decode? (.obj [("id", .str "guest")] : Json) = none ∧
    Actor.decode? (.obj [("id", .str "ann"), ("name", .str "Ann")] : Json) = none ∧
    OverrideMatch.decode? (.obj [("state", .str "enabled")] : Json) = none := by
  obtain ⟨hconfig, hscope, -, -, -, -, hscopePart, hclaimsPart, hkind, hactor, hmatch⟩ :=
    written_values_read_back
  have hwhole := (hconfig strictConfig strictConfig.encode).1 (.refl _)
  let kept : List (String × Json) :=
    [("claimsFailureMode", .str "fail_closed"), ("strictStore", .bool true)]
  let extra : List (String × Json) := [("note", .null)]
  have hreordered : Reordered (.obj (extra ++ kept)) (.obj (kept ++ extra)) :=
    reordered_of_perm (List.perm_append_comm : (extra ++ kept).Perm _) (by decide) []
  have hpart : PartOf (.obj (extra ++ kept)) strictConfig.encode
      fun name => name = "claimsFailureMode" ∨ name = "strictStore" :=
    ⟨extra, by decide, hreordered⟩
  refine ⟨hwhole.trans rfl, ((hconfig _ _).2.1 _ hpart).trans rfl, hscope _ _ (.refl _), ?_, ?_,
    hkind _ (by decide), hactor "type" (by decide) _ (by decide),
    hmatch "scope" (by decide) _ (by decide)⟩
  · exact (hscopePart ⟨.user, "guest", "", ""⟩ _ (fun name => name = "kind" ∨ name = "id")
      ⟨[], nofun, .refl _⟩ rfl).1
  · exact (hclaimsPart {} _ (fun _ => false) ⟨[], nofun, .refl _⟩).1

end FeatureFlags
