import FeatureFlags.GateConfig

/-!
# The order of members

The members of an object stand in a list, but their order means nothing.  Values that differ in
this order only, at any depth, are `Reordered`.  A decoder `IgnoresOrder` when it reads the same off
such values.

Decoders are built from a few parts, and each part keeps the order out.  A record looks for its
fields by name, so it is enough that the same names are found with the same values up to order
(`SameFields`).  The pairs of legacy and canonical keys are put into a dictionary, where entries of
different keys may come in either order.
-/

namespace FeatureFlags

namespace Json

/-! ## Reordered values -/

/-- The values differ at most in the order of the members of objects. -/
inductive Reordered : Json → Json → Prop where
  | refl (t : Json) : Reordered t t
  | trans {t u v : Json} : Reordered t u → Reordered u v → Reordered t v
  /-- Two neighbours with different names change places. -/
  | swap {a b : String × Json} (before after : List (String × Json)) : a.1 ≠ b.1 →
      Reordered (.obj (before ++ a :: b :: after)) (.obj (before ++ b :: a :: after))
  /-- One item of an array is reordered. -/
  | item {t u : Json} (before after : List Json) : Reordered t u →
      Reordered (.arr (before ++ t :: after)) (.arr (before ++ u :: after))
  /-- The value of one member is reordered. -/
  | member {t u : Json} (name : String) (before after : List (String × Json)) : Reordered t u →
      Reordered (.obj (before ++ (name, t) :: after)) (.obj (before ++ (name, u) :: after))

/-- Members with different names may come in any order. -/
theorem reordered_of_perm {l l' : List (String × Json)} (h : l.Perm l')
    (hnodup : (l.map Prod.fst).Nodup) (before : List (String × Json)) :
    Reordered (.obj (before ++ l)) (.obj (before ++ l')) := by
  induction h generalizing before with
  | nil => exact .refl _
  | cons a _ ih =>
    have hrest := ih (List.nodup_cons.1 hnodup).2 (before ++ [a])
    rw [List.append_assoc, List.append_assoc] at hrest
    exact hrest
  | swap a b l =>
    have hne : b.1 ≠ a.1 := fun heq => (List.nodup_cons.1 hnodup).1 (heq ▸ List.mem_cons_self)
    exact .swap before l hne
  | trans h _ ih ih' =>
    exact .trans (ih hnodup before) (ih' ((h.map Prod.fst).nodup_iff.1 hnodup) before)

/-! ## Decoders -/

section Decoders

open JsonTree

variable {α : Type} {t u : Json} {decode : Json → Option α}

/-- The decoder reads the same off values that differ in the order of members only. -/
def IgnoresOrder (decode : Json → Option α) : Prop :=
  ∀ ⦃t u : Json⦄, t.Reordered u → decode t = decode u

/-- Order does not matter to a function that tells neither arrays nor objects apart. -/
theorem Reordered.apply_eq {β : Type} (f : Json → β) {compound : β}
    (harr : ∀ items, f (.arr items) = compound) (hobj : ∀ members, f (.obj members) = compound)
    (h : t.Reordered u) : f t = f u := by
  induction h with
  | refl => rfl
  | trans _ _ ih ih' => exact ih.trans ih'
  | swap => rw [hobj, hobj]
  | item => rw [harr, harr]
  | member => rw [hobj, hobj]

theorem Reordered.isNull_eq (h : t.Reordered u) : t.isNull = u.isNull :=
  h.apply_eq isNull (fun _ => rfl) fun _ => rfl

theorem ignoresOrder_text? : IgnoresOrder (text? : Json → Option String) :=
  fun _ _ h => h.apply_eq text? (fun _ => rfl) fun _ => rfl

theorem ignoresOrder_bool? : IgnoresOrder (bool? : Json → Option Bool) :=
  fun _ _ h => h.apply_eq bool? (fun _ => rfl) fun _ => rfl

/-- A name is not an object with two members. -/
theorem name?_obj_of_two {ofName? : String → Option α} {before after : List (String × Json)}
    {a b : String × Json} : name? ofName? (.obj (before ++ a :: b :: after)) = none := by
  cases before with
  | nil => rfl
  | cons c before =>
    cases before with
    | nil => rfl
    | cons d before => rfl

/-- A name is a text, or an object whose one member has the value null. -/
theorem ignoresOrder_name? (ofName? : String → Option α) :
    IgnoresOrder (name? ofName? : Json → Option α) := by
  intro t u h
  induction h with
  | refl => rfl
  | trans _ _ ih ih' => exact ih.trans ih'
  | swap before after _ => rw [name?_obj_of_two, name?_obj_of_two]
  | item => rfl
  | @member t u name before after h _ =>
    cases before with
    | nil =>
      cases after with
      | nil => simp only [List.nil_append, name?, h.isNull_eq]
      | cons c after => rfl
    | cons c before =>
      cases before with
      | nil => rfl
      | cons d before => rfl

/-- Items are decoded one by one, so one item may be replaced by another that is decoded the same.
-/
theorem all?_append_cons {decode : Json → Option α} (h : decode t = decode u)
    (before after : List Json) :
    all? decode (before ++ t :: after) = all? decode (before ++ u :: after) := by
  induction before with
  | nil => rw [List.nil_append, List.nil_append, all?, all?, h]
  | cons v before ih => rw [List.cons_append, List.cons_append, all?, all?, ih]

/-- A list ignores order when its items do.  The order of the items themselves is kept. -/
theorem ignoresOrder_list? (hdecode : IgnoresOrder decode) :
    IgnoresOrder (list? decode : Json → Option (List α)) := by
  intro t u h
  induction h with
  | refl => rfl
  | trans _ _ ih ih' => exact ih.trans ih'
  | swap => rfl
  | item before after h _ => exact all?_append_cons (hdecode h) before after
  | member => rfl

/-! ## Fields -/

/-- In a parsed value every name is a text already. -/
theorem named?_eq (members : List (String × Json)) : named? members = some members := by
  induction members with
  | nil => rfl
  | cons m rest ih =>
    obtain ⟨name, v⟩ := m
    rw [named?, ih]
    rfl

theorem fields?_obj (names : List String) (members : List (String × Json)) :
    fields? names (.obj members) = known? names members := by
  rw [fields?, named?_eq, Option.bind_some]

/-- A field is looked up by its name among the members that a record knows. -/
theorem field?_eq_lookup (fields : List (String × Json)) (name : String) :
    field? fields name = fields.lookup name := by
  induction fields with
  | nil => rfl
  | cons m rest ih =>
    obtain ⟨a, v⟩ := m
    rw [Dict.lookup_cons, ← ih, field?, field?]
    by_cases h : a = name
    · simp [h]
    · simp [h]

/-- The same names are found, with values that differ in the order of members only. -/
def SameFields (fs gs : List (String × Json)) : Prop :=
  ∀ name, Option.Rel Reordered (field? fs name) (field? gs name)

theorem rel_reordered_refl (v : Option Json) : Option.Rel Reordered v v := by
  cases v with
  | none => exact .none
  | some t => exact .some (.refl t)

namespace SameFields

variable {fs gs hs : List (String × Json)}

/-- Equal values differ in nothing. -/
theorem of_eq (h : ∀ name, field? fs name = field? gs name) : SameFields fs gs := by
  intro name
  rw [h name]
  exact rel_reordered_refl _

theorem trans (h : SameFields fs gs) (h' : SameFields gs hs) : SameFields fs hs := by
  intro name
  have hname := h name
  have hname' := h' name
  generalize field? fs name = v at hname ⊢
  generalize field? gs name = w at hname hname'
  cases hname with
  | none => exact hname'
  | some hvw =>
    generalize field? hs name = x at hname' ⊢
    cases hname' with
    | some hwx => exact .some (.trans hvw hwx)

/-- The values of one field may differ in the order of their members. -/
theorem cons (h : t.Reordered u) (hrest : SameFields fs gs) (name : String) :
    SameFields ((name, t) :: fs) ((name, u) :: gs) := by
  intro a
  have ha := hrest a
  simp only [field?_eq_lookup, Dict.lookup_cons] at ha ⊢
  split
  · exact .some h
  · exact ha

/-- It does not matter at which place the field stands. -/
theorem append_cons (h : t.Reordered u) (name : String) (before after : List (String × Json)) :
    SameFields (before ++ (name, t) :: after) (before ++ (name, u) :: after) := by
  induction before with
  | nil => exact cons h (of_eq fun _ => rfl) name
  | cons m before ih => exact cons (.refl m.2) ih m.1

/-- A record may be an array too, in which the fields stand in the order of their names. -/
theorem zip_append_cons (h : t.Reordered u) (names : List String) (before after : List Json) :
    SameFields (names.zip (before ++ t :: after)) (names.zip (before ++ u :: after)) := by
  induction before generalizing names with
  | nil =>
    cases names with
    | nil => exact of_eq fun _ => rfl
    | cons name names => exact cons h (of_eq fun _ => rfl) name
  | cons v before ih =>
    cases names with
    | nil => exact of_eq fun _ => rfl
    | cons name names => exact cons (.refl v) (ih names) name

/-- A field that has to be there is read the same, if the decoder of its value ignores order. -/
theorem required?_eq (h : SameFields fs gs) (hdecode : IgnoresOrder decode) (name : String) :
    required? fs name decode = required? gs name decode := by
  rw [required?, required?]
  have hname := h name
  generalize field? fs name = v at hname ⊢
  generalize field? gs name = w at hname ⊢
  cases hname with
  | none => rfl
  | some hvw => exact hdecode hvw

/-- A field that may be left out is read the same, or left out on both sides. -/
theorem optional?_eq (h : SameFields fs gs) (hdecode : IgnoresOrder decode) (name : String)
    (otherwise : α) : optional? fs name decode otherwise = optional? gs name decode otherwise := by
  rw [optional?, optional?]
  have hname := h name
  generalize field? fs name = v at hname ⊢
  generalize field? gs name = w at hname ⊢
  cases hname with
  | none => rfl
  | some hvw => exact hdecode hvw

end SameFields

/-- When no name comes twice, a field is found wherever it stands. -/
theorem sameFields_of_perm {fs gs : List (String × Json)} (h : fs.Perm gs)
    (hnodup : (fs.map Prod.fst).Nodup) : SameFields fs gs := by
  refine .of_eq fun name => Option.ext fun v => ?_
  rw [field?_eq_lookup, field?_eq_lookup, Dict.lookup_eq_some_iff hnodup,
    Dict.lookup_eq_some_iff ((h.map Prod.fst).nodup_iff.1 hnodup), h.mem_iff]

/-- Of members in another order a record knows the same fields, and names that come twice are
refused on both sides. -/
theorem known?_rel_of_perm {l l' : List (String × Json)} (h : l.Perm l') (names : List String) :
    Option.Rel SameFields (known? names l) (known? names l') := by
  have hknown := h.filter fun m => names.contains m.1
  simp only [known?]
  by_cases hnodup : ((l.filter fun m => names.contains m.1).map Prod.fst).Nodup
  · rw [if_pos hnodup, if_pos ((hknown.map Prod.fst).nodup_iff.1 hnodup)]
    exact .some (sameFields_of_perm hknown hnodup)
  · rw [if_neg hnodup, if_neg fun h' => hnodup ((hknown.map Prod.fst).nodup_iff.2 h')]
    exact .none

/-- A record whose member is reordered inside has the same fields as before. -/
theorem known?_rel_of_member (h : t.Reordered u) (names : List String) (name : String)
    (before after : List (String × Json)) :
    Option.Rel SameFields (known? names (before ++ (name, t) :: after))
      (known? names (before ++ (name, u) :: after)) := by
  have hsame : SameFields ((before ++ (name, t) :: after).filter fun m => names.contains m.1)
      ((before ++ (name, u) :: after).filter fun m => names.contains m.1) := by
    rw [List.filter_append, List.filter_append, List.filter_cons, List.filter_cons]
    split
    · exact .append_cons h name _ _
    · exact .of_eq fun _ => rfl
  have hnames : ((before ++ (name, t) :: after).filter fun m => names.contains m.1).map Prod.fst =
      ((before ++ (name, u) :: after).filter fun m => names.contains m.1).map Prod.fst := by
    rw [List.filter_append, List.filter_append, List.filter_cons, List.filter_cons]
    split
    · simp only [List.map_append, List.map_cons]
    · rfl
  simp only [known?, hnames]
  split
  · exact .some hsame
  · exact .none

/-- The fields of a record are the same whatever the order of members. -/
theorem Reordered.fields?_rel (h : t.Reordered u) (names : List String) :
    Option.Rel SameFields (t.fields? names) (u.fields? names) := by
  induction h with
  | refl t =>
    cases t.fields? names with
    | none => exact .none
    | some fs => exact .some (.of_eq fun _ => rfl)
  | @trans t u v _ _ ih ih' =>
    generalize t.fields? names = fs at ih ⊢
    generalize u.fields? names = gs at ih ih'
    cases ih with
    | none => exact ih'
    | some h =>
      generalize v.fields? names = hs at ih' ⊢
      cases ih' with
      | some h' => exact .some (h.trans h')
  | @swap a b before after _ =>
    rw [fields?_obj, fields?_obj]
    exact known?_rel_of_perm ((List.Perm.swap b a after).append_left before) names
  | @item t u before after h _ =>
    have hlength : (before ++ t :: after).length = (before ++ u :: after).length := by
      rw [List.length_append, List.length_append, List.length_cons, List.length_cons]
    simp only [fields?, hlength]
    split
    · exact .some (.zip_append_cons h names before after)
    · exact .none
  | member name before after h _ =>
    rw [fields?_obj, fields?_obj]
    exact known?_rel_of_member h names name before after

/-- A record ignores order when it looks at its fields by name. -/
theorem ignoresOrder_record {names : List String} {read : List (String × Json) → Option α}
    (h : ∀ ⦃fs gs⦄, SameFields fs gs → read fs = read gs) :
    IgnoresOrder fun t : Json => (t.fields? names).bind read := by
  intro t u htu
  have hrel := htu.fields?_rel names
  simp only
  generalize t.fields? names = fs at hrel ⊢
  generalize u.fields? names = gs at hrel ⊢
  cases hrel with
  | none => rfl
  | some hsame => exact h hsame

/-! ## Entries -/

theorem entries?_nil (decode : Json → Option α) : entries? decode (.obj []) = some [] := rfl

theorem entries?_cons (decode : Json → Option α) (m : String × Json)
    (rest : List (String × Json)) :
    entries? decode (.obj (m :: rest)) =
      (decode m.2).bind fun a => (entries? decode (.obj rest)).map ((m.1, a) :: ·) := by
  simp only [entries?, named?_eq, Option.bind_some, List.map_cons, all?]
  cases decode m.2 with
  | none => rfl
  | some a =>
    cases all? decode (rest.map Prod.snd) with
    | none => rfl
    | some values => rfl

/-- Entries are decoded one after the other, and the first that fails makes all fail. -/
theorem entries?_append (decode : Json → Option α) (l l' : List (String × Json)) :
    entries? decode (.obj (l ++ l')) =
      (entries? decode (.obj l)).bind fun es => (entries? decode (.obj l')).map (es ++ ·) := by
  induction l with
  | nil =>
    rw [entries?_nil, Option.bind_some, List.nil_append]
    exact Option.map_id'.symm
  | cons m rest ih =>
    rw [List.cons_append, entries?_cons, entries?_cons, ih]
    cases decode m.2 with
    | none => rfl
    | some a =>
      cases entries? decode (.obj rest) with
      | none => rfl
      | some es =>
        cases entries? decode (.obj l') with
        | none => rfl
        | some es' => rfl

/-- Neighbours with different names give the same dictionary in either order. -/
theorem ofList_entries?_swap (decode : Json → Option α) {a b : String × Json} (h : a.1 ≠ b.1)
    (before after : List (String × Json)) :
    (entries? decode (.obj (before ++ a :: b :: after))).map Dict.ofList =
      (entries? decode (.obj (before ++ b :: a :: after))).map Dict.ofList := by
  rw [entries?_append, entries?_append, entries?_cons, entries?_cons, entries?_cons, entries?_cons]
  cases entries? decode (.obj before) with
  | none => rfl
  | some es =>
    cases decode a.2 with
    | none =>
      cases decode b.2 with
      | none => rfl
      | some y => rfl
    | some x =>
      cases decode b.2 with
      | none => rfl
      | some y =>
        cases entries? decode (.obj after) with
        | none => rfl
        | some es' =>
          exact congrArg some (Dict.ofList_swap (a := (a.1, x)) (b := (b.1, y)) h es es')

theorem entries?_member (hdecode : decode t = decode u) (name : String)
    (before after : List (String × Json)) :
    entries? decode (.obj (before ++ (name, t) :: after)) =
      entries? decode (.obj (before ++ (name, u) :: after)) := by
  rw [entries?_append, entries?_append, entries?_cons, entries?_cons, hdecode]

/-- The pairs of legacy and canonical keys are read the same in any order of members. -/
theorem ignoresOrder_decodeAliases? :
    IgnoresOrder (GateConfig.decodeAliases? : Json → Option (Dict String String)) := by
  intro t u h
  induction h with
  | refl => rfl
  | trans _ _ ih ih' => exact ih.trans ih'
  | swap before after hne => exact ofList_entries?_swap text? hne before after
  | item => rfl
  | member name before after h _ =>
    rw [GateConfig.decodeAliases?, GateConfig.decodeAliases?,
      entries?_member (ignoresOrder_text? h)]

end Decoders

/-! ## The decoders of the library -/

theorem ignoresOrder_kind : IgnoresOrder (ScopeKind.decode? : Json → Option ScopeKind) :=
  ignoresOrder_name? _

theorem ignoresOrder_state : IgnoresOrder (OverrideState.decode? : Json → Option OverrideState) :=
  ignoresOrder_name? _

theorem ignoresOrder_mode :
    IgnoresOrder (ClaimsFailureMode.decode? : Json → Option ClaimsFailureMode) :=
  ignoresOrder_name? _

/-- A scope is a record of its kind and its identifiers. -/
theorem ignoresOrder_scope : IgnoresOrder (Scope.decode? : Json → Option Scope) :=
  ignoresOrder_record fun fs gs h => by
    simp only [h.required?_eq ignoresOrder_kind, h.optional?_eq ignoresOrder_text?]

theorem ignoresOrder_chain : IgnoresOrder (Chain.decode? : Json → Option Chain) :=
  ignoresOrder_list? ignoresOrder_scope

theorem ignoresOrder_claims : IgnoresOrder (Claims.decode? : Json → Option Claims) :=
  ignoresOrder_record fun fs gs h => by
    simp only [h.optional?_eq ignoresOrder_text?,
      h.optional?_eq (ignoresOrder_list? ignoresOrder_text?)]

theorem ignoresOrder_actor : IgnoresOrder (Actor.decode? : Json → Option Actor) :=
  ignoresOrder_record fun fs gs h => by
    simp only [h.required?_eq ignoresOrder_text?]

theorem ignoresOrder_match : IgnoresOrder (OverrideMatch.decode? : Json → Option OverrideMatch) :=
  ignoresOrder_record fun fs gs h => by
    simp only [h.required?_eq ignoresOrder_scope, h.required?_eq ignoresOrder_state]

/-- A configuration is a record whose fields are read by the decoders above. -/
theorem ignoresOrder_config : IgnoresOrder (GateConfig.decode? : Json → Option GateConfig) :=
  ignoresOrder_record fun fs gs h => by
    simp only [h.optional?_eq (ignoresOrder_list? ignoresOrder_kind),
      h.optional?_eq ignoresOrder_mode, h.optional?_eq ignoresOrder_bool?,
      h.optional?_eq ignoresOrder_chain, h.optional?_eq ignoresOrder_decodeAliases?]

end Json

end FeatureFlags
