import FeatureFlags.DefaultTable
import FeatureFlags.Proofs.Collections
import FeatureFlags.Proofs.Trimming

/-!
# Defaults in nested objects

A nested object gives a default to every path of names that leads to a truth value, and null
settles a path without a default.  The table of the object has the joined names of these paths as
its keys (`entries_ofJson`).

Different paths may well have the same joined names: a name can have the delimiter inside, it can
be empty, and keys are trimmed.  When all names are plain and no object repeats a name, none of
this happens.  Then the table holds what the object says and nothing else (`Holds`).  The delimiter
may be any character, even a blank one.  No object that is read off a text repeats a name
(`Json.distinctNames_of_ofText?`), so for texts it is enough that the names are plain
(`holds_of_ofText`).
-/

namespace FeatureFlags

open Text (trim trim_append_append)

namespace Json

variable {v u : Json} {members : List (String × Json)} {name : String} {path : List String}
  {value : Option Bool} {d : Char}

/-! ## Paths -/

/-- The names lead through objects from a value to one inside it. -/
inductive LeadsTo : Json → List String → Json → Prop
  | here (v : Json) : LeadsTo v [] v
  | member {members : List (String × Json)} {name : String} {u v : Json} {path : List String}
      (hmem : (name, u) ∈ members) (h : LeadsTo u path v) : LeadsTo (.obj members) (name :: path) v

/-- The members of the value, and of all objects to which names lead, have the property. -/
def EveryObject (p : List (String × Json) → Prop) (v : Json) : Prop :=
  ∀ path members, LeadsTo v path (.obj members) → p members

/-- No object repeats a name. -/
def DistinctNames : Json → Prop :=
  EveryObject fun members => (members.map Prod.fst).Nodup

/-- A name that is not empty, has no blank characters around it and no delimiter inside. -/
def PlainName (d : Char) (name : String) : Prop :=
  name ≠ "" ∧ trim name = name ∧ d ∉ name.toList

instance (d : Char) (name : String) : Decidable (PlainName d name) :=
  inferInstanceAs (Decidable (_ ∧ _ ∧ _))

/-- All objects have plain names. -/
def PlainNames (d : Char) : Json → Prop :=
  EveryObject fun members => ∀ m ∈ members, PlainName d m.1

theorem leadsTo_nil_iff : LeadsTo v [] u ↔ v = u := by
  constructor
  · rintro ⟨⟩
    rfl
  · rintro rfl
    exact .here v

theorem leadsTo_cons_iff :
    LeadsTo v (name :: path) u ↔
      ∃ members w, v = .obj members ∧ (name, w) ∈ members ∧ LeadsTo w path u := by
  constructor
  · rintro (_ | ⟨hmem, h⟩)
    exact ⟨_, _, rfl, hmem, h⟩
  · rintro ⟨members, w, rfl, hmem, h⟩
    exact .member hmem h

theorem everyObject_obj {p : List (String × Json) → Prop} :
    EveryObject p (.obj members) ↔ p members ∧ ∀ m ∈ members, EveryObject p m.2 := by
  constructor
  · intro h
    refine ⟨h [] members (.here _), fun m hm path inner hin => ?_⟩
    exact h (m.1 :: path) inner (.member hm hin)
  · rintro ⟨hp, hmembers⟩ path inner (_ | ⟨hmem, h⟩)
    · exact hp
    · exact hmembers _ hmem _ _ h

/-- A value that is no object has no objects to which names lead. -/
theorem everyObject_of_ne_obj {p : List (String × Json) → Prop} (h : ∀ members, v ≠ .obj members) :
    EveryObject p v := by
  intro path members hin
  cases hin with
  | here => exact absurd rfl (h members)
  | member hmem hin => exact absurd rfl (h _)

/-- The names on a path are names of objects. -/
theorem LeadsTo.plainName (h : LeadsTo v path u) (hplain : PlainNames d v) :
    ∀ name ∈ path, PlainName d name := by
  induction h with
  | here v => exact List.forall_mem_nil _
  | member hmem h ih =>
    obtain ⟨hnames, hmembers⟩ := everyObject_obj.1 hplain
    exact List.forall_mem_cons.2 ⟨hnames _ hmem, ih (hmembers _ hmem)⟩

/-! ## What an object says about defaults -/

mutual

/-- The paths that lead to a truth value or null, each with what stands there. -/
def settings : Json → List (List String × Option Bool)
  | .obj members => memberSettings members
  | .bool b => [([], some b)]
  | .null => [([], none)]
  | .num _ | .str _ | .arr _ => []

/-- The settings of the members of an object. -/
def memberSettings : List (String × Json) → List (List String × Option Bool)
  | [] => []
  | (name, v) :: rest => (settings v).map (fun e => (name :: e.1, e.2)) ++ memberSettings rest

end

mutual

/-- The number of truth values and nulls to which names lead. -/
def settingCount : Json → Nat
  | .obj members => memberSettingCount members
  | .bool _ | .null => 1
  | .num _ | .str _ | .arr _ => 0

/-- The number of truth values and nulls in the members of an object. -/
def memberSettingCount : List (String × Json) → Nat
  | [] => 0
  | (_, v) :: rest => settingCount v + memberSettingCount rest

end

mutual

theorem length_settings : (v : Json) → (settings v).length = settingCount v
  | .obj members => length_memberSettings members
  | .bool _ | .null | .num _ | .str _ | .arr _ => rfl

theorem length_memberSettings :
    (members : List (String × Json)) → (memberSettings members).length = memberSettingCount members
  | [] => rfl
  | (name, v) :: rest => by
    rw [memberSettings, List.length_append, List.length_map, length_settings v,
      length_memberSettings rest, memberSettingCount]

end

theorem mem_memberSettings_iff :
    (path, value) ∈ memberSettings members ↔
      ∃ name u rest, (name, u) ∈ members ∧ path = name :: rest ∧ (rest, value) ∈ settings u := by
  induction members with
  | nil => simp [memberSettings]
  | cons m members ih =>
    obtain ⟨name, u⟩ := m
    rw [memberSettings, List.mem_append, ih]
    constructor
    · rintro (hmem | ⟨name, w, rest, hmem, hpath, hin⟩)
      · obtain ⟨⟨rest, value⟩, hin, ⟨⟩⟩ := List.mem_map.1 hmem
        exact ⟨name, u, rest, List.mem_cons_self, rfl, hin⟩
      · exact ⟨name, w, rest, List.mem_cons_of_mem _ hmem, hpath, hin⟩
    · rintro ⟨name, w, rest, hmem, rfl, hin⟩
      rcases List.mem_cons.1 hmem with heq | hmem
      · cases heq
        exact .inl (List.mem_map.2 ⟨(rest, value), hin, rfl⟩)
      · exact .inr ⟨name, w, rest, hmem, rfl, hin⟩

/-- The settings are what stands at the end of paths, as far as it says something. -/
theorem mem_settings_iff :
    (path, value) ∈ settings v ↔ ∃ u, LeadsTo v path u ∧ asDefault? u = some value := by
  -- On the path, not on the value: each name goes one object down.
  induction path generalizing v with
  | nil =>
    simp only [leadsTo_nil_iff, exists_eq_left']
    cases v with
    | obj members => simp [settings, mem_memberSettings_iff, asDefault?]
    | _ => simp [settings, asDefault?, eq_comm]
  | cons name path ih =>
    simp only [leadsTo_cons_iff]
    constructor
    · intro hmem
      cases v with
      | obj members =>
        obtain ⟨name, w, rest, hmem, ⟨⟩, hin⟩ := mem_memberSettings_iff.1 hmem
        obtain ⟨u, hu, hvalue⟩ := ih.1 hin
        exact ⟨u, ⟨members, w, rfl, hmem, hu⟩, hvalue⟩
      | _ => simp [settings] at hmem
    · rintro ⟨u, ⟨members, w, rfl, hmem, hu⟩, hvalue⟩
      exact mem_memberSettings_iff.2 ⟨name, w, path, hmem, rfl, ih.2 ⟨u, hu, hvalue⟩⟩

theorem mem_settings_some_iff {b : Bool} :
    (path, some b) ∈ settings v ↔ LeadsTo v path (.bool b) := by
  rw [mem_settings_iff]
  constructor
  · rintro ⟨u, hu, hvalue⟩
    cases u with
    | bool c =>
      obtain rfl : c = b := by simpa [asDefault?] using hvalue
      exact hu
    | _ => simp [asDefault?] at hvalue
  · intro h
    exact ⟨_, h, rfl⟩

mutual

/-- When no object repeats a name, no path comes twice. -/
theorem nodup_settings : (v : Json) → DistinctNames v → ((settings v).map Prod.fst).Nodup
  | .obj members, h =>
    nodup_memberSettings members (everyObject_obj.1 h).1 (everyObject_obj.1 h).2
  | .bool _, _ | .null, _ => List.nodup_singleton _
  | .num _, _ | .str _, _ | .arr _, _ => List.nodup_nil

theorem nodup_memberSettings : (members : List (String × Json)) →
    (members.map Prod.fst).Nodup → (∀ m ∈ members, DistinctNames m.2) →
      ((memberSettings members).map Prod.fst).Nodup
  | [], _, _ => List.nodup_nil
  | (name, v) :: rest, hnames, hmembers => by
    obtain ⟨hname, hrest⟩ := List.nodup_cons.1 hnames
    obtain ⟨hv, hvalues⟩ := List.forall_mem_cons.1 hmembers
    rw [memberSettings, List.map_append, List.nodup_append', List.map_map]
    refine ⟨?_, nodup_memberSettings rest hrest hvalues, fun path hpath hin => ?_⟩
    · have hcons := (nodup_settings v hv).map (List.cons_injective (a := name))
      rwa [List.map_map] at hcons
    · obtain ⟨e, -, rfl⟩ := List.mem_map.1 hpath
      obtain ⟨⟨-, value⟩, hin, rfl⟩ := List.mem_map.1 hin
      obtain ⟨other, u, path, hmem, ⟨⟩, -⟩ := mem_memberSettings_iff.1 hin
      exact hname (List.mem_map.2 ⟨_, hmem, rfl⟩)

end

/-! ## Joined names -/

/-- The path of the names behind a path that is not empty. -/
theorem foldl_joinPath {delimiter start : String} (h : start ≠ "") (path : List String) :
    path.foldl (joinPath delimiter) start = delimiter.intercalate (start :: path) := by
  induction path generalizing start with
  | nil => rw [List.foldl_nil, String.intercalate_singleton]
  | cons name path ih =>
    have hne : start ++ delimiter ++ name ≠ "" := by simp [h]
    rw [List.foldl_cons, joinPath, if_neg h, ih hne, String.intercalate_cons_append,
      String.intercalate_cons_cons]

/-- The path of names is the names with the delimiter between them. -/
theorem foldl_joinPath_empty {delimiter : String} (h : name ≠ "") (path : List String) :
    (name :: path).foldl (joinPath delimiter) "" = delimiter.intercalate (name :: path) := by
  rw [List.foldl_cons, joinPath, if_pos rfl, foldl_joinPath h]

theorem intercalate_ne_empty {delimiter : String} (hne : path ≠ [])
    (hplain : ∀ name ∈ path, PlainName d name) : delimiter.intercalate path ≠ "" := by
  obtain ⟨name, rest, rfl⟩ := List.exists_cons_of_ne_nil hne
  obtain ⟨⟨hname, -⟩, -⟩ := List.forall_mem_cons.1 hplain
  cases rest with
  | nil => simp [hname]
  | cons next rest => simp [hname]

/-- Plain names have no blank characters around them when they are joined. -/
theorem trim_intercalate {delimiter : String} (hne : path ≠ [])
    (hplain : ∀ name ∈ path, PlainName d name) :
    trim (delimiter.intercalate path) = delimiter.intercalate path := by
  induction path with
  | nil => exact absurd rfl hne
  | cons name path ih =>
    obtain ⟨⟨hname, htrim, -⟩, hpath⟩ := List.forall_mem_cons.1 hplain
    cases path with
    | nil =>
      rw [String.intercalate_singleton]
      exact htrim
    | cons next path =>
      have hrest : next :: path ≠ [] := List.cons_ne_nil _ _
      rw [String.intercalate_cons_cons]
      exact trim_append_append delimiter hname (intercalate_ne_empty hrest hpath) htrim
        (ih hrest hpath)

/-- Names without the delimiter inside can be told from what they are joined to. -/
theorem intercalate_inj {path path' : List String} (hne : path ≠ []) (hne' : path' ≠ [])
    (hplain : ∀ name ∈ path, PlainName d name) (hplain' : ∀ name ∈ path', PlainName d name)
    (h : (String.singleton d).intercalate path = (String.singleton d).intercalate path') :
    path = path' := by
  have hsplit {path : List String} (hne : path ≠ []) (hplain : ∀ name ∈ path, PlainName d name) :
      ((String.singleton d).intercalate path).toList.splitOn d = path.map String.toList := by
    rw [String.toList_intercalate, String.toList_singleton]
    refine List.splitOn_intercalate d (fun cs hcs => ?_) (by simpa)
    obtain ⟨name, hname, rfl⟩ := List.mem_map.1 hcs
    exact (hplain name hname).2.2
  refine List.map_injective_iff.2 (fun _ _ => String.toList_injective) ?_
  rw [← hsplit hne hplain, ← hsplit hne' hplain', h]

/-! ## Leaves -/

/-- What a leaf says about the default of its path, if it says anything. -/
def setting? (e : String × Json) : Option (String × Option Bool) :=
  (asDefault? e.2).map fun value => (e.1, value)

mutual

/-- The leaves that say something are the settings, with their names joined behind the start. -/
theorem filterMap_leaves (delimiter start : String) : (v : Json) →
    (leaves delimiter start v).filterMap setting? =
      (settings v).map fun e => (e.1.foldl (joinPath delimiter) start, e.2)
  | .obj members => filterMap_memberLeaves delimiter start members
  | .bool _ | .null | .num _ | .str _ | .arr _ => rfl

theorem filterMap_memberLeaves (delimiter start : String) : (members : List (String × Json)) →
    (memberLeaves delimiter start members).filterMap setting? =
      (memberSettings members).map fun e => (e.1.foldl (joinPath delimiter) start, e.2)
  | [] => rfl
  | (name, v) :: rest => by
    rw [memberLeaves, memberSettings, List.filterMap_append, List.map_append, List.map_map,
      filterMap_leaves delimiter _ v, filterMap_memberLeaves delimiter start rest]
    rfl

end

/-! ## Objects read off a text -/

mutual

/-- A parsed value has no object in which a name comes twice, since the last member replaced the
others. -/
theorem distinctNames_of_ofDocument? {depth : Nat} {v : Json} :
    (document : JsonDocument) → ofDocument? depth document = some v → DistinctNames v
  | .null, h => by
    cases h
    exact everyObject_of_ne_obj fun _ => nofun
  | .bool b, h => by
    cases h
    exact everyObject_of_ne_obj fun _ => nofun
  | .num n, h => by
    rw [ofDocument?] at h
    split at h
    · cases h
      exact everyObject_of_ne_obj fun _ => nofun
    · cases h
  | .str s, h => by
    obtain ⟨text, -, rfl⟩ := Option.map_eq_some_iff.1 h
    exact everyObject_of_ne_obj fun _ => nofun
  | .arr items, h => by
    cases depth with
    | zero => cases h
    | succ depth =>
      obtain ⟨values, -, rfl⟩ := Option.map_eq_some_iff.1 h
      exact everyObject_of_ne_obj fun _ => nofun
  | .obj members, h => by
    cases depth with
    | zero => cases h
    | succ depth =>
      obtain ⟨values, hvalues, rfl⟩ := Option.map_eq_some_iff.1 h
      refine everyObject_obj.2 ⟨(Dict.ofList values).nodup_keys, fun m hm => ?_⟩
      exact distinctNames_of_membersOf? members hvalues m (Dict.mem_of_mem_entries_ofList hm)

theorem distinctNames_of_membersOf? {depth : Nat} {values : List (String × Json)} :
    (members : List (RawText × JsonDocument)) → membersOf? depth members = some values →
      ∀ m ∈ values, DistinctNames m.2
  | [], h => by
    cases h
    exact List.forall_mem_nil _
  | (name, v) :: rest, h => by
    obtain ⟨n, -, h⟩ := Option.bind_eq_some_iff.1 h
    obtain ⟨w, hw, h⟩ := Option.bind_eq_some_iff.1 h
    obtain ⟨values, hvalues, rfl⟩ := Option.map_eq_some_iff.1 h
    exact List.forall_mem_cons.2
      ⟨distinctNames_of_ofDocument? v hw, distinctNames_of_membersOf? rest hvalues⟩

end

/-- No object that is read off a text repeats a name. -/
theorem distinctNames_of_ofText? {text : String} (h : ofText? text = some v) : DistinctNames v := by
  obtain ⟨document, -, h⟩ := Option.bind_eq_some_iff.1 h
  exact distinctNames_of_ofDocument? document h

end Json

/-! ## The table of an object -/

namespace DefaultTable

open Json (LeadsTo DistinctNames PlainNames PlainName settings settingCount)

variable {t : DefaultTable} {v : Json} {members : List (String × Json)} {path : List String}
  {value : Option Bool} {key : String} {d : Char}

/-- The table holds the truth values to which names lead, and nothing else. -/
structure Holds (t : DefaultTable) (v : Json) (d : Char) : Prop where
  /-- The joined names that lead to a truth value have it as their default. -/
  get_of_leadsTo (path : List String) (b : Bool) :
    LeadsTo v path (.bool b) → t.get ((String.singleton d).intercalate path) = some b
  /-- A key that is not such names has no default. -/
  get_of_not (key : String) :
    (∀ path b, LeadsTo v path (.bool b) → (String.singleton d).intercalate path ≠ trim key) →
      t.get key = none
  /-- Each truth value and each null has its own entry. -/
  size : t.size = settingCount v

/-- The entries of the settings of a value. -/
def joined (delimiter : String) (v : Json) : List (String × Option Bool) :=
  (settings v).map fun e => (delimiter.intercalate e.1, e.2)

theorem ofLeaves_eq_foldl (aliases : AliasTable) (leaves : List (String × Json)) :
    ofLeaves aliases leaves =
      (leaves.filterMap Json.setting?).foldl (fun t e => t.add aliases e.1 e.2) empty := by
  rw [ofLeaves, List.foldl_filterMap]
  refine List.foldl_ext _ _ _ fun t e _ => ?_
  rw [Json.setting?]
  cases Json.asDefault? e.2 with
  | none => rfl
  | some value => rfl

/-- Without legacy keys, an entry with a trimmed key is added as it is. -/
theorem entries_foldl_add {entries : List (String × Option Bool)} (t : DefaultTable)
    (h : ∀ e ∈ entries, e.1 ≠ "" ∧ trim e.1 = e.1) :
    (entries.foldl (fun t e => t.add .empty e.1 e.2) t).entries =
      entries.foldl (fun d e => d.insert e.1 e.2) t.entries := by
  induction entries generalizing t with
  | nil => rfl
  | cons e entries ih =>
    obtain ⟨⟨hne, htrim⟩, h⟩ := List.forall_mem_cons.1 h
    have hnormalize : AliasTable.empty.normalize e.1 = e.1 := htrim
    rw [List.foldl_cons, ih _ h, List.foldl_cons, add]
    simp only [hnormalize, if_neg hne]

/-- A path that settles something is a path of plain names, and not empty. -/
theorem path_of_mem_settings (hplain : PlainNames d (.obj members))
    (h : (path, value) ∈ settings (.obj members)) :
    path ≠ [] ∧ ∀ name ∈ path, PlainName d name := by
  obtain ⟨u, hu, -⟩ := Json.mem_settings_iff.1 h
  obtain ⟨name, w, rest, -, rfl, -⟩ := Json.mem_memberSettings_iff.1 h
  exact ⟨List.cons_ne_nil _ _, hu.plainName hplain⟩

/-- The entries of the table are the settings, the last one of a key. -/
theorem entries_ofJson (hplain : PlainNames d (.obj members)) :
    ∃ t, ofJson (.obj members) (String.singleton d) .empty = .ok t ∧
      t.entries = Dict.ofList (joined (String.singleton d) (.obj members)) := by
  refine ⟨_, rfl, ?_⟩
  have hjoined : (Json.memberLeaves (String.singleton d) "" members).filterMap Json.setting? =
      joined (String.singleton d) (.obj members) := by
    rw [Json.filterMap_memberLeaves, joined, settings]
    refine List.map_congr_left fun e he => ?_
    obtain ⟨name, u, rest, hmem, hpath, -⟩ := Json.mem_memberSettings_iff.1 he
    obtain ⟨hnames, -⟩ := Json.everyObject_obj.1 hplain
    rw [hpath, Json.foldl_joinPath_empty (hnames _ hmem).1]
  rw [ofLeaves_eq_foldl, hjoined, entries_foldl_add, Dict.ofList, empty]
  intro e he
  obtain ⟨⟨path, value⟩, hmem, rfl⟩ := List.mem_map.1 he
  obtain ⟨hne, hnames⟩ := path_of_mem_settings hplain hmem
  exact ⟨Json.intercalate_ne_empty hne hnames, Json.trim_intercalate hne hnames⟩

/-- Different settings have different keys. -/
theorem nodup_joined (hdistinct : DistinctNames (.obj members))
    (hplain : PlainNames d (.obj members)) :
    ((joined (String.singleton d) (.obj members)).map Prod.fst).Nodup := by
  have hnodup : (((settings (.obj members)).map Prod.fst).map
      (String.singleton d).intercalate).Nodup := by
    refine List.Nodup.map_on (fun path hpath path' hpath' heq => ?_)
      (Json.nodup_settings _ hdistinct)
    obtain ⟨⟨path, value⟩, hmem, rfl⟩ := List.mem_map.1 hpath
    obtain ⟨⟨path', value'⟩, hmem', rfl⟩ := List.mem_map.1 hpath'
    obtain ⟨hne, hnames⟩ := path_of_mem_settings hplain hmem
    obtain ⟨hne', hnames'⟩ := path_of_mem_settings hplain hmem'
    exact Json.intercalate_inj hne hne' hnames hnames' heq
  rw [List.map_map] at hnodup
  rwa [joined, List.map_map]

/-- What a path settles stands under the joined names of the path. -/
theorem find?_joined (hdistinct : DistinctNames (.obj members))
    (hplain : PlainNames d (.obj members)) :
    (Dict.ofList (joined (String.singleton d) (.obj members))).find? key = some value ↔
      ∃ path, (path, value) ∈ settings (.obj members) ∧
        (String.singleton d).intercalate path = key := by
  rw [Dict.find?_ofList_eq_some_iff (nodup_joined hdistinct hplain), joined, List.mem_map]
  constructor
  · rintro ⟨⟨path, value⟩, hmem, ⟨⟩⟩
    exact ⟨path, hmem, rfl⟩
  · rintro ⟨path, hmem, rfl⟩
    exact ⟨(path, value), hmem, rfl⟩

theorem get_eq_some_iff {b : Bool} :
    t.get key = some b ↔ t.entries.find? (trim key) = some (some b) :=
  Option.join_eq_some_iff

/-- A table that is filled with the joined settings of a document holds them all. -/
theorem holds_of_entries (hdistinct : DistinctNames (.obj members))
    (hplain : PlainNames d (.obj members))
    (h : t.entries = Dict.ofList (joined (String.singleton d) (.obj members))) :
    t.Holds (.obj members) d where
  get_of_leadsTo path b hpath := by
    have hmem := Json.mem_settings_some_iff.2 hpath
    obtain ⟨hne, hnames⟩ := path_of_mem_settings hplain hmem
    rw [get_eq_some_iff, Json.trim_intercalate hne hnames, h, find?_joined hdistinct hplain]
    exact ⟨path, hmem, rfl⟩
  get_of_not key hnot := by
    refine Option.eq_none_iff_forall_ne_some.2 fun b hb => ?_
    rw [get_eq_some_iff, h, find?_joined hdistinct hplain] at hb
    obtain ⟨path, hmem, hpath⟩ := hb
    exact hnot path b (Json.mem_settings_some_iff.1 hmem) hpath
  size := by
    rw [size, h, Dict.size_ofList (nodup_joined hdistinct hplain), joined, List.length_map,
      Json.length_settings]

/-- A text in which all names are plain is read without loss. -/
theorem holds_of_ofText {text : String} (htext : Json.ofText? text = some (.obj members))
    (hplain : PlainNames d (.obj members)) :
    ∃ t, ofText text (String.singleton d) .empty = .ok t ∧ t.Holds (.obj members) d := by
  obtain ⟨t, ht, hentries⟩ := entries_ofJson hplain
  refine ⟨t, ?_, holds_of_entries (Json.distinctNames_of_ofText? htext) hplain hentries⟩
  rw [ofText, htext]
  exact ht

/-! ## The main theorem -/

/-- When no object repeats a name and all names are plain, the table of an object holds exactly what
the object says, however deep its objects are nested. -/
theorem nested_defaults_hold (hdistinct : DistinctNames (.obj members))
    (hplain : PlainNames d (.obj members)) :
    ∃ t, ofJson (.obj members) (String.singleton d) .empty = .ok t ∧ t.Holds (.obj members) d := by
  obtain ⟨t, ht, hentries⟩ := entries_ofJson hplain
  exact ⟨t, ht, holds_of_entries hdistinct hplain hentries⟩

/-- Truth values and a null at different depths, among values that say nothing. -/
def shopDefaults : List (String × Json) :=
  [("beta", .bool true),
    ("checkout", .obj [
      ("limits", .obj [("daily", .null), ("note", .str "per user")]),
      ("steps", .arr [.obj [("pay", .bool true)]]),
      ("two steps", .bool false)]),
    ("empty", .obj [])]

theorem nested_defaults_hold_shopDefaults :
    ∃ t, ofJson (.obj shopDefaults) (String.singleton '.') .empty = .ok t ∧
      t.get "checkout.two steps" = some false ∧ t.get "beta" = some true ∧
        t.get "checkout.steps.pay" = none ∧ t.size = 3 := by
  have hdistinct : DistinctNames (.obj shopDefaults) := by
    simp [shopDefaults, DistinctNames, Json.everyObject_obj, Json.everyObject_of_ne_obj]
  have hplain : PlainNames '.' (.obj shopDefaults) := by
    simp only [shopDefaults, PlainNames, Json.everyObject_obj, List.forall_mem_cons,
      List.not_mem_nil, IsEmpty.forall_iff, Json.everyObject_of_ne_obj, ne_eq, reduceCtorEq,
      not_false_eq_true, implies_true, and_true, true_and]
    decide +kernel
  have hfalse : LeadsTo (.obj shopDefaults) ["checkout", "two steps"] (.bool false) :=
    Json.mem_settings_some_iff.1 (by decide +kernel)
  have htrue : LeadsTo (.obj shopDefaults) ["beta"] (.bool true) :=
    Json.mem_settings_some_iff.1 (by decide +kernel)
  have hjoined :
      (String.singleton '.').intercalate ["checkout", "two steps"] = "checkout.two steps" := by
    decide +kernel
  have hnot : ∀ e ∈ settings (.obj shopDefaults),
      (String.singleton '.').intercalate e.1 ≠ trim "checkout.steps.pay" := by
    decide +kernel
  obtain ⟨t, ht, h⟩ := nested_defaults_hold hdistinct hplain
  refine ⟨t, ht, hjoined ▸ h.get_of_leadsTo _ _ hfalse, ?_, h.get_of_not _ ?_, h.size⟩
  · simpa using h.get_of_leadsTo _ _ htrue
  · exact fun path b hpath => hnot _ (Json.mem_settings_some_iff.2 hpath)

-- A name with the delimiter inside can stand for a path, and then the later one counts.
example :
    (ofJson (.obj [("a", .obj [("b", .bool false)]), ("a.b", .bool true)]) "." .empty).map
      (fun t => (t.get "a.b", t.size)) = .ok (some true, 1) := by
  decide +kernel

end DefaultTable

end FeatureFlags
