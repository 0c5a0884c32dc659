import FeatureFlags.Collection.Sorted

/-!
# Dictionaries

A dictionary is a list of entries in strictly ascending order of their keys, so a key has at
most one entry and two dictionaries with the same entries are equal.

Three lemmas say all there is to know about an operation: what `find?` gives after `insert`,
after `erase`, and in the empty dictionary.  The entries are what `find?` gives
(`mem_entries_iff`), each key once (`nodup_keys`), so dictionaries in which `find?` gives the same
are equal (`ext_find?`).
-/

namespace FeatureFlags

/-- Entries in strictly ascending order of their keys. -/
structure Dict (κ ν : Type) [Ord κ] where
  /-- The entries. -/
  entries : List (κ × ν)
  /-- No key comes twice, and the smaller keys come first. -/
  ascending : Ascending (entries.map Prod.fst)

namespace Dict

variable {κ ν : Type}

/-! ## Lists of entries -/

section Lookup

variable [DecidableEq κ] {k a : κ} {v : ν} {l : List (κ × ν)}

theorem lookup_cons (k a : κ) (v : ν) (l : List (κ × ν)) :
    List.lookup k ((a, v) :: l) = if a = k then some v else l.lookup k := by
  rw [List.lookup_cons]
  by_cases h : a = k
  · rw [h, beq_self_eq_true, if_pos rfl]
  · rw [beq_false_of_ne (Ne.symm h), if_neg h]

theorem lookup_filter_ne (k a : κ) (l : List (κ × ν)) :
    (l.filter (·.1 ≠ k)).lookup a = if k = a then none else l.lookup a := by
  induction l with
  | nil => simp
  | cons e rest ih =>
    obtain ⟨b, w⟩ := e
    by_cases hb : b = k
    · rw [List.filter_cons_of_neg (by simpa using hb), ih, lookup_cons, hb]
      by_cases hk : k = a <;> simp [hk]
    · rw [List.filter_cons_of_pos (by simpa using hb), lookup_cons, lookup_cons, ih]
      by_cases ha : b = a
      · simp [ha, ha ▸ Ne.symm hb]
      · simp [ha]

theorem lookup_eq_none_iff : l.lookup k = none ↔ k ∉ l.map Prod.fst := by
  rw [List.lookup_eq_none_iff, List.mem_map]
  constructor
  · rintro h ⟨e, he, rfl⟩
    simpa using h e he
  · intro h e he
    exact bne_iff_ne.2 fun heq => h ⟨e, he, heq.symm⟩

theorem mem_of_lookup (h : l.lookup k = some v) : (k, v) ∈ l := by
  obtain ⟨before, after, rfl, -⟩ := List.lookup_eq_some_iff.1 h
  exact List.mem_append_right before List.mem_cons_self

/-- When no key comes twice, a list of entries gives each key the value of its entry. -/
theorem lookup_eq_some_iff (h : (l.map Prod.fst).Nodup) : l.lookup k = some v ↔ (k, v) ∈ l := by
  refine ⟨mem_of_lookup, fun hmem => ?_⟩
  obtain ⟨before, after, rfl⟩ := List.append_of_mem hmem
  refine List.lookup_eq_some_iff.2 ⟨before, after, rfl, fun e he => bne_iff_ne.2 fun heq => ?_⟩
  rw [List.map_append, List.nodup_append] at h
  exact h.2.2 e.1 (List.mem_map_of_mem he) k (by simp) heq.symm

end Lookup

variable [Ord κ]

/-! ## Dictionaries -/

/-- The dictionary without entries. -/
def empty : Dict κ ν := ⟨[], .nil⟩

instance : EmptyCollection (Dict κ ν) := ⟨empty⟩

instance : Inhabited (Dict κ ν) := ⟨empty⟩

@[ext] theorem ext {d e : Dict κ ν} (h : d.entries = e.entries) : d = e := by
  cases d; cases e; cases h; rfl

instance [DecidableEq κ] [DecidableEq ν] : DecidableEq (Dict κ ν) := fun d e =>
  if h : d.entries = e.entries then .isTrue (ext h) else .isFalse fun he => h (he ▸ rfl)

/-! ## Operations -/

/-- Puts an entry at its place, in the stead of one with the same key. -/
def insertEntry (k : κ) (v : ν) : List (κ × ν) → List (κ × ν)
  | [] => [(k, v)]
  | (a, w) :: rest =>
      match compare k a with
      | .lt => (k, v) :: (a, w) :: rest
      | .eq => (k, v) :: rest
      | .gt => (a, w) :: insertEntry k v rest

/-- The value of a key. -/
def find? [DecidableEq κ] (d : Dict κ ν) (k : κ) : Option ν := d.entries.lookup k

/-- Whether a key has a value. -/
def contains [DecidableEq κ] (d : Dict κ ν) (k : κ) : Bool := (d.find? k).isSome

/-- The number of entries. -/
def size (d : Dict κ ν) : Nat := d.entries.length

/-- Whether there is no entry. -/
def isEmpty (d : Dict κ ν) : Bool := d.entries.isEmpty

theorem eq_empty_of_isEmpty {d : Dict κ ν} (h : d.isEmpty = true) : d = ∅ :=
  ext (List.isEmpty_iff.1 h)

/-- The keys, in ascending order. -/
def keys (d : Dict κ ν) : List κ := d.entries.map Prod.fst

theorem nodup_keys [Std.LawfulEqOrd κ] (d : Dict κ ν) : d.keys.Nodup :=
  nodup_of_ascending d.ascending

/-- The values, in ascending order of their keys. -/
def values (d : Dict κ ν) : List ν := d.entries.map Prod.snd

/-- The dictionary without the entry of a key. -/
def erase [DecidableEq κ] (d : Dict κ ν) (k : κ) : Dict κ ν where
  entries := d.entries.filter (·.1 ≠ k)
  ascending := by
    have h := d.ascending
    rw [Ascending, List.pairwise_map] at h ⊢
    exact h.filter _

section Lawful

variable [Std.LawfulEqOrd κ]

theorem mem_keys_insertEntry {a k : κ} {v : ν} {l : List (κ × ν)} :
    a ∈ (insertEntry k v l).map Prod.fst ↔ a = k ∨ a ∈ l.map Prod.fst := by
  induction l with
  | nil => simp [insertEntry]
  | cons e rest ih =>
    obtain ⟨b, w⟩ := e
    simp only [insertEntry]
    split
    · simp
    · next h =>
      have := Std.LawfulEqOrd.eq_of_compare h
      simp [this]
    · simp only [List.map_cons, List.mem_cons, ih, or_left_comm]

/-- The entries stay ascending when one is put in. -/
theorem ascending_insertEntry [Std.TransOrd κ] {k : κ} {v : ν} {l : List (κ × ν)}
    (h : Ascending (l.map Prod.fst)) : Ascending ((insertEntry k v l).map Prod.fst) := by
  induction l with
  | nil => simp [insertEntry]
  | cons e rest ih =>
    obtain ⟨b, w⟩ := e
    obtain ⟨hb, hrest⟩ := List.pairwise_cons.1 h
    simp only [insertEntry]
    split
    · next hkb =>
      refine List.pairwise_cons.2 ⟨fun c hc => ?_, h⟩
      rcases List.mem_cons.1 hc with rfl | hc
      · exact hkb
      · exact Std.TransCmp.lt_trans hkb (hb c hc)
    · next hkb =>
      refine List.pairwise_cons.2 ⟨fun c hc => ?_, hrest⟩
      exact Std.TransCmp.lt_of_eq_of_lt hkb (hb c hc)
    · next hkb =>
      refine List.pairwise_cons.2 ⟨fun c hc => ?_, ih hrest⟩
      rcases mem_keys_insertEntry.1 hc with rfl | hc
      · exact Std.OrientedCmp.gt_iff_lt.1 hkb
      · exact hb c hc

/-- The dictionary in which a key has the given value. -/
def insert [Std.TransOrd κ] (d : Dict κ ν) (k : κ) (v : ν) : Dict κ ν where
  entries := insertEntry k v d.entries
  ascending := ascending_insertEntry d.ascending

/-- The dictionary of a list of entries, of which the last one of a key counts. -/
def ofList [Std.TransOrd κ] (l : List (κ × ν)) : Dict κ ν := l.foldl (fun d e => d.insert e.1 e.2) ∅

end Lawful

/-! ## What `find?` gives -/

section Find

variable [DecidableEq κ]

@[simp] theorem find?_empty (k : κ) : (∅ : Dict κ ν).find? k = none := rfl

/-- An entry that is put in is found, and the others stay. -/
theorem lookup_insertEntry [Std.LawfulEqOrd κ] (k a : κ) (v : ν) (l : List (κ × ν)) :
    (insertEntry k v l).lookup a = if k = a then some v else l.lookup a := by
  induction l with
  | nil => exact lookup_cons a k v []
  | cons e rest ih =>
    obtain ⟨b, w⟩ := e
    simp only [insertEntry]
    split
    · exact lookup_cons a k v _
    · next h =>
      have := Std.LawfulEqOrd.eq_of_compare h
      subst this
      rw [lookup_cons, lookup_cons]
      by_cases h : k = a <;> simp [h]
    · next h =>
      have hne : k ≠ b := fun hkb => by simp [hkb] at h
      rw [lookup_cons, lookup_cons, ih]
      by_cases hb : b = a
      · simp [hb, hb ▸ hne]
      · simp [hb]

/-- A value that is put in is found, and no other value changes. -/
theorem find?_insert [Std.TransOrd κ] [Std.LawfulEqOrd κ] (d : Dict κ ν) (k a : κ) (v : ν) :
    (d.insert k v).find? a = if k = a then some v else d.find? a :=
  lookup_insertEntry k a v d.entries

/-- An erased key has no value, and no other value changes. -/
theorem find?_erase (d : Dict κ ν) (k a : κ) :
    (d.erase k).find? a = if k = a then none else d.find? a :=
  lookup_filter_ne k a d.entries

theorem contains_iff {d : Dict κ ν} {k : κ} : d.contains k = true ↔ k ∈ d.keys := by
  rw [contains, Option.isSome_iff_ne_none, ne_eq, find?, lookup_eq_none_iff]
  exact Decidable.not_not

theorem mem_entries_iff [Std.LawfulEqOrd κ] {d : Dict κ ν} {k : κ} {v : ν} :
    (k, v) ∈ d.entries ↔ d.find? k = some v :=
  (lookup_eq_some_iff d.nodup_keys).symm

/-! ## Equal dictionaries -/

variable [Std.TransOrd κ] [Std.LawfulEqOrd κ]

/-- Dictionaries that give the same values are equal. -/
theorem ext_find? {d e : Dict κ ν} (h : ∀ k, d.find? k = e.find? k) : d = e := by
  have hnodup (d : Dict κ ν) : d.entries.Nodup :=
    (List.pairwise_map.1 d.nodup_keys).imp fun hne heq => hne (congrArg Prod.fst heq)
  have hperm : d.entries.Perm e.entries := by
    refine (List.perm_ext_iff_of_nodup (hnodup d) (hnodup e)).2 fun ⟨k, v⟩ => ?_
    rw [mem_entries_iff, mem_entries_iff, h k]
  refine ext (hperm.eq_of_pairwise (fun a b _ _ hab hba => ?_) (List.pairwise_map.1 d.ascending)
    (List.pairwise_map.1 e.ascending))
  exact absurd hba (Std.OrientedCmp.not_lt_of_lt hab)

/-- Entries of different keys may be put in either order. -/
theorem insert_comm (d : Dict κ ν) {k k' : κ} (h : k ≠ k') (v v' : ν) :
    (d.insert k v).insert k' v' = (d.insert k' v').insert k v := by
  refine ext_find? fun a => ?_
  simp only [find?_insert]
  by_cases hk : k = a
  · rw [if_pos hk, if_neg (hk ▸ Ne.symm h), if_pos hk]
  · rw [if_neg hk, if_neg hk]

/-- Entries of different keys may be listed in either order. -/
theorem ofList_swap {a b : κ × ν} (h : a.1 ≠ b.1) (before after : List (κ × ν)) :
    ofList (before ++ a :: b :: after) = ofList (before ++ b :: a :: after) := by
  simp only [ofList, List.foldl_append, List.foldl_cons, insert_comm _ h]

theorem find?_foldl_insert (l : List (κ × ν)) (d : Dict κ ν) (k : κ) :
    (l.foldl (fun d e => d.insert e.1 e.2) d).find? k =
      (l.reverse.lookup k).or (d.find? k) := by
  induction l generalizing d with
  | nil => rfl
  | cons e rest ih =>
    rw [List.foldl_cons, ih, find?_insert, List.reverse_cons, List.lookup_append, Option.or_assoc,
      lookup_cons]
    split
    · rfl
    · rfl

/-- The last entry of a key counts. -/
theorem find?_ofList (l : List (κ × ν)) (k : κ) :
    (ofList l).find? k = l.reverse.lookup k := by
  rw [ofList, find?_foldl_insert, find?_empty, Option.or_none]

/-- When no key comes twice, every entry counts. -/
theorem find?_ofList_eq_some_iff {k : κ} {v : ν} {l : List (κ × ν)}
    (h : (l.map Prod.fst).Nodup) : (ofList l).find? k = some v ↔ (k, v) ∈ l := by
  have hreverse : (l.reverse.map Prod.fst).Nodup := by
    rw [List.map_reverse]
    exact (List.reverse_perm _).nodup_iff.2 h
  rw [find?_ofList, lookup_eq_some_iff hreverse, List.mem_reverse]

/-- The entries of a dictionary are among those it was made from. -/
theorem mem_of_mem_entries_ofList {e : κ × ν} {l : List (κ × ν)} (h : e ∈ (ofList l).entries) :
    e ∈ l := by
  rw [mem_entries_iff, find?_ofList] at h
  exact List.mem_reverse.1 (mem_of_lookup h)

/-- A dictionary is that of its entries. -/
theorem ofList_entries (d : Dict κ ν) : ofList d.entries = d := by
  refine ext_find? fun k => Option.ext fun v => ?_
  rw [find?_ofList_eq_some_iff d.nodup_keys, mem_entries_iff]

end Find

end Dict

end FeatureFlags
