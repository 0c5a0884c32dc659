import FeatureFlags.OverrideStore
import FeatureFlags.Proofs.Trimming
import Mathlib.Data.Finmap

/-!
# The store as one finite map

Inside, a store keeps the records of each feature in a dictionary of their own.  From outside it
is a single finite map from keys and scopes to records (`FlatRecords`): a write inserts, a deletion
erases, and what was there before is forgotten.

*Representation.*  `Represents` ties a store to a map.  Its main field says that each record is
where the map has it.  The others are about the inside: keys are trimmed and not empty, and a
feature is kept only as long as it has records.

*Runs.*  One request gets the same reply from both and keeps them tied (`Represents.step`), and so
do any number of requests (`Represents.runWith`).

*Questions.*  A store that represents a map answers every question as the map does
(`Represents.shows`).  The number of records needs the inside: the positions of all records are
listed without repetition because each feature is kept under one spelling of its key.
-/

namespace FeatureFlags

open Text (trim)

/-! ## Requests -/

/-- What is asked of a store. -/
inductive StoreRequest where
  /-- To write an override, or to clear it when there is no value. -/
  | write (key : String) (scope : Scope) (value : Option Bool) (actor : Actor)
  /-- To remove a record. -/
  | delete (key : String) (scope : Scope)
  /-- To remove all records. -/
  | clear
deriving DecidableEq, Repr

/-- What a store replies. -/
inductive StoreReply where
  /-- The result of a write. -/
  | written (result : Except Error Unit)
  /-- Whether there was a record to remove. -/
  | deleted (found : Bool)
  /-- All records are removed. -/
  | cleared

/-- The trimmed key and the scope of the record that a request is about, if it is about one. -/
def StoreRequest.position? : StoreRequest → Option (String × Scope)
  | write key scope _ _ | delete key scope => some (trim key, scope)
  | clear => none

/-- The replies to some requests in their order, and what they leave behind. -/
def runWith {σ : Type} (step : σ → StoreRequest → StoreReply × σ) :
    σ → List StoreRequest → List StoreReply × σ
  | s, [] => ([], s)
  | s, q :: rest =>
    let (reply, s) := step s q
    let (replies, s) := runWith step s rest
    (reply :: replies, s)

/-- The reply of a store, and the store after it. -/
def OverrideStore.step (s : OverrideStore) : StoreRequest → StoreReply × OverrideStore
  | .write key scope value actor =>
    match s.write key scope value actor with
    | .ok s' => (.written (.ok ()), s')
    | .error e => (.written (.error e), s)
  | .delete key scope => (.deleted (s.delete key scope).1, (s.delete key scope).2)
  | .clear => (.cleared, s.clear)

/-! ## The finite map -/

/-- The records of all features, by trimmed key and scope. -/
abbrev FlatRecords := Finmap fun _ : String × Scope => OverrideRecord

namespace FlatRecords

/-- The reply of the map, and the map after it. -/
def step (m : FlatRecords) : StoreRequest → StoreReply × FlatRecords
  | .write key scope value actor =>
    if trim key = "" then (.written (.error (.ofCode .featureKeyRequired)), m)
    else (.written (.ok ()), m.insert (trim key, scope) ⟨.ofWrite value, actor⟩)
  | .delete key scope =>
    (.deleted (m.lookup (trim key, scope)).isSome, m.erase (trim key, scope))
  | .clear => (.cleared, ∅)

variable (m : FlatRecords) (q q' : String × Scope)

/-- The flat map after a write, by one equation. -/
theorem lookup_insert_ite (r : OverrideRecord) :
    (m.insert q r).lookup q' = if q = q' then some r else m.lookup q' := by
  split
  · next h => rw [h, Finmap.lookup_insert]
  · next h => exact Finmap.lookup_insert_of_ne m (Ne.symm h)

/-- The flat map after a deletion, by one equation. -/
theorem lookup_erase_ite : (m.erase q).lookup q' = if q = q' then none else m.lookup q' := by
  split
  · next h => rw [h, Finmap.lookup_erase]
  · next h => exact Finmap.lookup_erase_ne (Ne.symm h)

end FlatRecords

namespace OverrideStore

/-! ## Representation -/

/-- The store holds the records of the map. -/
structure Represents (s : OverrideStore) (m : FlatRecords) : Prop where
  /-- Each record is where the map has it. -/
  record? (key : String) (p : Scope) : s.record? key p = m.lookup (trim key, p)
  /-- The keys of the map are trimmed and not empty. -/
  named {q : String × Scope} : q ∈ m → trim q.1 = q.1 ∧ q.1 ≠ ""
  /-- A feature is kept under its trimmed key. -/
  trimmed {k : String} {d : ScopeRecords} : s.features.find? k = some d → trim k = k
  /-- A feature is kept only as long as it has records. -/
  inhabited {k : String} {d : ScopeRecords} : s.features.find? k = some d → d.isEmpty = false

variable {s : OverrideStore} {m : FlatRecords} {key k : String} {p : Scope} {d : ScopeRecords}

theorem represents_empty : empty.Represents ∅ where
  record? _ _ := rfl
  named h := absurd h Finmap.notMem_empty
  trimmed h := nomatch h
  inhabited h := nomatch h

theorem isEmpty_insert (d : ScopeRecords) (p : Scope) (r : OverrideRecord) :
    (d.insert p r).isEmpty = false := by
  rw [← Bool.not_eq_true]
  intro h
  have hfind := d.find?_insert p p r
  rw [Dict.eq_empty_of_isEmpty h, if_pos rfl] at hfind
  cases hfind

/-- What is kept of a feature after a deletion was kept before, and still has records. -/
theorem find?_features_delete (hd : (s.delete key p).2.features.find? k = some d) :
    ∃ before, s.features.find? k = some before ∧ (before = d ∨ d.isEmpty = false) := by
  rw [delete] at hd
  cases hkey : s.features.find? (trim key) with
  | none =>
    simp only [hkey] at hd
    exact ⟨d, hd, .inl rfl⟩
  | some before =>
    simp only [hkey] at hd
    split at hd
    · rw [Dict.find?_erase] at hd
      split at hd
      · cases hd
      · exact ⟨d, hd, .inl rfl⟩
    · next hrest =>
      rw [Dict.find?_insert] at hd
      split at hd
      · next hk =>
        obtain rfl := Option.some.inj hd
        exact ⟨before, hk ▸ hkey, .inr (Bool.eq_false_iff.2 hrest)⟩
      · exact ⟨d, hd, .inl rfl⟩

/-- A write without a key is refused, and the store stays as it is. -/
theorem step_write_of_blank (h : trim key = "") (s : OverrideStore) (p : Scope)
    (value : Option Bool) (actor : Actor) :
    s.step (.write key p value actor) = (.written (.error (.ofCode .featureKeyRequired)), s) := by
  rw [step, write, if_pos h]

theorem step_write_of_ne (h : trim key ≠ "") (s : OverrideStore) (p : Scope)
    (value : Option Bool) (actor : Actor) :
    s.step (.write key p value actor) =
      (.written (.ok ()), s.put key p ⟨.ofWrite value, actor⟩) := by
  rw [step, write, if_neg h]

namespace Represents

/-- Writing a record and writing it into the flat map come to the same. -/
theorem put (h : s.Represents m) (hkey : trim key ≠ "") (p : Scope) (r : OverrideRecord) :
    (s.put key p r).Represents (m.insert (trim key, p) r) := by
  have hfind (k : String) : (s.put key p r).features.find? k =
      if trim key = k then some ((s.scopes key).insert p r) else s.features.find? k :=
    Dict.find?_insert ..
  refine ⟨fun k p' => ?_, fun hq => ?_, fun hd => ?_, fun hd => ?_⟩
  · simp only [record?_put, FlatRecords.lookup_insert_ite, Prod.mk.injEq, h.record?]
  · rcases Finmap.mem_insert.1 hq with rfl | hq
    · exact ⟨Text.trim_trim key, hkey⟩
    · exact h.named hq
  · rw [hfind] at hd
    split at hd
    · next hk => exact hk ▸ Text.trim_trim key
    · exact h.trimmed hd
  · rw [hfind] at hd
    split at hd
    · exact Option.some.inj hd ▸ isEmpty_insert ..
    · exact h.inhabited hd

/-- Deleting a record and erasing it from the flat map come to the same, also when the last record
of a feature goes. -/
theorem delete (h : s.Represents m) (key : String) (p : Scope) :
    (s.delete key p).2.Represents (m.erase (trim key, p)) := by
  refine ⟨fun k p' => ?_, fun hq => h.named (Finmap.mem_erase.1 hq).2, fun hd => ?_, fun hd => ?_⟩
  · simp only [record?_delete, FlatRecords.lookup_erase_ite, Prod.mk.injEq, h.record?]
  · obtain ⟨before, hbefore, -⟩ := find?_features_delete hd
    exact h.trimmed hbefore
  · obtain ⟨before, hbefore, rfl | hrest⟩ := find?_features_delete hd
    · exact h.inhabited hbefore
    · exact hrest

/-- One request gets the same reply and keeps store and map tied. -/
theorem step (h : s.Represents m) (q : StoreRequest) :
    (s.step q).1 = (m.step q).1 ∧ (s.step q).2.Represents (m.step q).2 := by
  cases q with
  | write key p value actor =>
    rw [FlatRecords.step]
    split
    · next hkey =>
      rw [step_write_of_blank hkey]
      exact ⟨rfl, h⟩
    · next hkey =>
      rw [step_write_of_ne hkey]
      exact ⟨rfl, h.put hkey p _⟩
  | delete key p =>
    refine ⟨?_, h.delete key p⟩
    show StoreReply.deleted _ = .deleted _
    rw [fst_delete, h.record?]
  | clear => exact ⟨rfl, represents_empty⟩

/-- Any number of requests get the same replies and keep store and map tied. -/
theorem runWith (h : s.Represents m) (requests : List StoreRequest) :
    (runWith OverrideStore.step s requests).1 = (runWith FlatRecords.step m requests).1 ∧
      (runWith OverrideStore.step s requests).2.Represents
        (runWith FlatRecords.step m requests).2 := by
  induction requests generalizing s m with
  | nil => exact ⟨rfl, h⟩
  | cons q rest ih =>
    obtain ⟨hreply, hnext⟩ := h.step q
    obtain ⟨hreplies, hlast⟩ := ih hnext
    exact ⟨congrArg₂ List.cons hreply hreplies, hlast⟩

end Represents

/-- A request changes no record but the one it is about. -/
theorem record?_step_of_ne {request : StoreRequest} {q : String × Scope}
    (hq : request.position? = some q) (hne : (trim k, p) ≠ q) (s : OverrideStore) :
    (s.step request).2.record? k p = s.record? k p := by
  cases request with
  | write key scope value actor =>
    obtain rfl := Option.some.inj hq
    by_cases hkey : trim key = ""
    · rw [step_write_of_blank hkey]
    · rw [step_write_of_ne hkey, record?_put, if_neg]
      rintro ⟨hk, rfl⟩
      exact hne (by rw [hk])
  | delete key scope =>
    obtain rfl := Option.some.inj hq
    show (s.delete key scope).2.record? k p = _
    rw [record?_delete, if_neg]
    rintro ⟨hk, rfl⟩
    exact hne (by rw [hk])
  | clear => cases hq

/-! ## The number of records -/

/-- The keys and scopes of all records. -/
def positions (s : OverrideStore) : List (String × Scope) :=
  s.features.entries.flatMap fun e => e.2.keys.map (e.1, ·)

/-- Every record is at one position. -/
theorem length_positions (s : OverrideStore) : s.positions.length = s.size := by
  rw [size, Dict.values, List.foldl_map, positions, List.length_flatMap, List.sum_eq_foldl,
    List.foldl_map]
  simp only [List.length_map, Dict.keys, Dict.size]

theorem mem_positions :
    (k, p) ∈ s.positions ↔ ∃ d, s.features.find? k = some d ∧ (d.find? p).isSome := by
  simp only [positions, List.mem_flatMap, List.mem_map, Prod.mk.injEq, Prod.exists]
  constructor
  · rintro ⟨k, d, hd, p, hp, rfl, rfl⟩
    exact ⟨d, Dict.mem_entries_iff.1 hd, Dict.contains_iff.2 hp⟩
  · rintro ⟨d, hd, hp⟩
    exact ⟨k, d, Dict.mem_entries_iff.2 hd, p, Dict.contains_iff.1 hp, rfl, rfl⟩

theorem nodup_positions (s : OverrideStore) : s.positions.Nodup := by
  refine List.nodup_flatMap.2 ⟨fun e _ => ?_, ?_⟩
  · exact e.2.nodup_keys.map fun p p' h => (Prod.mk.inj h).2
  · refine (List.pairwise_map.1 s.features.nodup_keys).imp fun {e e'} hne q hq hq' => ?_
    obtain ⟨p, -, rfl⟩ := List.mem_map.1 hq
    obtain ⟨p', -, heq⟩ := List.mem_map.1 hq'
    exact hne (Prod.mk.inj heq).1.symm

namespace Represents

/-- The positions of the flat map are those of the nested one. -/
theorem mem_iff (h : s.Represents m) (key : String) (p : Scope) :
    (trim key, p) ∈ m ↔ ∃ d, s.features.find? (trim key) = some d ∧ (d.find? p).isSome := by
  rw [← Finmap.lookup_isSome, ← h.record?, OverrideStore.record?, scopes]
  cases s.features.find? (trim key) with
  | none => simp
  | some d => simp

/-- The positions of the records are the keys of the map. -/
theorem toFinset_positions (h : s.Represents m) : s.positions.toFinset = m.keys := by
  ext ⟨k, p⟩
  rw [List.mem_toFinset, mem_positions, Finmap.mem_keys]
  constructor
  · rintro ⟨d, hd, hp⟩
    have hk := h.trimmed hd
    rw [← hk] at hd ⊢
    exact (h.mem_iff k p).2 ⟨d, hd, hp⟩
  · intro hq
    have hk : trim k = k := (h.named hq).1
    rw [← hk] at hq ⊢
    exact (h.mem_iff k p).1 hq

/-- The size of the store is the number of keys of the flat map. -/
theorem size (h : s.Represents m) : s.size = m.keys.card := by
  rw [← length_positions, ← List.toFinset_card_of_nodup s.nodup_positions, h.toFinset_positions]

/-- A feature is kept exactly as long as it has records. -/
theorem mem_keys_iff (h : s.Represents m) : k ∈ s.features.keys ↔ ∃ p, (k, p) ∈ m := by
  rw [← Dict.contains_iff, Dict.contains, Option.isSome_iff_exists]
  constructor
  · rintro ⟨d, hd⟩
    have hk := h.trimmed hd
    have hne := h.inhabited hd
    cases hentries : d.entries with
    | nil =>
      rw [Dict.isEmpty, hentries] at hne
      cases hne
    | cons e rest =>
      have he : d.find? e.1 = some e.2 := Dict.mem_entries_iff.1 (hentries ▸ List.mem_cons_self)
      rw [← hk] at hd ⊢
      exact ⟨e.1, (h.mem_iff k e.1).2 ⟨d, hd, Option.isSome_of_eq_some he⟩⟩
  · rintro ⟨p, hq⟩
    have hk : trim k = k := (h.named hq).1
    rw [← hk] at hq ⊢
    obtain ⟨d, hd, -⟩ := (h.mem_iff k p).1 hq
    exact ⟨d, hd⟩

end Represents

/-! ## The main theorem -/

/-- Every question to the store is answered as the map answers it. -/
structure Shows (s : OverrideStore) (m : FlatRecords) : Prop where
  /-- The record of a feature at a scope. -/
  record? (key : String) (p : Scope) : s.record? key p = m.lookup (trim key, p)
  /-- The state of a feature at a scope. -/
  get (key : String) (p : Scope) :
    s.get key p = (m.lookup (trim key, p)).elim .missing OverrideRecord.state
  /-- The records of a feature, each scope once. -/
  recordsFor (key : String) : ((s.recordsFor key).map Prod.fst).Nodup ∧
    ∀ p r, (p, r) ∈ s.recordsFor key ↔ m.lookup (trim key, p) = some r
  /-- What is found for a feature at the scopes of a chain, in its order. -/
  getAll (key : String) (chain : Chain) :
    s.getAll key chain =
      chain.filterMap fun p => (m.lookup (trim key, p)).map fun r => ⟨p, r.state⟩
  /-- The number of records. -/
  size : s.size = m.keys.card
  /-- Whether there is no record. -/
  isEmpty : s.isEmpty = true ↔ m = ∅
  /-- Whether there is a record to remove. -/
  delete (key : String) (p : Scope) : (s.delete key p).1 = true ↔ (trim key, p) ∈ m
  /-- The features that are kept. -/
  features (k : String) : k ∈ s.features.keys ↔ ∃ p, (k, p) ∈ m

/-- Everything that can be seen of a store can be read off the flat map. -/
theorem Represents.shows (h : s.Represents m) : s.Shows m where
  record? := h.record?
  get key p := by rw [OverrideStore.get, h.record?]
  recordsFor key := by
    refine ⟨(s.scopes key).nodup_keys, fun p r => ?_⟩
    rw [OverrideStore.recordsFor, Dict.mem_entries_iff, ← h.record?]
    rfl
  getAll key chain := by simp only [OverrideStore.getAll, h.record?]
  size := h.size
  isEmpty := by
    rw [OverrideStore.isEmpty, decide_eq_true_iff, h.size, Finset.card_eq_zero]
    constructor
    · intro hkeys
      refine Finmap.ext_lookup fun q => ?_
      rw [Finmap.lookup_empty, Finmap.lookup_eq_none, ← Finmap.mem_keys, hkeys]
      exact Finset.notMem_empty q
    · rintro rfl
      exact Finmap.keys_empty
  delete key p := by rw [fst_delete, h.record?, Finmap.lookup_isSome]
  features _ := h.mem_keys_iff

/-- A store that was written and deleted from in any way is a finite map from trimmed keys and
scopes to the records last written there.  It replies to every request and answers every question
as the map does.  A write without a key is refused and changes nothing, and a request about one
record changes no other. -/
theorem store_shows_flat_records (requests : List StoreRequest) :
    let s := (runWith OverrideStore.step empty requests).2
    let m := (runWith FlatRecords.step ∅ requests).2
    (runWith OverrideStore.step empty requests).1 = (runWith FlatRecords.step ∅ requests).1 ∧
    s.Shows m ∧ (∀ q ∈ m, trim q.1 = q.1 ∧ q.1 ≠ "") ∧
    (∀ key, trim key = "" → ∀ p value actor, s.write key p value actor =
        .error (.ofCode .featureKeyRequired) ∧
      s.step (.write key p value actor) =
        (.written (.error (.ofCode .featureKeyRequired)), s)) ∧
    ∀ request q, request.position? = some q → ∀ k p, (trim k, p) ≠ q →
      (s.step request).2.record? k p = s.record? k p := by
  intro s m
  obtain ⟨hreplies, hrepresents⟩ := represents_empty.runWith requests
  refine ⟨hreplies, hrepresents.shows, fun q hq => hrepresents.named hq, ?_, ?_⟩
  · intro key hkey p value actor
    exact ⟨if_pos hkey, step_write_of_blank hkey ..⟩
  · intro request q hq k p hne
    exact record?_step_of_ne hq hne s

/-- A feature is turned on at a tenant and off in the system, then the first of these is cleared
and the second removed. -/
theorem store_shows_flat_records_clearedTenant :
    let ann : Actor := ⟨"ann", "user", "Ann"⟩
    let requests : List StoreRequest :=
      [.write " f " (.tenant "t") (some true) ann, .write "f" .system (some false) ann,
        .write "f " (.tenant "t") none ann, .delete "f" .system]
    let s := (runWith step empty requests).2
    let m := (runWith FlatRecords.step ∅ requests).2
    m.lookup ("f", .tenant "t") = some ⟨.unset, ann⟩ ∧ m.keys.card = 1 ∧
    (trim " " = "" ∧
      s.step (.write " " .system (some true) ann) =
        (.written (.error (.ofCode .featureKeyRequired)), s)) ∧
    ((StoreRequest.delete "f" .system).position? = some ("f", .system) ∧
      (trim "f", Scope.tenant "t") ≠ ("f", .system) ∧
      (s.step (.delete "f" .system)).2.record? "f" (.tenant "t") = some ⟨.unset, ann⟩) := by
  intro ann requests s m
  obtain ⟨-, hshows, -, hblank, hothers⟩ := store_shows_flat_records requests
  have htrim : trim "f" = "f" := by decide
  have hposition : (StoreRequest.delete "f" .system).position? = some ("f", .system) := by decide
  have hne : (trim "f", Scope.tenant "t") ≠ ("f", .system) := by decide
  have hrecord : s.record? "f" (.tenant "t") = some ⟨.unset, ann⟩ := by decide +kernel
  have hsize : s.size = 1 := by decide +kernel
  have hempty : trim " " = "" := by decide
  refine ⟨?_, hshows.size.symm.trans hsize, ⟨hempty, (hblank " " hempty ..).2⟩, hposition, hne, ?_⟩
  · have hlookup := hshows.record? "f" (.tenant "t")
    rw [htrim] at hlookup
    exact hlookup.symm.trans hrecord
  · exact (hothers _ _ hposition "f" _ hne).trans hrecord

end OverrideStore

end FeatureFlags
