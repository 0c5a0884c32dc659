import FeatureFlags.Gate.Basic
import FeatureFlags.Proofs.Collections
import FeatureFlags.Proofs.Trimming

/-!
# The two directions of the legacy keys

A table of legacy keys holds each of its pairs twice: under the legacy key, and in the list of
the canonical key.  `AliasTable.Consistent` says that both tell the same pairs, that every pair
is of two different trimmed keys that are not empty, and that the lists are ascending.  Every
table that is made from pairs is consistent, whatever the pairs are.
-/

namespace FeatureFlags

open Text (trim trim_trim)

namespace AliasTable

variable {t : AliasTable} {legacy canonical a c : String}

/-- The two directions of a table tell the same pairs, and each pair says something. -/
structure Consistent (t : AliasTable) : Prop where
  /-- A legacy key is in the list of its canonical key and in no other. -/
  mem_listed (a c : String) : a ∈ t.listed c ↔ t.canonicalOf.find? a = some c
  /-- The lists are ascending. -/
  ascending (c : String) : Ascending (t.listed c)
  /-- The two keys of a pair differ, and neither is empty. -/
  effective (a c : String) : t.canonicalOf.find? a = some c → Effective a c
  /-- The two keys of a pair are trimmed. -/
  trimmed (a c : String) : t.canonicalOf.find? a = some c → trim a = a ∧ trim c = c

theorem consistent_empty : empty.Consistent where
  mem_listed a c := ⟨fun h => (by cases h), fun h => (by cases h)⟩
  ascending c := .nil
  effective a c h := by cases h
  trimmed a c h := by cases h

/-! ## One pair -/

/-- Only the list of the old canonical key loses the legacy key. -/
theorem listed_unlist (t : AliasTable) (legacy c : String) :
    (t.unlist legacy).listed c =
      if t.canonicalOf.find? legacy = some c then (t.listed c).filter (· ≠ legacy)
      else t.listed c := by
  rw [unlist]
  split
  · next h => simp [h]
  · next previous h =>
    simp only [listed, Dict.find?_insert, h, Option.some.injEq]
    split
    · next hc => simp [hc]
    · rfl

/-- Only the list of the new canonical key gains the legacy key. -/
theorem listed_link (t : AliasTable) (legacy canonical c : String) :
    (t.link legacy canonical).listed c =
      if canonical = c then sorted ((t.unlist legacy).listed c ++ [legacy])
      else (t.unlist legacy).listed c := by
  simp only [link, listed, Dict.find?_insert]
  split
  · next hc => simp [hc]
  · rfl

theorem find?_canonicalOf_link (t : AliasTable) (legacy canonical a : String) :
    (t.link legacy canonical).canonicalOf.find? a =
      if legacy = a then some canonical else t.canonicalOf.find? a :=
  Dict.find?_insert ..

namespace Consistent

/-- A key that is taken off the lists is on none of them. -/
theorem mem_listed_unlist (h : t.Consistent) (legacy a c : String) :
    a ∈ (t.unlist legacy).listed c ↔ a ≠ legacy ∧ t.canonicalOf.find? a = some c := by
  rw [listed_unlist]
  split
  · simp [h.mem_listed, and_comm]
  · next hc =>
    rw [h.mem_listed]
    refine ⟨fun ha => ⟨?_, ha⟩, And.right⟩
    rintro rfl
    exact hc ha

/-- A list that loses a key stays ascending. -/
theorem ascending_unlist (h : t.Consistent) (legacy c : String) :
    Ascending ((t.unlist legacy).listed c) := by
  rw [listed_unlist]
  split
  · exact (h.ascending c).filter _
  · exact h.ascending c

/-- A key that was taken off a list and is put on it again is there once. -/
theorem ascending_relist (h : t.Consistent) (legacy c : String) :
    Ascending (sorted ((t.unlist legacy).listed c ++ [legacy])) := by
  have hoff : legacy ∉ (t.unlist legacy).listed c :=
    fun hmem => ((h.mem_listed_unlist legacy legacy c).1 hmem).1 rfl
  have hnodup : ((t.unlist legacy).listed c).Nodup :=
    nodup_of_ascending (h.ascending_unlist legacy c)
  exact ascending_sorted (List.nodup_append_comm.1 (List.nodup_cons.2 ⟨hoff, hnodup⟩))

/-- A pair of trimmed keys that says something keeps the table consistent, whether its legacy
key is new, moves to another canonical key or stays where it is. -/
theorem link (h : t.Consistent) (he : Effective legacy canonical) (ha : trim legacy = legacy)
    (hc : trim canonical = canonical) : (t.link legacy canonical).Consistent where
  mem_listed a c := by
    rw [listed_link, find?_canonicalOf_link]
    split
    · next hcanonical =>
      rw [mem_sortedBy, List.mem_append, List.mem_singleton, h.mem_listed_unlist]
      by_cases halias : legacy = a
      · simp [halias, hcanonical]
      · simp [halias, Ne.symm halias]
    · next hcanonical =>
      rw [h.mem_listed_unlist]
      by_cases halias : legacy = a
      · simp [halias, hcanonical]
      · simp [halias, Ne.symm halias]
  ascending c := by
    rw [listed_link]
    split
    · exact h.ascending_relist legacy c
    · exact h.ascending_unlist legacy c
  effective a c hfind := by
    rw [find?_canonicalOf_link] at hfind
    split at hfind
    · next halias =>
      obtain rfl := Option.some.inj hfind
      exact halias ▸ he
    · exact h.effective a c hfind
  trimmed a c hfind := by
    rw [find?_canonicalOf_link] at hfind
    split at hfind
    · next halias =>
      obtain rfl := Option.some.inj hfind
      exact ⟨halias ▸ ha, hc⟩
    · exact h.trimmed a c hfind

/-- A pair that says nothing is passed over, and every other one is linked. -/
theorem insert (h : t.Consistent) (legacy canonical : String) :
    (t.insert legacy canonical).Consistent := by
  rw [AliasTable.insert]
  split
  · next he => exact h.link he (trim_trim legacy) (trim_trim canonical)
  · exact h

end Consistent

/-! ## All pairs -/

/-- Every table that is made from pairs is consistent, by induction on the pairs. -/
theorem consistent_ofPairs (pairs : List (String × String)) : (ofPairs pairs).Consistent := by
  suffices h : ∀ t : AliasTable, t.Consistent →
      (pairs.foldl (fun t p => t.insert p.1 p.2) t).Consistent from h empty consistent_empty
  induction pairs with
  | nil => exact fun t ht => ht
  | cons p rest ih =>
    intro t ht
    rw [List.foldl_cons]
    exact ih _ (ht.insert p.1 p.2)

namespace Consistent

/-! ## Canonical keys -/

/-- A key is its own canonical key, or the table has a pair that leads to another one. -/
theorem normalize_cases (h : t.Consistent) (key : String) :
    t.normalize key = trim key ∨ Effective (trim key) (t.normalize key) := by
  rw [normalize]
  cases hfind : t.canonicalOf.find? (trim key) with
  | none => exact .inl rfl
  | some c => exact .inr (h.effective _ _ hfind)

@[simp] theorem trim_normalize (h : t.Consistent) (key : String) :
    trim (t.normalize key) = t.normalize key := by
  rw [normalize]
  cases hfind : t.canonicalOf.find? (trim key) with
  | none => exact trim_trim key
  | some c => exact (h.trimmed _ _ hfind).2

/-- Only an empty key has an empty canonical key. -/
theorem normalize_eq_empty_iff (h : t.Consistent) (key : String) :
    t.normalize key = "" ↔ trim key = "" := by
  rcases h.normalize_cases key with heq | ⟨hkey, hcanonical, -⟩
  · rw [heq]
  · exact ⟨fun hn => absurd hn hcanonical, fun hk => absurd hk hkey⟩

/-- The list of a key tells which legacy keys have it as their canonical key. -/
theorem mem_aliasesFor_iff (h : t.Consistent) :
    a ∈ t.aliasesFor c ↔ t.canonicalOf.find? a = some (trim c) :=
  h.mem_listed a (trim c)

theorem trim_of_mem_aliasesFor (h : t.Consistent) (ha : a ∈ t.aliasesFor c) : trim a = a :=
  (h.trimmed _ _ (h.mem_aliasesFor_iff.1 ha)).1

/-- A legacy key in the list of a key has that key as its canonical key. -/
theorem normalize_of_mem_aliasesFor (h : t.Consistent) (ha : a ∈ t.aliasesFor c) :
    t.normalize a = trim c := by
  rw [normalize, h.trim_of_mem_aliasesFor ha, h.mem_aliasesFor_iff.1 ha, Option.getD_some]

/-- A key with a canonical key of its own is not that key. -/
theorem normalize_ne_of_isAlias (h : t.Consistent) (hc : t.isAlias c = true) :
    t.normalize c ≠ trim c := by
  obtain ⟨d, hd⟩ := Option.isSome_iff_exists.1 hc
  rw [normalize, hd, Option.getD_some]
  exact (h.effective _ _ hd).2.2.symm

theorem ascending_aliasesFor (h : t.Consistent) (c : String) : Ascending (t.aliasesFor c) :=
  h.ascending (trim c)

theorem trim_ne_empty_of_mem_aliasesFor (h : t.Consistent) (ha : a ∈ t.aliasesFor c) :
    trim a ≠ "" := by
  rw [h.trim_of_mem_aliasesFor ha]
  exact (h.effective _ _ (h.mem_aliasesFor_iff.1 ha)).1

end Consistent

theorem find?_trim_eq_none_of_not_isAlias (h : t.isAlias c = false) :
    t.canonicalOf.find? (trim c) = none :=
  Option.not_isSome_iff_eq_none.1 (Bool.eq_false_iff.1 h)

/-- A key that is no legacy key is its own canonical key. -/
theorem normalize_of_not_isAlias (h : t.isAlias c = false) : t.normalize c = trim c := by
  rw [normalize, find?_trim_eq_none_of_not_isAlias h, Option.getD_none]

end AliasTable

/-- A gate over the store for which a feature was renamed. -/
def Gate.renaming : Gate where
  config := { aliases := .ofList [("old", "new")] }
  accepted := rfl
  normalizer := .standard
  collaborators := { reader := some .ofStore, writer := some .ofStore }

theorem Gate.consistent_aliases (g : Gate) : g.aliases.Consistent :=
  AliasTable.consistent_ofPairs _

/-- A gate never turns a key into an empty one. -/
theorem Gate.normalize_ne_empty {g : Gate} {key : String} (h : trim key ≠ "") :
    g.aliases.normalize key ≠ "" := by
  rwa [Ne, g.consistent_aliases.normalize_eq_empty_iff]

end FeatureFlags
