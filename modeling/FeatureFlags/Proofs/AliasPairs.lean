import FeatureFlags.Proofs.Collections
import FeatureFlags.Proofs.LegacyKeys

/-!
# What the pairs say

A table of legacy keys is made from pairs that come one after the other.  Of the pairs about a
legacy key the last one counts (`GivesLast`), so everything the table tells can be read off the
list of pairs (`Tells`), however often keys were moved from one canonical key to another and back.

When no two pairs have the same legacy key, no pair undoes another.  Then the pairs may come in any
order: the tables are equal, and not only what they tell.  For this the lists of the canonical keys
matter too, since a key keeps its list, maybe empty, when its legacy keys are moved
(`contains_aliasesOf_ofPairs`).
-/

namespace FeatureFlags

open Text (trim trim_trim)

namespace AliasTable

variable {t : AliasTable} {pairs pairs' : List (String × String)} {p : String × String}
  {legacy canonical a c key : String}

/-- The pair says something about the legacy key. -/
def IsAbout (legacy : String) (p : String × String) : Prop :=
  trim p.1 = legacy ∧ Effective (trim p.1) (trim p.2)

instance (legacy : String) (p : String × String) : Decidable (IsAbout legacy p) :=
  inferInstanceAs (Decidable (_ ∧ _))

/-- The last pair about the legacy key gives it the canonical key. -/
def GivesLast (pairs : List (String × String)) (legacy canonical : String) : Prop :=
  ∃ before p after, pairs = before ++ p :: after ∧ IsAbout legacy p ∧ trim p.2 = canonical ∧
    ∀ q ∈ after, ¬ IsAbout legacy q

/-- The legacy keys that the pairs say something about. -/
def legacyKeys (pairs : List (String × String)) : Finset String :=
  ((pairs.filter fun p => Effective (trim p.1) (trim p.2)).map fun p => trim p.1).toFinset

/-- The table tells of every key what the pairs say. -/
structure Tells (t : AliasTable) (pairs : List (String × String)) : Prop where
  /-- The canonical key of a key is the one it was given last. -/
  normalize_of_givesLast (key c : String) : GivesLast pairs (trim key) c → t.normalize key = c
  /-- A key that was given none is its own canonical key. -/
  normalize_of_not (key : String) : (∀ c, ¬ GivesLast pairs (trim key) c) →
    t.normalize key = trim key
  /-- The legacy keys are those that were given a canonical key. -/
  isAlias_iff (key : String) : t.isAlias key = true ↔ ∃ c, GivesLast pairs (trim key) c
  /-- A key is replaced exactly if it is a legacy key. -/
  resolve (key : String) : t.resolve key = (t.normalize key, t.isAlias key)
  /-- The legacy keys of a key are ascending. -/
  ascending (c : String) : Ascending (t.aliasesFor c)
  /-- They are the trimmed legacy keys that have it as their canonical key. -/
  mem_aliasesFor (a c : String) :
    a ∈ t.aliasesFor c ↔ trim a = a ∧ t.isAlias a = true ∧ t.normalize a = trim c
  /-- Each legacy key counts once. -/
  size : t.size = (legacyKeys pairs).card

/-! ## One more pair -/

theorem ofPairs_concat (pairs : List (String × String)) (p : String × String) :
    ofPairs (pairs ++ [p]) = (ofPairs pairs).insert p.1 p.2 := by
  rw [ofPairs, List.foldl_append]
  rfl

theorem find?_canonicalOf_insert (t : AliasTable) (p : String × String) (k : String) :
    (t.insert p.1 p.2).canonicalOf.find? k =
      if IsAbout k p then some (trim p.2) else t.canonicalOf.find? k := by
  rw [insert]
  split
  · next he => simp only [find?_canonicalOf_link, IsAbout, he, and_true]
  · next he => simp only [IsAbout, he, and_false, if_false]

theorem givesLast_concat :
    GivesLast (pairs ++ [p]) legacy canonical ↔
      IsAbout legacy p ∧ trim p.2 = canonical ∨
        ¬ IsAbout legacy p ∧ GivesLast pairs legacy canonical := by
  constructor
  · rintro ⟨before, q, after, heq, hq, hcanonical, hafter⟩
    rcases List.eq_nil_or_concat after with rfl | ⟨after, r, rfl⟩
    · obtain ⟨-, hpq⟩ := List.append_inj' heq rfl
      obtain rfl := List.singleton_inj.1 hpq
      exact .inl ⟨hq, hcanonical⟩
    · rw [List.concat_eq_append] at heq hafter
      rw [← List.cons_append, ← List.append_assoc] at heq
      obtain ⟨rfl, hpr⟩ := List.append_inj' heq rfl
      obtain rfl := List.singleton_inj.1 hpr
      rw [List.forall_mem_append, List.forall_mem_singleton] at hafter
      exact .inr ⟨hafter.2, before, q, after, rfl, hq, hcanonical, hafter.1⟩
  · rintro (⟨hp, hcanonical⟩ | ⟨hp, before, q, after, rfl, hq, hcanonical, hafter⟩)
    · exact ⟨pairs, p, [], rfl, hp, hcanonical, fun _ h => nomatch h⟩
    · refine ⟨before, q, after ++ [p], by simp, hq, hcanonical, ?_⟩
      rw [List.forall_mem_append, List.forall_mem_singleton]
      exact ⟨hafter, hp⟩

/-- Of the pairs about a legacy key there is a last one. -/
theorem exists_isAbout_iff : (∃ p ∈ pairs, IsAbout legacy p) ↔ ∃ c, GivesLast pairs legacy c := by
  induction pairs using List.reverseRecOn with
  | nil => simp [GivesLast]
  | append_singleton pairs p ih =>
    simp only [List.mem_append, List.mem_singleton, or_and_right, exists_or, exists_eq_left,
      givesLast_concat, exists_and_left, ih]
    by_cases hp : IsAbout legacy p
    · simp [hp]
    · simp [hp]

/-- The canonical key of a legacy key is the one it was given last. -/
theorem find?_canonicalOf_ofPairs :
    (ofPairs pairs).canonicalOf.find? legacy = some canonical ↔
      GivesLast pairs legacy canonical := by
  induction pairs using List.reverseRecOn with
  | nil => simp [ofPairs, empty, GivesLast]
  | append_singleton pairs p ih =>
    rw [ofPairs_concat, find?_canonicalOf_insert, givesLast_concat]
    split
    · next hp => simp [hp]
    · next hp => simp [hp, ih]

/-! ## What the table tells -/

theorem mem_legacyKeys : legacy ∈ legacyKeys pairs ↔ ∃ p ∈ pairs, IsAbout legacy p := by
  simp only [legacyKeys, List.mem_toFinset, List.mem_map, List.mem_filter, decide_eq_true_eq,
    IsAbout]
  constructor
  · rintro ⟨p, ⟨hp, he⟩, rfl⟩
    exact ⟨p, hp, rfl, he⟩
  · rintro ⟨p, hp, rfl, he⟩
    exact ⟨p, ⟨hp, he⟩, rfl⟩

theorem normalize_of_find? (h : t.canonicalOf.find? (trim key) = some c) : t.normalize key = c := by
  rw [normalize, h, Option.getD_some]

theorem isAlias_eq_true_iff :
    t.isAlias key = true ↔ ∃ c, t.canonicalOf.find? (trim key) = some c :=
  Option.isSome_iff_exists

namespace Consistent

/-- The canonical key of a legacy key is another key, so it is seen that it was replaced. -/
theorem resolve_eq (h : t.Consistent) (key : String) :
    t.resolve key = (t.normalize key, t.isAlias key) := by
  rw [resolve]
  refine congrArg (t.normalize key, ·) ?_
  cases hkey : t.isAlias key with
  | false => simp [normalize_of_not_isAlias hkey]
  | true =>
    have hempty : t.normalize key ≠ "" := by
      obtain ⟨c, hc⟩ := isAlias_eq_true_iff.1 hkey
      rw [normalize_of_find? hc]
      exact (h.effective _ _ hc).2.1
    simp [hempty, h.normalize_ne_of_isAlias hkey]

/-- The list of a key and the canonical keys tell the same. -/
theorem mem_aliasesFor_iff_normalize (h : t.Consistent) :
    a ∈ t.aliasesFor c ↔ trim a = a ∧ t.isAlias a = true ∧ t.normalize a = trim c := by
  constructor
  · intro ha
    have htrim := h.trim_of_mem_aliasesFor ha
    refine ⟨htrim, isAlias_eq_true_iff.2 ⟨trim c, ?_⟩, h.normalize_of_mem_aliasesFor ha⟩
    rw [htrim]
    exact h.mem_aliasesFor_iff.1 ha
  · rintro ⟨htrim, halias, hc⟩
    obtain ⟨d, hd⟩ := isAlias_eq_true_iff.1 halias
    obtain rfl := (normalize_of_find? hd).symm.trans hc
    rwa [htrim, ← h.mem_aliasesFor_iff] at hd

end Consistent

theorem tells_ofPairs (pairs : List (String × String)) : (ofPairs pairs).Tells pairs where
  normalize_of_givesLast key c h := normalize_of_find? (find?_canonicalOf_ofPairs.2 h)
  normalize_of_not key h := by
    have hnone : (ofPairs pairs).isAlias key = false := by
      rw [← Bool.not_eq_true, isAlias_eq_true_iff]
      rintro ⟨c, hc⟩
      exact h c (find?_canonicalOf_ofPairs.1 hc)
    exact normalize_of_not_isAlias hnone
  isAlias_iff key := by simp only [isAlias_eq_true_iff, find?_canonicalOf_ofPairs]
  resolve := (consistent_ofPairs pairs).resolve_eq
  ascending := (consistent_ofPairs pairs).ascending_aliasesFor
  mem_aliasesFor a c := (consistent_ofPairs pairs).mem_aliasesFor_iff_normalize
  size := by
    refine Dict.size_eq_card fun legacy => ?_
    rw [mem_legacyKeys, Option.isSome_iff_exists]
    simp only [find?_canonicalOf_ofPairs]
    exact exists_isAbout_iff

/-! ## Pairs in another order -/

theorem find?_aliasesOf (t : AliasTable) (c : String) :
    t.aliasesOf.find? c = if t.aliasesOf.contains c = true then some (t.listed c) else none := by
  rw [Dict.contains, listed]
  cases t.aliasesOf.find? c with
  | none => rfl
  | some keys => rfl

namespace Consistent

/-- A canonical key has a list. -/
theorem contains_aliasesOf_of_find? (h : t.Consistent) (hfind : t.canonicalOf.find? a = some c) :
    t.aliasesOf.contains c = true := by
  have hlisted : a ∈ t.listed c := (h.mem_listed a c).2 hfind
  rw [Dict.contains]
  cases hc : t.aliasesOf.find? c with
  | none =>
    rw [listed, hc] at hlisted
    cases hlisted
  | some keys => rfl

/-- A key that is taken off a list leaves the list there, maybe empty. -/
theorem contains_aliasesOf_unlist (h : t.Consistent) (legacy c : String) :
    (t.unlist legacy).aliasesOf.contains c = true ↔ t.aliasesOf.contains c = true := by
  rw [unlist]
  split
  · exact Iff.rfl
  · next previous hfind =>
    rw [Dict.contains_insert]
    refine or_iff_right_of_imp fun hc => ?_
    exact hc ▸ h.contains_aliasesOf_of_find? hfind

theorem contains_aliasesOf_link (h : t.Consistent) (legacy canonical c : String) :
    (t.link legacy canonical).aliasesOf.contains c = true ↔
      canonical = c ∨ t.aliasesOf.contains c = true := by
  rw [AliasTable.link, Dict.contains_insert, h.contains_aliasesOf_unlist]

/-- A consistent table is known by its canonical keys and by which keys have a list. -/
theorem eq_of_canonicalOf_eq {u : AliasTable} (h : t.Consistent) (h' : u.Consistent)
    (hcanonical : t.canonicalOf = u.canonicalOf)
    (hlists : ∀ c, t.aliasesOf.contains c = true ↔ u.aliasesOf.contains c = true) : t = u := by
  have hlisted (c : String) : t.listed c = u.listed c := by
    refine eq_of_ascending (h.ascending c) (h'.ascending c) fun a => ?_
    rw [h.mem_listed, h'.mem_listed, hcanonical]
  have haliases : t.aliasesOf = u.aliasesOf := by
    refine Dict.ext_find? fun c => ?_
    rw [t.find?_aliasesOf, u.find?_aliasesOf, hlisted]
    simp only [hlists]
  cases t
  cases u
  exact (mk.injEq ..).mpr ⟨hcanonical, haliases⟩

end Consistent

/-- The keys with a list are those that were given a legacy key at some time. -/
theorem contains_aliasesOf_ofPairs :
    (ofPairs pairs).aliasesOf.contains c = true ↔
      ∃ p ∈ pairs, Effective (trim p.1) (trim p.2) ∧ trim p.2 = c := by
  induction pairs using List.reverseRecOn with
  | nil => simp [ofPairs, empty, Dict.contains]
  | append_singleton pairs p ih =>
    simp only [ofPairs_concat, List.mem_append, List.mem_singleton, or_and_right, exists_or,
      exists_eq_left, ← ih, insert]
    split
    · next he => simp [(consistent_ofPairs pairs).contains_aliasesOf_link, he, or_comm]
    · next he => simp [he]

/-- When no two pairs have the same legacy key, every pair about a key is the last one. -/
theorem givesLast_iff_of_nodup (h : (pairs.map fun p => trim p.1).Nodup) :
    GivesLast pairs legacy canonical ↔ ∃ p ∈ pairs, IsAbout legacy p ∧ trim p.2 = canonical := by
  constructor
  · rintro ⟨before, p, after, rfl, hp, hcanonical, -⟩
    exact ⟨p, by simp, hp, hcanonical⟩
  · rintro ⟨p, hmem, hp, hcanonical⟩
    obtain ⟨before, after, rfl⟩ := List.append_of_mem hmem
    refine ⟨before, p, after, rfl, hp, hcanonical, fun q hq hlegacy => ?_⟩
    rw [List.map_append, List.map_cons] at h
    have hnot := (List.nodup_cons.1 h.of_append_right).1
    exact hnot (List.mem_map.2 ⟨q, hq, hlegacy.1.trans hp.1.symm⟩)

theorem ofPairs_eq_of_perm (hperm : pairs.Perm pairs')
    (hnodup : (pairs.map fun p => trim p.1).Nodup) : ofPairs pairs = ofPairs pairs' := by
  have hnodup' : (pairs'.map fun p => trim p.1).Nodup := (hperm.map _).nodup_iff.1 hnodup
  refine (consistent_ofPairs pairs).eq_of_canonicalOf_eq (consistent_ofPairs pairs') ?_ fun c => ?_
  · refine Dict.ext_find? fun legacy => Option.ext fun canonical => ?_
    simp only [find?_canonicalOf_ofPairs, givesLast_iff_of_nodup hnodup,
      givesLast_iff_of_nodup hnodup', hperm.mem_iff]
  · simp only [contains_aliasesOf_ofPairs, hperm.mem_iff]

/-! ## The main theorem -/

/-- A table tells what the pairs say, of which the last one about a legacy key counts.  Pairs with
different legacy keys give the same table in any order. -/
theorem last_pair_counts (pairs : List (String × String)) :
    (ofPairs pairs).Tells pairs ∧
      ∀ pairs', pairs.Perm pairs' → (pairs.map fun p => trim p.1).Nodup →
        ofPairs pairs' = ofPairs pairs :=
  ⟨tells_ofPairs pairs, fun _ hperm hnodup => (ofPairs_eq_of_perm hperm hnodup).symm⟩

/-- A legacy key that moves, moves back and moves again, under different spellings, and pairs that
say nothing. -/
def movingPairs : List (String × String) :=
  [("old", "new"), (" old", "newer"), ("old", " new "), ("older", "new"), ("", "new"),
    ("new", " new"), ("old ", "newest")]

/-- Three features, each with one legacy key. -/
def threePairs : List (String × String) := [("c", "z"), (" a", "z "), ("b", "y")]

theorem last_pair_counts_movingPairs :
    (ofPairs movingPairs).normalize "old  " = "newest" ∧
      (ofPairs movingPairs).size = (legacyKeys movingPairs).card ∧
      (ofPairs movingPairs).aliasesFor "new" = ["older"] ∧
      ofPairs threePairs.reverse = ofPairs threePairs := by
  have hlast : GivesLast movingPairs (trim "old  ") "newest" :=
    ⟨movingPairs.dropLast, ("old ", "newest"), [], rfl, by decide +kernel, by decide +kernel,
      fun _ h => nomatch h⟩
  obtain ⟨htells, -⟩ := last_pair_counts movingPairs
  obtain ⟨-, hperm⟩ := last_pair_counts threePairs
  exact ⟨htells.normalize_of_givesLast _ _ hlast, htells.size, by decide +kernel,
    hperm _ (List.reverse_perm _).symm (by decide +kernel)⟩

end AliasTable

end FeatureFlags
