import FeatureFlags.Collection.Dict
import Mathlib.Data.Finset.Card
import Mathlib.Data.List.Sort

/-!
# Sorted lists, lists without repetition, and dictionaries

A list in strictly ascending order is known by its elements.  Sorting brings a list without
repetition into this order (`ascending_map_sortedBy`), and so does `sortedDistinct` with any list.

The elements that `List.eraseDups` keeps stand in the order in which they first occur.  So what
stands before an element there are the different elements that occur before it in the list
(`mem_take_eraseDups_iff`).

A dictionary has as many entries as there are keys with a value.
-/

namespace FeatureFlags

variable {α : Type}

/-! ## Ascending lists -/

section Ascending

variable [Ord α] [Std.LawfulEqOrd α] {l l' : List α} {a b : α}

theorem lt_of_isLE_of_ne (h : (compare a b).isLE = true) (hne : a ≠ b) : compare a b = .lt := by
  cases hc : compare a b with
  | lt => rfl
  | eq => exact absurd (Std.LawfulEqOrd.eq_of_compare hc) hne
  | gt =>
    rw [hc] at h
    cases h

variable [Std.TransOrd α]

/-- Ascending lists with the same elements are equal. -/
theorem eq_of_ascending (h : Ascending l) (h' : Ascending l') (hmem : ∀ a, a ∈ l ↔ a ∈ l') :
    l = l' := by
  have hantisymm : Std.Antisymm fun a b : α => compare a b = .lt := by
    refine ⟨fun a b hab hba => ?_⟩
    cases hab.symm.trans (Std.OrientedCmp.gt_of_lt hba)
  have hirrefl : Std.Irrefl fun a b : α => compare a b = .lt := by
    refine ⟨fun a haa => ?_⟩
    cases haa.symm.trans Std.ReflCmp.compare_self
  exact h.eq_of_mem_iff h' hmem

end Ascending

/-! ## Sorting -/

section Sorting

variable {cmp : α → α → Ordering} {l l' : List α}

/-- Insertion is that of the library, for the order that the comparison tells. -/
theorem insertSorted_eq_orderedInsert (cmp : α → α → Ordering) (a : α) (l : List α) :
    insertSorted cmp a l = l.orderedInsert (fun a b => (cmp a b).isLE = true) a := by
  induction l with
  | nil => rfl
  | cons b rest ih => rw [insertSorted, List.orderedInsert_cons, ih]

/-- Sorting is that of the library too, so what is known about it can be used. -/
theorem sortedBy_eq_insertionSort (cmp : α → α → Ordering) (l : List α) :
    sortedBy cmp l = l.insertionSort fun a b => (cmp a b).isLE = true := by
  induction l with
  | nil => rfl
  | cons a rest ih =>
    rw [List.insertionSort_cons, ← ih, ← insertSorted_eq_orderedInsert]
    rfl

/-- No element of a sorted list is greater than one after it. -/
theorem pairwise_sortedBy [Std.TransCmp cmp] (l : List α) :
    (sortedBy cmp l).Pairwise fun a b => (cmp a b).isLE = true := by
  have htrans : IsTrans α fun a b => (cmp a b).isLE = true := ⟨fun _ _ _ => Std.TransCmp.isLE_trans⟩
  have htotal : Std.Total fun a b => (cmp a b).isLE = true := by
    refine ⟨fun a b => ?_⟩
    cases h : cmp a b with
    | lt => exact .inl rfl
    | eq => exact .inl rfl
    | gt => exact .inr (by rw [Std.OrientedCmp.lt_of_gt h]; rfl)
  rw [sortedBy_eq_insertionSort]
  exact List.pairwise_insertionSort _ l

variable {β : Type} [Ord β] [Std.LawfulEqOrd β] [Std.TransOrd β]

/-- Elements of different keys are sorted into a strictly ascending order of the keys. -/
theorem ascending_map_sortedBy {f : α → β} (h : (l.map f).Nodup) :
    Ascending ((sortedBy (compareOn f) l).map f) := by
  have hnodup : ((sortedBy (compareOn f) l).map f).Nodup :=
    ((sortedBy_perm _ l).map f).nodup_iff.2 h
  have htrans : Std.TransCmp (compareOn f) := inferInstance
  exact List.pairwise_map.2 (((pairwise_sortedBy l).and (List.pairwise_map.1 hnodup)).imp
    fun ⟨hle, hne⟩ => lt_of_isLE_of_ne hle hne)

variable [Ord α] [Std.LawfulEqOrd α] [Std.TransOrd α]

/-- When no element comes twice, a sorted list is strictly ascending. -/
theorem ascending_sorted (h : l.Nodup) : Ascending (sorted l) := by
  have hsorted := ascending_map_sortedBy (f := id) (l := l) (by rwa [List.map_id])
  rwa [List.map_id] at hsorted

variable [BEq α] [LawfulBEq α]

/-- What is left of a sorted list without repeated neighbours has no repetition at all. -/
theorem ascending_eraseReps (h : l.Pairwise fun a b => (compare a b).isLE = true) :
    Ascending l.eraseReps := by
  induction l with
  | nil => exact .nil
  | cons a rest ih =>
    obtain ⟨ha, hrest⟩ := List.pairwise_cons.1 h
    cases rest with
    | nil => exact List.pairwise_singleton _ _
    | cons b rest =>
      rw [eraseReps_cons_cons]
      split
      · next heq =>
        obtain rfl := eq_of_beq heq
        exact ih hrest
      · next hne =>
        refine List.pairwise_cons.2 ⟨fun c hc => ?_, ih hrest⟩
        have hab : compare a b = .lt :=
          lt_of_isLE_of_ne (ha b List.mem_cons_self) fun heq => hne (beq_iff_eq.2 heq)
        rcases List.mem_cons.1 (mem_eraseReps.1 hc) with rfl | hc
        · exact hab
        · exact Std.TransCmp.lt_of_lt_of_isLE hab ((List.pairwise_cons.1 hrest).1 c hc)

theorem ascending_sortedDistinct (l : List α) : Ascending (sortedDistinct l) :=
  ascending_eraseReps (pairwise_sortedBy l)

end Sorting

/-! ## First occurrences -/

section EraseDups

variable [DecidableEq α] {l : List α} {a : α}

/-- Elements may be dropped before or after repetitions are. -/
theorem eraseDups_filter (p : α → Bool) (l : List α) :
    (l.filter p).eraseDups = l.eraseDups.filter p := by
  -- Each step goes on with a part of the rest, so the induction is on the length.
  induction h : l.length using Nat.strongRecOn generalizing l with
  | ind n ih =>
    cases l with
    | nil => rfl
    | cons a rest =>
      have hlt : (rest.filter (!· == a)).length < n := by
        rw [← h]
        exact Nat.lt_succ_of_le (List.length_filter_le _ _)
      have hrest := ih _ hlt _ rfl
      rw [List.filter_comm] at hrest
      rw [List.eraseDups_cons]
      by_cases ha : p a = true
      · rw [List.filter_cons_of_pos ha, List.filter_cons_of_pos ha, List.eraseDups_cons, hrest]
      · rw [List.filter_cons_of_neg ha, List.filter_cons_of_neg ha, ← hrest]
        congr 1
        refine (List.filter_eq_self.2 fun b hb => ?_).symm
        have hb : p b = true := (List.mem_filter.1 hb).2
        simpa using fun heq : b = a => ha (heq ▸ hb)

theorem eraseDups_cons (a : α) (l : List α) :
    (a :: l).eraseDups = a :: l.eraseDups.filter (· ≠ a) := by
  rw [List.eraseDups_cons, eraseDups_filter]
  congr 1
  refine List.filter_congr fun b _ => ?_
  by_cases h : b = a
  · simp [h]
  · simp [h]

theorem nodup_eraseDups (l : List α) : l.eraseDups.Nodup := by
  induction l with
  | nil => exact .nil
  | cons a rest ih =>
    rw [eraseDups_cons, List.nodup_cons]
    exact ⟨by simp, ih.filter _⟩

/-- What is kept stands in the order of first places. -/
theorem pairwise_idxOf_eraseDups (l : List α) :
    l.eraseDups.Pairwise fun a b => l.idxOf a < l.idxOf b := by
  induction l with
  | nil => exact .nil
  | cons a rest ih =>
    rw [eraseDups_cons, List.pairwise_cons]
    refine ⟨fun b hb => ?_, (ih.filter _).imp_of_mem fun {b c} hb hc hlt => ?_⟩
    · have hne : b ≠ a := by simpa using (List.mem_filter.1 hb).2
      rw [List.idxOf_cons_self, List.idxOf_cons_ne _ (Ne.symm hne)]
      exact Nat.succ_pos _
    · have hb : b ≠ a := by simpa using (List.mem_filter.1 hb).2
      have hc : c ≠ a := by simpa using (List.mem_filter.1 hc).2
      rw [List.idxOf_cons_ne _ (Ne.symm hb), List.idxOf_cons_ne _ (Ne.symm hc)]
      exact Nat.succ_lt_succ hlt

theorem eraseDups_append_singleton (l : List α) (a : α) :
    (l ++ [a]).eraseDups = if a ∈ l then l.eraseDups else l.eraseDups ++ [a] := by
  rw [List.eraseDups_append]
  split
  · next h => simp [List.removeAll, h]
  · next h => simp [List.removeAll, h, List.eraseDups_cons]

theorem length_eraseDups (l : List α) : l.eraseDups.length = l.toFinset.card := by
  rw [← List.toFinset_card_of_nodup (nodup_eraseDups l)]
  congr 1
  ext a
  simp only [List.mem_toFinset, List.mem_eraseDups]

/-- A list may be cut off at an element before or after other elements are dropped. -/
theorem takeWhile_ne_filter {p : α → Bool} (ha : p a = true) (l : List α) :
    (l.filter p).takeWhile (· ≠ a) = (l.takeWhile (· ≠ a)).filter p := by
  induction l with
  | nil => rfl
  | cons b rest ih =>
    by_cases hb : b = a
    · subst hb
      rw [List.filter_cons_of_pos ha, List.takeWhile_cons_of_neg (by simp),
        List.takeWhile_cons_of_neg (by simp), List.filter_nil]
    · rw [List.takeWhile_cons_of_pos (by simpa using hb)]
      by_cases hp : p b = true
      · rw [List.filter_cons_of_pos hp, List.filter_cons_of_pos hp,
          List.takeWhile_cons_of_pos (by simpa using hb), ih]
      · rw [List.filter_cons_of_neg hp, List.filter_cons_of_neg hp, ih]

theorem takeWhile_ne_eraseDups (a : α) (l : List α) :
    l.eraseDups.takeWhile (· ≠ a) = (l.takeWhile (· ≠ a)).eraseDups := by
  induction l with
  | nil => rfl
  | cons b rest ih =>
    rw [eraseDups_cons]
    by_cases hb : b = a
    · rw [List.takeWhile_cons_of_neg (by simpa using hb),
        List.takeWhile_cons_of_neg (by simpa using hb), List.eraseDups_nil]
    · rw [List.takeWhile_cons_of_pos (by simpa using hb),
        List.takeWhile_cons_of_pos (by simpa using hb),
        takeWhile_ne_filter (by simpa using Ne.symm hb), ih, eraseDups_cons]

/-- An element of a list is among the first ones if few enough stand before it. -/
theorem mem_take_iff_length_takeWhile {n : Nat} (h : a ∈ l) :
    a ∈ l.take n ↔ (l.takeWhile (· ≠ a)).length < n := by
  induction l generalizing n with
  | nil => cases h
  | cons b rest ih =>
    cases n with
    | zero => simp
    | succ n =>
      by_cases hb : b = a
      · simp [hb]
      · have ha : a ∈ rest := (List.mem_cons.1 h).resolve_left (Ne.symm hb)
        rw [List.take_succ_cons, List.mem_cons, or_iff_right (Ne.symm hb), ih ha,
          List.takeWhile_cons_of_pos (by simpa using hb), List.length_cons, Nat.succ_lt_succ_iff]

/-- An element is among the first different ones if few enough different ones occur before it. -/
theorem mem_take_eraseDups_iff {n : Nat} (h : a ∈ l) :
    a ∈ l.eraseDups.take n ↔ (l.takeWhile (· ≠ a)).toFinset.card < n := by
  rw [mem_take_iff_length_takeWhile (List.mem_eraseDups.2 h), takeWhile_ne_eraseDups,
    length_eraseDups]

end EraseDups

/-! ## Dictionaries -/

namespace Dict

variable {κ ν : Type} [Ord κ] [Std.LawfulEqOrd κ] [DecidableEq κ] {d : Dict κ ν}

theorem contains_insert [Std.TransOrd κ] {k a : κ} {v : ν} :
    (d.insert k v).contains a = true ↔ k = a ∨ d.contains a = true := by
  rw [contains, contains, find?_insert]
  split
  · next h => simp [h]
  · next h => simp [h]

/-- A dictionary has as many entries as there are keys with a value. -/
theorem size_eq_card {s : Finset κ} (h : ∀ k, k ∈ s ↔ (d.find? k).isSome = true) :
    d.size = s.card := by
  have hkeys : d.keys.toFinset = s := by
    ext k
    rw [List.mem_toFinset, h, ← contains_iff, contains]
  rw [← hkeys, List.toFinset_card_of_nodup d.nodup_keys, keys, List.length_map, size]

/-- When no key comes twice, every entry counts. -/
theorem size_ofList [Std.TransOrd κ] {l : List (κ × ν)} (h : (l.map Prod.fst).Nodup) :
    (ofList l).size = l.length := by
  have hkeys (k : κ) :
      k ∈ (l.map Prod.fst).toFinset ↔ ((ofList l).find? k).isSome = true := by
    simp [Option.isSome_iff_exists, find?_ofList_eq_some_iff h]
  rw [size_eq_card hkeys, List.toFinset_card_of_nodup h, List.length_map]

end Dict

end FeatureFlags
