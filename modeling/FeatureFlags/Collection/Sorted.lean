/-!
# Sorted lists

`sortedBy` puts the elements of a list in ascending order.  Elements that compare as equal stay in
the order in which they stood.  `sortedDistinct` drops all but the first of equal elements.  Both
keep exactly the elements of the list they are given (`mem_sortedBy`, `mem_sortedDistinct`).

A list is `Ascending` when each element is smaller than all after it.
-/

namespace FeatureFlags

variable {α : Type}

/-! ## In ascending order -/

/-- Puts an element in front of the first one that is not smaller. -/
def insertSorted (cmp : α → α → Ordering) (a : α) : List α → List α
  | [] => [a]
  | b :: rest => if (cmp a b).isLE then a :: b :: rest else b :: insertSorted cmp a rest

/-- The elements of a list in ascending order. -/
def sortedBy (cmp : α → α → Ordering) (l : List α) : List α := l.foldr (insertSorted cmp) []

/-- The elements of a list in ascending order. -/
abbrev sorted [Ord α] (l : List α) : List α := sortedBy compare l

theorem insertSorted_perm (cmp : α → α → Ordering) (a : α) (l : List α) :
    (insertSorted cmp a l).Perm (a :: l) := by
  induction l with
  | nil => exact .refl _
  | cons b rest ih =>
    rw [insertSorted]
    split
    · exact .refl _
    · exact (ih.cons b).trans (.swap a b rest)

/-- Sorting neither adds an element nor drops one. -/
theorem sortedBy_perm (cmp : α → α → Ordering) (l : List α) : (sortedBy cmp l).Perm l := by
  induction l with
  | nil => exact .refl _
  | cons a rest ih => exact (insertSorted_perm cmp a _).trans (ih.cons a)

theorem mem_sortedBy {cmp : α → α → Ordering} {a : α} {l : List α} :
    a ∈ sortedBy cmp l ↔ a ∈ l :=
  (sortedBy_perm cmp l).mem_iff

/-! ## Without repetition -/

section Distinct

variable [BEq α]

/-- The elements of a list in strictly ascending order. -/
def sortedDistinct [Ord α] (l : List α) : List α := (sorted l).eraseReps

/-- Of two equal neighbours the first one is kept. -/
theorem eraseReps_cons_cons (a b : α) (l : List α) :
    (a :: b :: l).eraseReps = if a == b then (a :: l).eraseReps else a :: (b :: l).eraseReps := by
  -- What was kept before is only put in front of the outcome.
  have hkept (c : α) (rest kept : List α) :
      List.eraseRepsBy.loop (· == ·) c rest (kept ++ [a]) =
        a :: List.eraseRepsBy.loop (· == ·) c rest kept := by
    induction rest generalizing c kept with
    | nil => simp [List.eraseRepsBy.loop]
    | cons d rest ih =>
      simp only [List.eraseRepsBy.loop]
      split
      · exact ih c kept
      · exact ih d (c :: kept)
  cases h : a == b with
  | true => simp [List.eraseReps, List.eraseRepsBy, List.eraseRepsBy.loop, h]
  | false =>
    simp only [List.eraseReps, List.eraseRepsBy, List.eraseRepsBy.loop, h]
    exact hkept b l []

theorem mem_eraseReps [LawfulBEq α] {a : α} {l : List α} : a ∈ l.eraseReps ↔ a ∈ l := by
  induction l with
  | nil => rfl
  | cons b rest ih =>
    cases rest with
    | nil => rfl
    | cons c rest =>
      rw [eraseReps_cons_cons]
      split
      · next h =>
        obtain rfl := eq_of_beq h
        simp [ih]
      · rw [List.mem_cons, ih, ← List.mem_cons]

theorem mem_sortedDistinct [LawfulBEq α] [Ord α] {a : α} {l : List α} :
    a ∈ sortedDistinct l ↔ a ∈ l := by
  rw [sortedDistinct, mem_eraseReps, mem_sortedBy]

end Distinct

/-! ## Ascending lists -/

/-- Whether each element is smaller than all after it. -/
abbrev Ascending [Ord α] (l : List α) : Prop := l.Pairwise fun a b => compare a b = .lt

theorem nodup_of_ascending [Ord α] [Std.LawfulEqOrd α] {l : List α} (h : Ascending l) :
    l.Nodup := by
  refine h.imp fun hlt heq => ?_
  rw [heq, Std.ReflOrd.compare_self] at hlt
  cases hlt

end FeatureFlags
