import FeatureFlags.Text.Blank
import Mathlib.Data.List.DropRight

/-!
# Trimmed texts

A trimmed text has no blank character at either end, so trimming it again changes nothing.
Trimmed texts may be joined with any text between them, and the outcome is trimmed.
-/

namespace FeatureFlags.Text

theorem dropBlankEnd_dropBlankEnd (cs : List Char) :
    dropBlankEnd (dropBlankEnd cs) = dropBlankEnd cs :=
  List.rdropWhile_idempotent isBlank cs

/-- What stands before the blank end is not looked at. -/
theorem dropBlankEnd_cons {c : Char} (hc : ¬ isBlank c) (cs : List Char) :
    dropBlankEnd (c :: cs) = c :: dropBlankEnd cs := by
  simp only [dropBlankEnd, List.reverse_cons, List.dropWhile_append]
  split
  · next h => simp [hc, List.isEmpty_iff.1 h]
  · simp

theorem trimList_trimList (cs : List Char) : trimList (trimList cs) = trimList cs := by
  simp only [trimList]
  cases h : cs.dropWhile isBlank with
  | nil => rfl
  | cons c rest =>
    have hc : ¬ isBlank c := by
      have := List.head?_dropWhile_not isBlank cs
      simpa [h] using this
    rw [dropBlankEnd_cons hc, List.dropWhile_cons_of_neg hc, dropBlankEnd_cons hc,
      dropBlankEnd_dropBlankEnd]

/-- Trimming twice is trimming once. -/
@[simp] theorem trim_trim (s : String) : trim (trim s) = trim s := by
  rw [trim, toList_trim, trimList_trimList, ← trim]

/-! ## The ends of a trimmed text -/

/-- Trimming changes nothing when there is nothing to drop at either end. -/
theorem trimList_eq_self_iff {cs : List Char} :
    trimList cs = cs ↔ cs.dropWhile isBlank = cs ∧ dropBlankEnd cs = cs := by
  constructor
  · intro h
    have hstart : cs.dropWhile isBlank = cs := by
      refine (List.dropWhile_suffix isBlank).eq_of_length_le ?_
      calc cs.length = (trimList cs).length := by rw [h]
        _ ≤ (cs.dropWhile isBlank).length := (List.rdropWhile_prefix isBlank _).length_le
    refine ⟨hstart, ?_⟩
    rwa [trimList, hstart] at h
  · rintro ⟨hstart, hend⟩
    rw [trimList, hstart, hend]

/-- At the front there is nothing to drop when the first character is not blank. -/
theorem dropWhile_isBlank_eq_self_iff {cs : List Char} :
    cs.dropWhile isBlank = cs ↔ ∀ c ∈ cs.head?, isBlank c = false := by
  cases cs with
  | nil => simp
  | cons c rest => simp [List.dropWhile_eq_self_iff]

/-- At the end there is nothing to drop when the last character is not blank. -/
theorem dropBlankEnd_eq_self_iff {cs : List Char} :
    dropBlankEnd cs = cs ↔ ∀ c ∈ cs.getLast?, isBlank c = false := by
  rw [dropBlankEnd, List.reverse_eq_iff, dropWhile_isBlank_eq_self_iff, List.head?_reverse]

/-- A text is trimmed when no blank character stands at either end. -/
theorem trimList_eq_self_iff_ends {cs : List Char} :
    trimList cs = cs ↔
      (∀ c ∈ cs.head?, isBlank c = false) ∧ ∀ c ∈ cs.getLast?, isBlank c = false := by
  rw [trimList_eq_self_iff, dropWhile_isBlank_eq_self_iff, dropBlankEnd_eq_self_iff]

/-! ## Blank texts -/

/-- Every character of a text is blank. -/
def AllBlank (s : String) : Prop := ∀ c ∈ s.toList, isBlank c = true

instance : DecidablePred AllBlank := fun s =>
  decidable_of_iff (s.toList.all isBlank = true) List.all_eq_true

theorem trimList_eq_nil_iff {cs : List Char} : trimList cs = [] ↔ ∀ c ∈ cs, isBlank c = true := by
  constructor
  · intro h c hc
    have hrest : ∀ c ∈ cs.dropWhile isBlank, isBlank c = true := List.rdropWhile_eq_nil_iff.1 h
    rw [← List.takeWhile_append_dropWhile (p := isBlank) (l := cs)] at hc
    rcases List.mem_append.1 hc with hc | hc
    · exact List.mem_takeWhile_imp hc
    · exact hrest c hc
  · intro h
    rw [trimList, List.dropWhile_eq_nil_iff.2 h]
    rfl

/-- Nothing is left of a text exactly when all of it is blank. -/
theorem trim_eq_empty_iff {s : String} : trim s = "" ↔ AllBlank s := by
  rw [← String.toList_eq_nil_iff, toList_trim, trimList_eq_nil_iff, AllBlank]

/-- Blank characters at the end make no difference. -/
theorem dropBlankEnd_append_blank {cs after : List Char} (h : ∀ c ∈ after, isBlank c = true) :
    dropBlankEnd (cs ++ after) = dropBlankEnd cs := by
  have hreverse : ∀ c ∈ after.reverse, isBlank c = true :=
    fun c hc => h c (List.mem_reverse.1 hc)
  rw [dropBlankEnd, List.reverse_append, List.dropWhile_append_of_pos hreverse, ← dropBlankEnd]

/-- The second text is the first one with blank characters around it. -/
def Padded (s t : String) : Prop :=
  ∃ before after, AllBlank before ∧ AllBlank after ∧ t = before ++ s ++ after

/-- Blank characters around a text are not looked at. -/
theorem Padded.trim_eq {s t : String} (h : Padded s t) : trim t = trim s := by
  obtain ⟨before, after, hbefore, hafter, rfl⟩ := h
  rw [← String.toList_inj, toList_trim, toList_trim, String.toList_append, String.toList_append,
    List.append_assoc, trimList, List.dropWhile_append_of_pos hbefore, List.dropWhile_append]
  split
  · next hs =>
    rw [trimList, List.isEmpty_iff.1 hs, List.dropWhile_eq_nil_iff.2 hafter]
  · rw [dropBlankEnd_append_blank hafter, trimList]

/-! ## Joined texts -/

/-- What stands before an end that is not blank is kept. -/
theorem dropBlankEnd_append {cs ds : List Char} (hne : ds ≠ []) (h : dropBlankEnd ds = ds) :
    dropBlankEnd (cs ++ ds) = cs ++ ds := by
  have hreverse : ds.reverse.dropWhile isBlank = ds.reverse := by
    rw [← List.reverse_inj, List.reverse_reverse, ← dropBlankEnd, h]
  rw [dropBlankEnd, List.reverse_append, List.dropWhile_append, hreverse, if_neg (by simpa),
    List.reverse_append, List.reverse_reverse, List.reverse_reverse]

/-- What stands between trimmed texts is not looked at. -/
theorem trim_append_append {s t : String} (m : String) (hs : s ≠ "") (ht : t ≠ "")
    (hstart : trim s = s) (hend : trim t = t) : trim (s ++ m ++ t) = s ++ m ++ t := by
  rw [← String.toList_inj, toList_trim, trimList_eq_self_iff] at hstart hend ⊢
  rw [ne_eq, ← String.toList_eq_nil_iff] at hs ht
  simp only [String.toList_append]
  refine ⟨?_, dropBlankEnd_append ht hend.2⟩
  rw [List.append_assoc, List.dropWhile_append, hstart.1, if_neg (mt List.isEmpty_iff.1 hs)]

end FeatureFlags.Text
