import FeatureFlags.Proofs.Trimming
import FeatureFlags.Text.Lowercase

/-!
# Texts in lowercase

The lowercase of a text is in lowercase: a second mapping changes nothing, although the neighbours
of a letter may be others then than the first time.  No letter of the outcome has another lowercase,
and no capital sigma is left whose place could matter.

Both come from the table of letters, which is looked through once for each of its runs
(`escapes_lowercaseRuns`, `target_lowercaseRuns`).  From the table on the argument is about single
characters and what each of them becomes (`Becomes`).

A character that is not blank becomes no blank one, so the lowercase of a trimmed text is trimmed.
-/

namespace FeatureFlags.Text

variable {r q : CaseRun} {runs : List CaseRun} {n : Nat} {c d : Char} {cs ds : List Char}

/-! ## The table of letters -/

namespace CaseRun

theorem holds_iff :
    r.holds n = true ↔ (r.first ≤ n ∧ n ≤ r.last) ∧ (n - r.first) % r.step = 0 := by
  simp only [holds, Bool.and_eq_true, decide_eq_true_eq, beq_iff_eq]

/-- The lowercase of the last code point of a run. -/
def lastTarget (r : CaseRun) : Nat := r.target + (r.last - r.first)

/-- The run holds a letter with the given lowercase. -/
def LeadsTo (r : CaseRun) (n : Nat) : Prop := ∃ m, r.holds m = true ∧ n = r.target + (m - r.first)

/-- Whether one run leads to every other code point where another run holds those between. -/
def interleaves (r q : CaseRun) : Bool :=
  (r.step == 2 || r.first == r.last) && q.step == 2 && r.target % 2 != q.first % 2

/-- Whether no code point that a run leads to is found in the runs of a table. -/
def escapes (r : CaseRun) : List CaseRun → Bool
  | [] => true
  | q :: rest =>
      bif q.last.blt r.target then r.escapes rest
      else r.lastTarget.blt q.first || (r.interleaves q && r.escapes rest)

namespace LeadsTo

/-- The characters of a run lead into one interval. -/
theorem bounds (h : r.LeadsTo n) : r.target ≤ n ∧ n ≤ r.lastTarget := by
  obtain ⟨m, hm, rfl⟩ := h
  have hlast : m ≤ r.last := (holds_iff.1 hm).1.2
  exact ⟨Nat.le_add_right _ _, Nat.add_le_add_left (Nat.sub_le_sub_right hlast _) _⟩

/-- What stands between the code points of a run is not held by it. -/
theorem holds_eq_false (h : r.LeadsTo n) (hq : r.interleaves q = true) : q.holds n = false := by
  obtain ⟨m, hm, rfl⟩ := h
  obtain ⟨⟨hfirst, hlast⟩, hstep⟩ := holds_iff.1 hm
  simp only [interleaves, Bool.and_eq_true, Bool.or_eq_true, beq_iff_eq, bne_iff_ne] at hq
  obtain ⟨⟨hr, hq⟩, hparity⟩ := hq
  have heven : (m - r.first) % 2 = 0 := by
    rcases hr with hr | hr
    · rwa [hr] at hstep
    · omega
  rw [← Bool.not_eq_true, holds_iff, hq]
  rintro ⟨⟨hle, -⟩, hheld⟩
  omega

end LeadsTo

end CaseRun

/-- A code point is its own lowercase, or a run of the table leads to its lowercase. -/
theorem lowercaseCode_cases (runs : List CaseRun) (n : Nat) :
    lowercaseCode runs n = n ∨ ∃ r ∈ runs, r.LeadsTo (lowercaseCode runs n) := by
  induction runs with
  | nil => exact .inl rfl
  | cons r rest ih =>
    rw [lowercaseCode]
    split
    · exact .inl rfl
    · split
      · next hr => exact .inr ⟨r, List.mem_cons_self, n, hr, rfl⟩
      · rcases ih with heq | ⟨q, hq, hleads⟩
        · exact .inl heq
        · exact .inr ⟨q, List.mem_cons_of_mem r hq, hleads⟩

/-- What a run leads to is a fixed point, if it escapes the runs of the table. -/
theorem lowercaseCode_of_escapes (hr : r.LeadsTo n) (h : r.escapes runs = true) :
    lowercaseCode runs n = n := by
  obtain ⟨hlow, hhigh⟩ := hr.bounds
  -- Along the search: a run below the lowercase letters is passed, one above them ends the search.
  induction runs with
  | nil => rfl
  | cons q rest ih =>
    rw [lowercaseCode]
    split
    · rfl
    · next hfirst =>
      rw [CaseRun.escapes] at h
      cases hlast : q.last.blt r.target with
      | true =>
        rw [hlast, cond_true] at h
        have hheld : ¬ q.holds n = true := by
          rw [CaseRun.holds_iff]
          rintro ⟨⟨-, hle⟩, -⟩
          have hlt : q.last < r.target := Nat.blt_eq.mp hlast
          omega
        rw [if_neg hheld, ih h]
      | false =>
        rw [hlast, cond_false, Bool.or_eq_true, Nat.blt_eq, Bool.and_eq_true] at h
        rcases h with hbefore | ⟨hbetween, hrest⟩
        · omega
        · rw [if_neg (Bool.eq_false_iff.1 (hr.holds_eq_false hbetween)), ih hrest]

/-- No letter that the table leads to is in the table. -/
theorem escapes_lowercaseRuns :
    (lowercaseRuns.all fun r => r.escapes lowercaseRuns) = true := by
  decide +kernel

/-- The lowercase of a lowercase character is the character itself. -/
theorem lowercaseCode_lowercaseCode (n : Nat) :
    lowercaseCode lowercaseRuns (lowercaseCode lowercaseRuns n) =
      lowercaseCode lowercaseRuns n := by
  rcases lowercaseCode_cases lowercaseRuns n with heq | ⟨r, hr, hleads⟩
  · rw [heq, heq]
  · exact lowercaseCode_of_escapes hleads (List.all_eq_true.1 escapes_lowercaseRuns r hr)

/-- The table leads to characters only, none of them blank, and not to the capital I with a dot
above. -/
theorem target_lowercaseRuns : ∀ r ∈ lowercaseRuns,
    (r.lastTarget < 0xD800 ∨ 0xDFFF < r.target ∧ r.lastTarget < 0x110000) ∧
      (r.lastTarget < 'İ'.toNat ∨ 'İ'.toNat < r.target) ∧
      ∀ b ∈ blankRanges, b.2 < r.target ∨ r.lastTarget < b.1 := by
  decide +kernel

/-! ## Characters -/

/-- What a table covers is in one of its ranges. -/
theorem exists_of_covers {ranges : Ranges} (h : ranges.covers n = true) :
    ∃ b ∈ ranges, b.1 ≤ n ∧ n ≤ b.2 := by
  induction ranges with
  | nil => cases h
  | cons b rest ih =>
    simp only [Ranges.covers, Bool.and_eq_true, Bool.or_eq_true, decide_eq_true_eq] at h
    obtain ⟨hlow, hhigh | hrest⟩ := h
    · exact ⟨b, List.mem_cons_self, hlow, hhigh⟩
    · obtain ⟨b', hb', hin⟩ := ih hrest
      exact ⟨b', List.mem_cons_of_mem b hb', hin⟩

/-- A character that is its own lowercase. -/
def IsLowercase (c : Char) : Prop := lowercaseChar c = [c]

instance : DecidablePred IsLowercase := fun c => inferInstanceAs (Decidable (lowercaseChar c = [c]))

/-- The codes of the table are those of characters, none of them a surrogate. -/
theorem toNat_ofNat_lowercaseCode (c : Char) :
    (Char.ofNat (lowercaseCode lowercaseRuns c.toNat)).toNat =
      lowercaseCode lowercaseRuns c.toNat := by
  rcases lowercaseCode_cases lowercaseRuns c.toNat with heq | ⟨r, hr, hleads⟩
  · rw [heq, Char.ofNat_toNat]
  · obtain ⟨hvalid, -, -⟩ := target_lowercaseRuns r hr
    obtain ⟨hlow, hhigh⟩ := hleads.bounds
    have hchar : (lowercaseCode lowercaseRuns c.toNat).isValidChar := by
      rw [Nat.isValidChar]
      omega
    rw [Char.ofNat, dif_pos hchar]
    rfl

/-- Only one character becomes two. -/
theorem lowercaseChar_of_ne (hc : c ≠ 'İ') :
    lowercaseChar c = [Char.ofNat (lowercaseCode lowercaseRuns c.toNat)] :=
  if_neg hc

theorem toNat_of_mem_lowercaseChar (hc : c ≠ 'İ') (h : d ∈ lowercaseChar c) :
    d.toNat = lowercaseCode lowercaseRuns c.toNat := by
  rw [lowercaseChar_of_ne hc, List.mem_singleton] at h
  rw [h, toNat_ofNat_lowercaseCode]

/-- A character stays what it is, or a run of the table leads to its lowercase. -/
theorem eq_or_leadsTo_of_mem_lowercaseChar (hc : c ≠ 'İ') (h : d ∈ lowercaseChar c) :
    d = c ∨ ∃ r ∈ lowercaseRuns, r.LeadsTo d.toNat := by
  rw [← Char.toNat_inj, toNat_of_mem_lowercaseChar hc h]
  exact lowercaseCode_cases lowercaseRuns c.toNat

/-- The lowercase of a character has no other lowercase. -/
theorem isLowercase_of_mem_lowercaseChar (h : d ∈ lowercaseChar c) : IsLowercase d := by
  -- The capital I with a dot above is the one letter that is not in the table.
  by_cases hc : c = 'İ'
  · have hdotted : (lowercaseChar 'İ').all (fun d => decide (IsLowercase d)) = true := by
      decide +kernel
    exact of_decide_eq_true (List.all_eq_true.1 hdotted d (hc ▸ h))
  · have hd : d ≠ 'İ' := by
      rintro rfl
      rcases eq_or_leadsTo_of_mem_lowercaseChar hc h with heq | ⟨r, hr, hleads⟩
      · exact hc heq.symm
      · obtain ⟨-, hapart, -⟩ := target_lowercaseRuns r hr
        obtain ⟨hlow, hhigh⟩ := hleads.bounds
        omega
    have hcode := toNat_of_mem_lowercaseChar hc h
    rw [IsLowercase, lowercaseChar_of_ne hd, hcode, lowercaseCode_lowercaseCode, ← hcode,
      Char.ofNat_toNat]

/-- A character that is not blank has no blank lowercase. -/
theorem isBlank_of_mem_lowercaseChar (h : d ∈ lowercaseChar c) (hc : isBlank c = false) :
    isBlank d = false := by
  by_cases hdot : c = 'İ'
  · have hdotted : (lowercaseChar 'İ').all (fun d => !isBlank d) = true := by decide +kernel
    simpa using List.all_eq_true.1 hdotted d (hdot ▸ h)
  · rcases eq_or_leadsTo_of_mem_lowercaseChar hdot h with rfl | ⟨r, hr, hleads⟩
    · exact hc
    · rw [← Bool.not_eq_true]
      intro hblank
      obtain ⟨-, -, hapart⟩ := target_lowercaseRuns r hr
      obtain ⟨hlow, hhigh⟩ := hleads.bounds
      obtain ⟨b, hb, hin⟩ := exists_of_covers hblank
      have hb := hapart b hb
      omega

/-! ## What characters become -/

/-- What a character can become, depending on its place. -/
inductive Becomes : Char → List Char → Prop where
  /-- A capital sigma becomes one of the small ones. -/
  | sigma (before after : List Char) : Becomes 'Σ' [smallSigma before after]
  /-- Any other character becomes the same everywhere. -/
  | other {c : Char} : c ≠ 'Σ' → Becomes c (lowercaseChar c)

/-- The small sigmas are in lowercase, and they are not blank. -/
theorem smallSigma_isLowercase (before after : List Char) :
    IsLowercase (smallSigma before after) ∧ isBlank (smallSigma before after) = false := by
  rw [smallSigma]
  split
  · decide +kernel
  · decide +kernel

namespace Becomes

theorem ne_nil (h : Becomes c ds) : ds ≠ [] := by
  cases h with
  | sigma before after => exact List.cons_ne_nil _ _
  | other _ => exact lowercaseChar_ne_nil c

/-- A character becomes lowercase characters only. -/
theorem isLowercase (h : Becomes c ds) : ∀ d ∈ ds, IsLowercase d := by
  intro d hd
  cases h with
  | sigma before after =>
    rw [List.mem_singleton] at hd
    subst hd
    exact (smallSigma_isLowercase before after).1
  | other _ => exact isLowercase_of_mem_lowercaseChar hd

/-- A character that is not blank becomes none that is. -/
theorem isBlank_eq_false (h : Becomes c ds) (hc : isBlank c = false) :
    ∀ d ∈ ds, isBlank d = false := by
  intro d hd
  cases h with
  | sigma before after =>
    rw [List.mem_singleton] at hd
    subst hd
    exact (smallSigma_isLowercase before after).2
  | other _ => exact isBlank_of_mem_lowercaseChar hd hc

end Becomes

/-! ## Texts -/

/-- What characters can become, one after the other. -/
inductive AllBecome : List Char → List Char → Prop where
  /-- There is no character. -/
  | nil : AllBecome [] []
  /-- The first character becomes something, and so do the others. -/
  | cons {c : Char} {cs ds es : List Char} :
      Becomes c ds → AllBecome cs es → AllBecome (c :: cs) (ds ++ es)

/-- Character by character, a text becomes its lowercase, by induction along it. -/
theorem allBecome_lowercaseAfter (before cs : List Char) :
    AllBecome cs (lowercaseAfter before cs) := by
  induction cs generalizing before with
  | nil => exact .nil
  | cons c rest ih =>
    rw [lowercaseAfter]
    split
    · next hc => exact hc ▸ .cons (.sigma before rest) (ih _)
    · next hc => exact .cons (.other hc) (ih _)

namespace AllBecome

/-- The lowercase of a text has lowercase characters only. -/
theorem isLowercase (h : AllBecome cs ds) : ∀ d ∈ ds, IsLowercase d := by
  induction h with
  | nil => exact List.forall_mem_nil _
  | cons hc _ ih => exact List.forall_mem_append.2 ⟨hc.isLowercase, ih⟩

theorem ne_nil (h : AllBecome cs ds) (hcs : cs ≠ []) : ds ≠ [] := by
  cases h with
  | nil => exact hcs
  | cons hc _ => exact List.append_ne_nil_of_left_ne_nil hc.ne_nil _

/-- A text that begins with no blank character goes on to begin with none. -/
theorem head_isBlank (h : AllBecome cs ds) (hcs : ∀ c ∈ cs.head?, isBlank c = false) :
    ∀ d ∈ ds.head?, isBlank d = false := by
  cases h with
  | nil => exact hcs
  | cons hc _ =>
    rw [List.head?_append_of_ne_nil _ hc.ne_nil]
    exact fun d hd => hc.isBlank_eq_false (hcs _ rfl) d (List.mem_of_mem_head? hd)

/-- A text that ends with no blank character goes on to end with none. -/
theorem getLast_isBlank (h : AllBecome cs ds) (hcs : ∀ c ∈ cs.getLast?, isBlank c = false) :
    ∀ d ∈ ds.getLast?, isBlank d = false := by
  induction h with
  | nil => exact hcs
  | @cons c cs ds es hc hrest ih =>
    cases cs with
    | nil =>
      cases hrest
      rw [List.append_nil]
      exact fun d hd => hc.isBlank_eq_false (hcs _ rfl) d (List.mem_of_mem_getLast? hd)
    | cons b rest =>
      -- No character vanishes, so the last one comes from what is behind the first.
      rw [List.getLast?_append_of_ne_nil _ (hrest.ne_nil (List.cons_ne_nil b rest))]
      rw [List.getLast?_cons_cons] at hcs
      exact ih hcs

end AllBecome

/-- Where every character is its own lowercase, no place matters. -/
theorem lowercaseAfter_eq_self (before : List Char) (h : ∀ c ∈ cs, IsLowercase c) :
    lowercaseAfter before cs = cs := by
  induction cs generalizing before with
  | nil => rfl
  | cons c rest ih =>
    obtain ⟨hc, hrest⟩ := List.forall_mem_cons.1 h
    have hsigma : c ≠ 'Σ' := by
      rintro rfl
      exact absurd hc (by decide +kernel)
    rw [lowercaseAfter, if_neg hsigma, hc, ih _ hrest]
    rfl

@[simp] theorem toList_lowercase (s : String) : (lowercase s).toList = lowercaseList s.toList := by
  rw [lowercase, String.toList_ofList]

theorem lowercaseList_lowercaseList (cs : List Char) :
    lowercaseList (lowercaseList cs) = lowercaseList cs :=
  lowercaseAfter_eq_self [] (allBecome_lowercaseAfter [] cs).isLowercase

/-- Lowercase twice is lowercase once, in spite of the sigma that depends on its place. -/
theorem lowercase_lowercase (s : String) : lowercase (lowercase s) = lowercase s := by
  rw [lowercase, toList_lowercase, lowercaseList_lowercaseList, ← lowercase]

/-- The lowercase of a trimmed text is trimmed. -/
theorem trim_lowercase {s : String} (h : trim s = s) : trim (lowercase s) = lowercase s := by
  rw [← String.toList_inj, toList_trim, trimList_eq_self_iff_ends] at h ⊢
  have hbecome := allBecome_lowercaseAfter [] s.toList
  rw [toList_lowercase]
  exact ⟨hbecome.head_isBlank h.1, hbecome.getLast_isBlank h.2⟩

end FeatureFlags.Text
