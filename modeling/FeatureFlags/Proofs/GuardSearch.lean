import FeatureFlags.Gate.Require
import Mathlib.Data.List.Basic

/-!
# What a guard asks

A guard asks its gate for one key after the other and stops at the first answer other than "off".
This answer is the outcome, so an error comes before a key that would be on after it, and keys that
come after it never count.  Only when all keys are off is the caller told so.

The gate may be of any sort: its answers may depend on what it was asked before.  `answers` is what
it would say if it were asked for every key in turn, and what the guard does is told from that list
alone.
-/

namespace FeatureFlags

open Text (trim)

/-! ## What a caller is told -/

namespace GuardOptions

theorem ofDisabled_eq (o : GuardOptions) (key : String) :
    o.ofDisabled key = o.disabledMessage.elim (.disabled (trim key)) .message := by
  rw [ofDisabled]
  cases o.disabledMessage with
  | none => rfl
  | some text => rfl

theorem ofError_eq (o : GuardOptions) (e : Error) :
    o.ofError e = o.errorMapper.elim (.gate e) fun mapper => mapper e := by
  rw [ofError]
  cases o.errorMapper with
  | none => rfl
  | some mapper => rfl

end GuardOptions

namespace Guard

variable {σ : Type}

/-! ## Gates and their answers -/

/-- A gate with a state. -/
abbrev Asking (σ : Type) := String → StateM σ (Except Error Bool)

/-- The answer lets a guard go on to the next key. -/
def isOff : Except Error Bool → Bool
  | .ok false => true
  | .ok true | .error _ => false

theorem eq_of_isOff {answer : Except Error Bool} (h : isOff answer = true) :
    answer = .ok false := by
  cases answer with
  | error e => cases h
  | ok on =>
    cases on with
    | true => cases h
    | false => rfl

/-- The answers to some keys, each with its key, if all of them are asked in turn. -/
def answers (ask : Asking σ) : σ → List String → List (String × Except Error Bool)
  | _, [] => []
  | s, key :: rest =>
    let (answer, s) := ask key s
    (key, answer) :: answers ask s rest

/-- The first answer other than "off", with its key. -/
def decisive? (given : List (String × Except Error Bool)) : Option (String × Except Error Bool) :=
  given.find? fun x => !isOff x.2

/-- The answers up to the first one other than "off", which is the last. -/
def upToDecisive (given : List (String × Except Error Bool)) :
    List (String × Except Error Bool) :=
  given.takeWhile (fun x => isOff x.2) ++ (given.dropWhile fun x => isOff x.2).take 1

/-- The gate with a record of the keys it is asked for, in their order. -/
def recording (ask : Asking σ) : Asking (σ × List String) := fun key (s, asked) =>
  let (answer, s) := ask key s
  (answer, (s, asked ++ [key]))

section First

variable {x : String × Except Error Bool} {given : List (String × Except Error Bool)}

theorem decisive?_cons_of_off (hx : isOff x.2 = true) :
    decisive? (x :: given) = decisive? given :=
  List.find?_cons_of_neg (by simp [hx])

theorem decisive?_cons_of_not_off (hx : isOff x.2 = false) : decisive? (x :: given) = some x :=
  List.find?_cons_of_pos (by simp [hx])

theorem upToDecisive_cons_of_off (hx : isOff x.2 = true) :
    upToDecisive (x :: given) = x :: upToDecisive given := by
  simp [upToDecisive, hx]

theorem upToDecisive_cons_of_not_off (hx : isOff x.2 = false) :
    upToDecisive (x :: given) = [x] := by
  simp [upToDecisive, hx]

end First

variable {ask : Asking σ} {s s' : σ} {key : String} {rest keys asked : List String}
  {answer : Except Error Bool}

theorem answers_cons (h : ask key s = (answer, s')) :
    answers ask s (key :: rest) = (key, answer) :: answers ask s' rest := by
  rw [answers, h]

theorem recording_eq (h : ask key s = (answer, s')) (asked : List String) :
    recording ask key (s, asked) = (answer, (s', asked ++ [key])) := by
  rw [recording, h]

/-- Taking a record changes no answer. -/
theorem answers_recording (ask : Asking σ) (s : σ) (keys asked : List String) :
    answers (recording ask) (s, asked) keys = answers ask s keys := by
  induction keys generalizing s asked with
  | nil => rfl
  | cons key rest ih =>
    rcases h : ask key s with ⟨answer, s'⟩
    rw [answers_cons h, answers_cons (recording_eq h asked), ih]

theorem map_fst_answers (ask : Asking σ) (s : σ) (keys : List String) :
    (answers ask s keys).map Prod.fst = keys := by
  induction keys generalizing s with
  | nil => rfl
  | cons key rest ih => exact congrArg (key :: ·) (ih _)

/-- A gate may have a fixed answer to each key. -/
theorem answers_of_fixed {fixed : String → Except Error Bool}
    (h : ∀ key s, (ask key s).1 = fixed key) (s : σ) (keys : List String) :
    answers ask s keys = keys.map fun key => (key, fixed key) := by
  induction keys generalizing s with
  | nil => rfl
  | cons key rest ih =>
    rcases hask : ask key s with ⟨answer, s'⟩
    rw [answers_cons hask, List.map_cons, ih, ← h key s, hask]

/-! ## The search -/

theorem firstAnswer_of_off (h : ask key s = (.ok false, s')) (rest : List String) :
    firstAnswer ask (key :: rest) s = firstAnswer ask rest s' := by
  show (ask key >>= _) s = _
  simp only [bind, StateT.bind, h]

theorem firstAnswer_of_not_off (h : ask key s = (answer, s')) (ha : isOff answer = false)
    (rest : List String) : firstAnswer ask (key :: rest) s = (answer, s') := by
  show (ask key >>= _) s = _
  simp only [bind, StateT.bind, h]
  cases answer with
  | error e => rfl
  | ok on =>
    cases on with
    | true => rfl
    | false => cases ha

/-- The outcome of the search is the first answer other than "off". -/
theorem fst_firstAnswer (ask : Asking σ) (s : σ) (keys : List String) :
    (firstAnswer ask keys s).1 =
      ((decisive? (answers ask s keys)).map Prod.snd).getD (.ok false) := by
  induction keys generalizing s with
  | nil => rfl
  | cons key rest ih =>
    rcases h : ask key s with ⟨answer, s'⟩
    rw [answers_cons h]
    cases ha : isOff answer with
    | false =>
      rw [firstAnswer_of_not_off h ha, decisive?_cons_of_not_off ha]
      rfl
    | true =>
      obtain rfl := eq_of_isOff ha
      rw [firstAnswer_of_off h, decisive?_cons_of_off ha, ih]

/-- The keys that are asked are those up to the first answer other than "off". -/
theorem asked_firstAnswer (ask : Asking σ) (s : σ) (keys asked : List String) :
    (firstAnswer (recording ask) keys (s, asked)).2.2 =
      asked ++ (upToDecisive (answers ask s keys)).map Prod.fst := by
  induction keys generalizing s asked with
  | nil => exact (List.append_nil asked).symm
  | cons key rest ih =>
    rcases h : ask key s with ⟨answer, s'⟩
    have hrecording := recording_eq h asked
    rw [answers_cons h]
    cases ha : isOff answer with
    | false =>
      rw [firstAnswer_of_not_off hrecording ha, upToDecisive_cons_of_not_off ha]
      rfl
    | true =>
      obtain rfl := eq_of_isOff ha
      rw [firstAnswer_of_off hrecording, ih, upToDecisive_cons_of_off ha, List.append_assoc]
      rfl

/-- More keys make no difference when the search ends before them. -/
theorem firstAnswer_append (ask : Asking σ) (s : σ) {keys : List String}
    (h : decisive? (answers ask s keys) ≠ none) (more : List String) :
    firstAnswer ask (keys ++ more) s = firstAnswer ask keys s := by
  induction keys generalizing s with
  | nil => exact absurd rfl h
  | cons key rest ih =>
    rcases hask : ask key s with ⟨answer, s'⟩
    rw [List.cons_append]
    cases ha : isOff answer with
    | false => rw [firstAnswer_of_not_off hask ha, firstAnswer_of_not_off hask ha]
    | true =>
      rw [answers_cons hask, decisive?_cons_of_off ha] at h
      obtain rfl := eq_of_isOff ha
      rw [firstAnswer_of_off hask, firstAnswer_of_off hask, ih s' h]

/-! ## The guard -/

/-- A guard that writes no log. -/
abbrev requireSilently (ask : Asking σ) (key : String) (o : GuardOptions) :
    StateM σ (Except Rejection Unit) :=
  require ask (fun _ => pure ()) key o

/-- The outcome of a guard is its judgement of the outcome of the search. -/
theorem requireSilently_eq (ask : Asking σ) (key : String) (o : GuardOptions) (s : σ) :
    requireSilently ask key o s =
      (o.judge key (firstAnswer ask (key :: o.fallbackKeys) s).1,
        (firstAnswer ask (key :: o.fallbackKeys) s).2) := by
  show (firstAnswer ask (key :: o.fallbackKeys) >>= _) s = _
  rcases h : firstAnswer ask (key :: o.fallbackKeys) s with ⟨answer, s'⟩
  simp only [bind, StateT.bind, h]
  cases answer with
  | error e => rfl
  | ok on =>
    cases on with
    | true => rfl
    | false => rfl

/-- The outcome of a guard, told from the answers. -/
theorem fst_requireSilently (ask : Asking σ) (key : String) (o : GuardOptions) (s : σ) :
    (requireSilently ask key o s).1 = o.judge key
      (((decisive? (answers ask s (key :: o.fallbackKeys))).map Prod.snd).getD (.ok false)) := by
  rw [requireSilently_eq, fst_firstAnswer]

/-- Taking a record changes no outcome. -/
theorem fst_requireSilently_recording (ask : Asking σ) (key : String) (o : GuardOptions) (s : σ)
    (asked : List String) :
    (requireSilently (recording ask) key o (s, asked)).1 = (requireSilently ask key o s).1 := by
  rw [fst_requireSilently, fst_requireSilently, answers_recording]

/-- The first answer other than "off" is "on" or an error. -/
theorem cases_decisive? (given : List (String × Except Error Bool)) :
    decisive? given = none ∨ (∃ key, decisive? given = some (key, .ok true)) ∨
      ∃ key e, decisive? given = some (key, .error e) := by
  cases h : decisive? given with
  | none => exact .inl rfl
  | some x =>
    obtain ⟨key, answer⟩ := x
    have hnot : isOff answer = false := by simpa using List.find?_some h
    cases answer with
    | error e => exact .inr (.inr ⟨key, e, rfl⟩)
    | ok on =>
      cases on with
      | true => exact .inr (.inl ⟨key, rfl⟩)
      | false => cases hnot

/-! ## Guards before observed gates -/

/-- The answers of a gate without what can be seen from outside. -/
def unobserved (enabled : String → StateT σ Observed (Except Error Bool)) : Asking σ :=
  fun key s => (enabled key s).value

theorem value_firstAnswer (enabled : String → StateT σ Observed (Except Error Bool))
    (keys : List String) (s : σ) :
    (firstAnswer enabled keys s).value = firstAnswer (unobserved enabled) keys s := by
  induction keys generalizing s with
  | nil => rfl
  | cons key rest ih =>
    rcases h : unobserved enabled key s with ⟨answer, s'⟩
    have hvalue : (enabled key s).value = (answer, s') := h
    rw [firstAnswer]
    simp only [bind, StateT.bind, hvalue]
    cases answer with
    | error e =>
      rw [firstAnswer_of_not_off h rfl]
      rfl
    | ok on =>
      cases on with
      | true =>
        rw [firstAnswer_of_not_off h rfl]
        rfl
      | false =>
        rw [firstAnswer_of_off h, ← ih]

end Guard

/-- A guard before a gate is one whose state is the cache of the gate. -/
theorem Gate.value_require (g : Gate) (store : OverrideStore) (context : Context) (key : String)
    (o : GuardOptions) (cache : ResolveCache) :
    (g.require store context key o cache).value =
      Guard.requireSilently (Guard.unobserved (g.enabled store context none)) key o cache := by
  have h := Guard.value_firstAnswer (g.enabled store context none) (key :: o.fallbackKeys) cache
  rw [Guard.requireSilently_eq, ← h, require, Guard.require]
  simp only [bind, StateT.bind]
  generalize Guard.firstAnswer (g.enabled store context none) (key :: o.fallbackKeys) cache = found
  obtain ⟨⟨answer, left⟩, effects⟩ := found
  cases answer with
  | error e => rfl
  | ok on =>
    cases on with
    | true => rfl
    | false => rfl

namespace Guard

/-! ## The main theorem -/

/-- A guard asks the keys up to the first answer other than "off" and no others.  It lets the caller
pass exactly if this answer is "on", and tells of the error if it is one.  When all keys are off the
caller is told so in the words of the host, or with the trimmed key.  More fallback keys make a
difference only then.  The answers are those of the keys, if the gate has one answer to each.  The
record of the keys changes no outcome. -/
theorem require_stops_at_decisive (ask : Asking σ) (s : σ) (key : String) (o : GuardOptions) :
    let all := answers ask s (key :: o.fallbackKeys)
    let run (o : GuardOptions) := require (recording ask) (fun _ => pure ()) key o (s, [])
    let disabled : Rejection := o.disabledMessage.elim (.disabled (trim key)) .message
    all.map Prod.fst = key :: o.fallbackKeys ∧
    (∀ fixed : String → Except Error Bool, (∀ k s, (ask k s).1 = fixed k) →
      all = (key :: o.fallbackKeys).map fun k => (k, fixed k)) ∧
    (require ask (fun _ => pure ()) key o s).1 = (run o).1 ∧
    (run o).2.2 = (upToDecisive all).map Prod.fst ∧
    ((run o).1 = .ok () ↔ ∃ k, decisive? all = some (k, .ok true)) ∧
    (∀ k e, decisive? all = some (k, .error e) →
      (run o).1 = .error (o.errorMapper.elim (.gate e) fun mapper => mapper e)) ∧
    (decisive? all = none → (run o).1 = .error disabled) ∧
    ∀ more, run { o with fallbackKeys := o.fallbackKeys ++ more } = run o ∨
      decisive? all = none ∧ (run o).1 = .error disabled := by
  intro all run disabled
  have hrecord : (requireSilently ask key o s).1 = (run o).1 :=
    (fst_requireSilently_recording ask key o s []).symm
  have hrun : (run o).1 = o.judge key (((decisive? all).map Prod.snd).getD (.ok false)) :=
    hrecord.symm.trans (fst_requireSilently ask key o s)
  have hdisabled : decisive? all = none → (run o).1 = .error disabled := by
    intro h
    rw [hrun, h]
    exact congrArg Except.error (o.ofDisabled_eq key)
  refine ⟨map_fst_answers ask s _, fun fixed hfixed => answers_of_fixed hfixed s _, hrecord,
    ?_, ?_, ?_, hdisabled, ?_⟩
  · show (requireSilently (recording ask) key o (s, [])).2.2 = _
    rw [requireSilently_eq, asked_firstAnswer, List.nil_append]
  · rw [hrun]
    rcases cases_decisive? all with h | ⟨k, h⟩ | ⟨k, e, h⟩
    · simp [h, GuardOptions.judge]
    · simp [h, GuardOptions.judge]
    · simp [h, GuardOptions.judge]
  · intro k e h
    rw [hrun, h]
    exact congrArg Except.error (o.ofError_eq e)
  · intro more
    by_cases h : decisive? all = none
    · exact .inr ⟨h, hdisabled h⟩
    · left
      have hne : decisive? (answers (recording ask) (s, []) (key :: o.fallbackKeys)) ≠ none := by
        rwa [answers_recording]
      have hsearch := firstAnswer_append (recording ask) (s, []) hne more
      show requireSilently (recording ask) key _ (s, []) = requireSilently (recording ask) key o _
      rw [requireSilently_eq, requireSilently_eq, ← List.cons_append, hsearch]
      rfl

/-- The feature "beta" is on and all others are off. -/
def onForTesters : Gate where
  config := {}
  accepted := GateConfig.incompleteScope?_default
  normalizer := .standard
  collaborators := { defaults := fun key => .ok (if key = "beta" then .of true else .unset) }

/-- An empty fallback key keeps out a caller whom the key after it would let pass.  A caller who is
turned away because all keys are off can be let pass by one more key. -/
theorem require_stops_at_decisive_onForTesters :
    let ask := unobserved (onForTesters.enabled .empty .empty none)
    let guard (key : String) (fallbackKeys : List String) :=
      requireSilently (recording ask) key { fallbackKeys } (.noop, [])
    (∀ key fallbackKeys, (guard key fallbackKeys).1 =
      (onForTesters.require .empty .empty key { fallbackKeys } .noop).value.1) ∧
    (guard "checkout" ["", "beta"]).1 = .error (.gate (Gate.keyError "" "" "resolve")) ∧
    (guard "checkout" ["", "beta"]).2.2 = ["checkout", ""] ∧
    (guard " checkout" []).1 = .error (.disabled "checkout") ∧
    (guard " checkout" ["beta"]).1 = .ok () := by
  intro ask guard
  obtain ⟨-, -, -, hasked, -, herror, -, -⟩ :=
    require_stops_at_decisive ask .noop "checkout" { fallbackKeys := ["", "beta"] }
  obtain ⟨-, -, -, -, -, -, hoff, -⟩ := require_stops_at_decisive ask .noop " checkout" {}
  obtain ⟨-, -, -, -, hon, -, -, -⟩ :=
    require_stops_at_decisive ask .noop " checkout" { fallbackKeys := ["beta"] }
  refine ⟨fun key fallbackKeys => ?_, ?_, ?_, ?_, ?_⟩
  · rw [Gate.value_require]
    exact fst_requireSilently_recording ask key { fallbackKeys } .noop []
  · exact herror "" _ (by decide +kernel)
  · exact hasked.trans (by decide +kernel)
  · exact hoff (by decide +kernel)
  · exact hon.2 ⟨"beta", by decide +kernel⟩

end Guard

end FeatureFlags
