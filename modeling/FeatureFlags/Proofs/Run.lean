import FeatureFlags.Gate.Update

/-!
# Runs

A run is a sequence of requests to one gate.  Each request is answered in the state that the
requests before it left behind.

In `run` the collaborators of the gate do what they always do.  In `runFaulty` each request
comes with the faults that occur while it is answered: reads, writes and look-ups of defaults
that fail although they would have worked.  A key is read once in a resolution and written
once in a change, so faults by key are faults of single calls.
-/

namespace FeatureFlags

/-! ## Requests and replies -/

/-- What is asked of a gate. -/
inductive Request where
  /-- Whether a feature is on, for a chain if one is given. -/
  | resolve (context : Context) (key : String) (provided : Option Chain)
  /-- To write an override, or to clear it when there is no value. -/
  | update (key : String) (scope : Scope) (value : Option Bool) (actor : Actor)
deriving DecidableEq, Repr

/-- The state without overrides and kept answers. -/
def GateState.initial : GateState := ⟨.empty, .lru (.ofCapacity 0)⟩

/-- Whether it is asked if a feature is on. -/
def Request.isResolve : Request → Bool
  | resolve .. => true
  | update .. => false

/-- What a gate replies. -/
inductive Reply where
  /-- A resolution. -/
  | resolved (r : Resolution)
  /-- The result of a change. -/
  | updated (result : Except Error Unit)

namespace Gate

/-- The reply to a request, and the state after it. -/
def step (g : Gate) (s : GateState) : Request → Reply × GateState
  | .resolve context key provided =>
    let (r, cache) := (g.resolve s context key provided).value
    (.resolved r, { s with cache })
  | .update key scope value actor =>
    let (result, s) := (g.update s key scope value actor).value
    (.updated result, s)

/-- The replies to some requests in their order, and the state after them. -/
def run (g : Gate) : GateState → List Request → List Reply × GateState
  | s, [] => ([], s)
  | s, q :: rest =>
    let (reply, s) := g.step s q
    let (replies, s) := g.run s rest
    (reply :: replies, s)

/-- Only changes touch the overrides. -/
theorem store_run_of_isResolve {g : Gate} {requests : List Request}
    (h : ∀ q ∈ requests, q.isResolve = true) (s : GateState) :
    (g.run s requests).2.store = s.store := by
  induction requests generalizing s with
  | nil => rfl
  | cons q rest ih =>
    obtain ⟨hq, hrest⟩ := List.forall_mem_cons.1 h
    cases q with
    | resolve context key provided => exact ih hrest _
    | update key scope value actor => cases hq

end Gate

/-! ## Faults -/

/-- What fails while a request is answered. -/
structure Faults where
  /-- Why the overrides of a key cannot be read. -/
  read : String → Option Error := fun _ => none
  /-- Why an override cannot be written under a key. -/
  write : String → Option Error := fun _ => none
  /-- Why the default of a key cannot be looked up. -/
  lookUp : String → Option Error := fun _ => none

/-- No read and no look-up of a default fails. -/
def Faults.OnWritesOnly (f : Faults) : Prop := ∀ key, f.read key = none ∧ f.lookUp key = none

/-- The result of a call, or the fault that keeps it from its result. -/
def orFault {α : Type} (fault : Option Error) (x : Except Error α) : Except Error α :=
  match fault with
  | some e => .error e
  | none => x

theorem eq_ok_of_orFault {α : Type} {fault : Option Error} {x : Except Error α} {a : α}
    (h : orFault fault x = .ok a) : x = .ok a := by
  cases fault with
  | none => exact h
  | some e => cases h

/-- The reader of which some reads fail. -/
def OverrideReader.withFaults (reader : OverrideReader) (fault : String → Option Error) :
    OverrideReader :=
  fun store key chain => orFault (fault key) (reader store key chain)

/-- The writer of which some writes fail. -/
def OverrideWriter.withFaults (writer : OverrideWriter) (fault : String → Option Error) :
    OverrideWriter where
  write store key scope value actor :=
    orFault (fault key) (writer.write store key scope value actor)
  records := writer.records

/-- The defaults of which some look-ups fail. -/
def Defaults.withFaults (defaults : Defaults) (fault : String → Option Error) : Defaults :=
  fun key => orFault (fault key) (defaults key)

namespace Gate

/-- The gate while some calls of its collaborators fail. -/
def withFaults (g : Gate) (f : Faults) : Gate :=
  { g with
    collaborators := { g.collaborators with
      reader := g.collaborators.reader.map (·.withFaults f.read)
      writer := g.collaborators.writer.map (·.withFaults f.write)
      defaults := g.collaborators.defaults.withFaults f.lookUp } }

/-- The replies to some requests, each with its faults, and the state after them. -/
def runFaulty (g : Gate) : GateState → List (Faults × Request) → List Reply × GateState
  | s, [] => ([], s)
  | s, (f, q) :: rest =>
    let (reply, s) := (g.withFaults f).step s q
    let (replies, s) := g.runFaulty s rest
    (reply :: replies, s)

/-- A gate on which nothing is made to fail is the gate itself. -/
theorem withFaults_nothing (g : Gate) : g.withFaults {} = g := by
  obtain ⟨config, accepted, normalizer, collaborators⟩ := g
  obtain ⟨reader, writer, claims, permissions, defaults, strategy, rh, ah⟩ := collaborators
  cases reader <;> cases writer <;> rfl

/-- A run is a run in which nothing is made to fail. -/
theorem runFaulty_nothing (g : Gate) (s : GateState) (requests : List Request) :
    g.runFaulty s (requests.map ({}, ·)) = g.run s requests := by
  induction requests generalizing s with
  | nil => rfl
  | cons q rest ih => simp only [List.map_cons, runFaulty, run, withFaults_nothing, ih]

end Gate

end FeatureFlags
