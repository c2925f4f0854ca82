/-
AgentState.Wire.Record — snapshots as peers exchange them.

* `WireSnapshot`, `WireTransition` — states and outcomes travel as codes,
  so that a peer with more of them can still be read, and the identity
  fields may be absent.
* `WireSnapshot.ofSnapshot` — a snapshot in the current format.
* `WireSnapshot.toSnapshot` — a record as a snapshot.  Only what is absent
  is replaced; an empty text or a zero clock stays as it was sent.
-/
import AgentState.Snapshot

namespace AgentState

/-- The format of the records that are written. -/
def formatVersion : UInt32 := 1

/-- A recorded step as peers exchange it. -/
structure WireTransition where
  source : Int32
  target : Int32
  trigger : String
  status : Int32
  errorMessage : String
  monotonic : UInt64
  wall : WallTime
  deriving DecidableEq

/-- A snapshot as peers exchange it. -/
structure WireSnapshot where
  format : UInt32
  version : UInt64
  state : Int32
  prevState : Option Int32
  reason : String
  monotonic : UInt64
  wall : WallTime
  id : Option String
  parentId : Option String
  instanceId : Option String
  sourceModule : Option String
  attempts : UInt32
  history : List WireTransition
  context : TextMap
  metadata : TextMap
  deriving DecidableEq

/-- Identifiers for a record that brings none. -/
structure FreshIds where
  snapshot : String
  instanceId : String

namespace WireTransition

/-- The step that a record stands for when it says nothing. -/
def blank : WireTransition :=
  { source := 0, target := 0, trigger := "", status := 0, errorMessage := ""
    monotonic := 0, wall := .epoch }

def ofTransition (t : Transition) : WireTransition :=
  { source := t.source.code, target := t.target.code, trigger := t.trigger
    status := t.status.code, errorMessage := t.errorMessage
    monotonic := t.monotonic, wall := t.wall }

def toTransition (w : WireTransition) : Transition :=
  { source := State.ofCode w.source, target := State.ofCode w.target, trigger := w.trigger
    status := Status.ofCode w.status, errorMessage := w.errorMessage
    monotonic := w.monotonic, wall := w.wall }

theorem toTransition_ofTransition (t : Transition) : (ofTransition t).toTransition = t := by
  simp [ofTransition, toTransition, State.ofCode_code, Status.ofCode_code]

end WireTransition

namespace WireSnapshot

/-- The snapshot that a record stands for when it says nothing. -/
def blank : WireSnapshot :=
  { format := formatVersion, version := 0, state := 0, prevState := none, reason := ""
    monotonic := 0, wall := .epoch, id := none, parentId := none, instanceId := none
    sourceModule := none, attempts := 0, history := [], context := .empty
    metadata := .empty }

def ofSnapshot (s : Snapshot) : WireSnapshot :=
  { format := formatVersion, version := s.version, state := s.state.code
    prevState := s.prevState.map State.code, reason := s.reason
    monotonic := s.monotonic, wall := s.wall, id := some s.id, parentId := s.parentId
    instanceId := some s.instanceId, sourceModule := some s.sourceModule
    attempts := s.attempts
    history := s.history.transitions.map WireTransition.ofTransition
    context := s.context, metadata := s.metadata }

def toSnapshot (ids : FreshIds) (w : WireSnapshot) : Snapshot :=
  { version := w.version, state := State.ofCode w.state
    prevState := w.prevState.map State.ofCode, reason := w.reason
    monotonic := w.monotonic, wall := w.wall, id := w.id.getD ids.snapshot
    parentId := w.parentId, instanceId := w.instanceId.getD ids.instanceId
    sourceModule := w.sourceModule.getD Snapshot.defaultSource
    attempts := w.attempts
    history := ⟨w.history.map WireTransition.toTransition⟩
    context := w.context, metadata := w.metadata }

/-- Nothing of a snapshot is lost in its record. -/
theorem toSnapshot_ofSnapshot (ids : FreshIds) (s : Snapshot) :
    (ofSnapshot s).toSnapshot ids = s := by
  have hs : ∀ p : Option State, (p.map State.code).map State.ofCode = p := by
    intro p
    cases p <;> simp [State.ofCode_code]
  have ht : ∀ l : List Transition,
      (l.map WireTransition.ofTransition).map WireTransition.toTransition = l := by
    intro l
    induction l with
    | nil => rfl
    | cons t rest ih =>
      rw [List.map_cons, List.map_cons, ih, WireTransition.toTransition_ofTransition]
  simp [ofSnapshot, toSnapshot, State.ofCode_code, hs, ht]

end WireSnapshot

end AgentState
