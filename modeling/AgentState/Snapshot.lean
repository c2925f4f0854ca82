/-
AgentState.Snapshot — what the machine believes at one moment.

* `Snapshot` — a state with its version, lineage, history and notes.
* `Snapshot.fresh`, `Snapshot.coldStart` — snapshots from nothing.
* `Snapshot.derive` — the successor of a snapshot.  Only a change of
  state raises the version and the attempt count, and neither passes the
  end of its range.
-/
import AgentState.Transition
import AgentState.TextMap

namespace AgentState

/-- What the machine believes at one moment. -/
structure Snapshot where
  version : UInt64
  state : State
  prevState : Option State
  reason : String
  monotonic : UInt64
  wall : WallTime
  id : String
  parentId : Option String
  instanceId : String
  sourceModule : String
  attempts : UInt32
  history : History
  context : TextMap
  metadata : TextMap
  deriving DecidableEq

namespace Snapshot

/-- The module named in a snapshot when nothing else is said. -/
def defaultSource : String := "fsm_handler"

/-- The reason of a cold start. -/
def coldStartReason : String := "COLD_START"

/-- A snapshot without ancestors. -/
def fresh (mark : Mark) (instanceId : String) (state : State) (reason : String) : Snapshot :=
  { version := 0, state, prevState := none, reason
    monotonic := mark.stamp.monotonic, wall := mark.stamp.wall
    id := mark.id, parentId := none, instanceId, sourceModule := defaultSource
    attempts := 0, history := .empty, context := .empty, metadata := .empty }

/-- The first snapshot of a run. -/
def coldStart (mark : Mark) (instanceId : String) : Snapshot :=
  fresh mark instanceId .booting coldStartReason

/-- The same snapshot under another version. -/
def withVersion (s : Snapshot) (version : UInt64) : Snapshot := { s with version }

/-- Sets one entry of the context. -/
def withContext (s : Snapshot) (key value : String) : Snapshot :=
  { s with context := s.context.insert key value }

/-- Sets one entry of the metadata. -/
def withMetadata (s : Snapshot) (key value : String) : Snapshot :=
  { s with metadata := s.metadata.insert key value }

/-- Whether `s` names `other` as its parent. -/
def isDerivedFrom (s other : Snapshot) : Bool := s.parentId == some other.id

/-- The trigger of the latest recorded step. -/
def lastTrigger? (s : Snapshot) : Option String := s.history.last?.map Transition.trigger

/-- One more, or the same at the end of the range. -/
def bumpVersion (v : UInt64) : UInt64 := if v.toNat + 1 < UInt64.size then v + 1 else v

/-- One more, or the same at the end of the range. -/
def bumpAttempts (n : UInt32) : UInt32 := if n.toNat + 1 < UInt32.size then n + 1 else n

/-- The successor of `current` in state `next`, with a step recorded if
one is given. -/
def derive (mark : Mark) (current : Snapshot) (next : State) (reason : String)
    (step : Option Transition) : Snapshot :=
  let changed := next ≠ current.state
  { version := if changed then bumpVersion current.version else current.version
    state := next
    prevState := if changed then some current.state else current.prevState
    reason
    monotonic := mark.stamp.monotonic
    wall := mark.stamp.wall
    id := mark.id
    parentId := some current.id
    instanceId := current.instanceId
    sourceModule := current.sourceModule
    attempts := if changed then bumpAttempts current.attempts else current.attempts
    history := match step with
      | some t => current.history.record t
      | none => current.history
    context := current.context
    metadata := current.metadata }

end Snapshot

end AgentState
