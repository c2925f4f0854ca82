/-
AgentState.Document.Snapshot — snapshots as documents of their own.

Here states and outcomes stand under their names, and nothing but what may
be absent in a snapshot may be left out of its document.  The documents
that peers exchange have codes and standard values instead.
-/
import AgentState.Snapshot
import AgentState.Json.Form

namespace AgentState

open Json

instance : Writable State := ⟨fun q => textValue q.name⟩
instance : Readable State := ⟨fun v => v.choice?.bind State.ofName?⟩

instance : Writable Status := ⟨fun q => textValue q.name⟩
instance : Readable Status := ⟨fun v => v.choice?.bind Status.ofName?⟩

namespace Transition

/-- The members of a step, in order. -/
def names : List String :=
  ["from_state", "to_state", "trigger", "status", "error_message", "monotonic_ns", "wall_time"]

instance : Writable Transition where
  write t := objectValue [
    ("from_state", write t.source), ("to_state", write t.target),
    ("trigger", write t.trigger), ("status", write t.status),
    ("error_message", write t.errorMessage), ("monotonic_ns", write t.monotonic),
    ("wall_time", write t.wall)]

instance : Readable Transition where
  read? v := do
    let r ← v.record? names
    some {
      source := ← r.required? read? "from_state"
      target := ← r.required? read? "to_state"
      trigger := ← r.required? read? "trigger"
      status := ← r.required? read? "status"
      errorMessage := ← r.required? read? "error_message"
      monotonic := ← r.required? read? "monotonic_ns"
      wall := ← r.required? read? "wall_time" }

end Transition

namespace History

instance : Writable History := ⟨fun h => objectValue [("transitions", write h.transitions)]⟩

instance : Readable History where
  read? v := do
    let r ← v.record? ["transitions"]
    some ⟨← r.required? read? "transitions"⟩

end History

namespace Snapshot

/-- The members of a snapshot, in order. -/
def names : List String :=
  ["version", "state", "prev_state", "reason", "monotonic_ns", "wall_time", "snapshot_id",
   "parent_snapshot_id", "instance_id", "source_module", "attempt_count", "history",
   "context_data", "state_metadata"]

instance : Writable Snapshot where
  write s := objectValue [
    ("version", write s.version), ("state", write s.state),
    ("prev_state", write s.prevState), ("reason", write s.reason),
    ("monotonic_ns", write s.monotonic), ("wall_time", write s.wall),
    ("snapshot_id", write s.id), ("parent_snapshot_id", write s.parentId),
    ("instance_id", write s.instanceId), ("source_module", write s.sourceModule),
    ("attempt_count", write s.attempts), ("history", write s.history),
    ("context_data", write s.context), ("state_metadata", write s.metadata)]

instance : Readable Snapshot where
  read? v := do
    let r ← v.record? names
    some {
      version := ← r.required? read? "version"
      state := ← r.required? read? "state"
      prevState := ← r.optional? read? "prev_state"
      reason := ← r.required? read? "reason"
      monotonic := ← r.required? read? "monotonic_ns"
      wall := ← r.required? read? "wall_time"
      id := ← r.required? read? "snapshot_id"
      parentId := ← r.optional? read? "parent_snapshot_id"
      instanceId := ← r.required? read? "instance_id"
      sourceModule := ← r.required? read? "source_module"
      attempts := ← r.required? read? "attempt_count"
      history := ← r.required? read? "history"
      context := ← r.required? read? "context_data"
      metadata := ← r.required? read? "state_metadata" }

end Snapshot

end AgentState
