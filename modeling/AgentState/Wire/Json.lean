/-
AgentState.Wire.Json — wire records as JSON.

* A record is an object with a member for every field.  When it is read,
  every member may be missing and takes the field of the blank record.
* `formatOf?` — the format alone: the only member that is looked at, and
  the only one that may not be given twice.
-/
import AgentState.Wire.Record
import AgentState.Json.Form

namespace AgentState

open Json

namespace WireTransition

/-- The members of a step, in order. -/
def names : List String :=
  ["from_state", "to_state", "trigger", "status", "error_message", "monotonic_ns", "wall_time"]

instance : Writable WireTransition where
  write w := objectValue [
    ("from_state", write w.source), ("to_state", write w.target),
    ("trigger", write w.trigger), ("status", write w.status),
    ("error_message", write w.errorMessage), ("monotonic_ns", write w.monotonic),
    ("wall_time", write w.wall)]

instance : Readable WireTransition where
  read? v := do
    let r ← v.record? names
    some {
      source := ← r.orElse? read? "from_state" blank.source
      target := ← r.orElse? read? "to_state" blank.target
      trigger := ← r.orElse? read? "trigger" blank.trigger
      status := ← r.orElse? read? "status" blank.status
      errorMessage := ← r.orElse? read? "error_message" blank.errorMessage
      monotonic := ← r.orElse? read? "monotonic_ns" blank.monotonic
      wall := ← r.orElse? read? "wall_time" blank.wall }

end WireTransition

namespace WireSnapshot

/-- The members of a snapshot, in order. -/
def names : List String :=
  ["format_version", "version", "state", "prev_state", "reason", "monotonic_ns", "wall_time",
   "snapshot_id", "parent_snapshot_id", "instance_id", "source_module", "attempt_count",
   "history", "context_data", "state_metadata"]

instance : Writable WireSnapshot where
  write w := objectValue [
    ("format_version", write w.format), ("version", write w.version),
    ("state", write w.state), ("prev_state", write w.prevState),
    ("reason", write w.reason), ("monotonic_ns", write w.monotonic),
    ("wall_time", write w.wall), ("snapshot_id", write w.id),
    ("parent_snapshot_id", write w.parentId), ("instance_id", write w.instanceId),
    ("source_module", write w.sourceModule), ("attempt_count", write w.attempts),
    ("history", write w.history), ("context_data", write w.context),
    ("state_metadata", write w.metadata)]

instance : Readable WireSnapshot where
  read? v := do
    let r ← v.record? names
    some {
      format := ← r.orElse? read? "format_version" blank.format
      version := ← r.orElse? read? "version" blank.version
      state := ← r.orElse? read? "state" blank.state
      prevState := ← r.orElse? read? "prev_state" blank.prevState
      reason := ← r.orElse? read? "reason" blank.reason
      monotonic := ← r.orElse? read? "monotonic_ns" blank.monotonic
      wall := ← r.orElse? read? "wall_time" blank.wall
      id := ← r.orElse? read? "snapshot_id" blank.id
      parentId := ← r.orElse? read? "parent_snapshot_id" blank.parentId
      instanceId := ← r.orElse? read? "instance_id" blank.instanceId
      sourceModule := ← r.orElse? read? "source_module" blank.sourceModule
      attempts := ← r.orElse? read? "attempt_count" blank.attempts
      history := ← r.orElse? read? "history" blank.history
      context := ← r.orElse? read? "context_data" blank.context
      metadata := ← r.orElse? read? "state_metadata" blank.metadata }

/-- The format that a document names, the current one when it names
none. -/
def formatOf? (v : Value) : Option UInt32 := do
  let r ← v.record? ["format_version"]
  r.orElse? read? "format_version" formatVersion

end WireSnapshot

end AgentState
