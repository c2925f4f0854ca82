/-
AgentState.Proofs.Wire.Json — wire records are read back from JSON.

* The wire records are `Carrying`: every field of a written record is
  found under its name and reads as what it was, with points of time carried
  over.
* `WireSnapshot.formatOf?_write` — the format that a written record
  names, looked at alone.
-/
import AgentState.Proofs.Carried
import AgentState.Proofs.Json.Form
import AgentState.Wire.Codec

namespace AgentState

open Json

namespace WireTransition

/-- The members of a written step. -/
def members (w : WireTransition) : List (String × Value) :=
  [("from_state", write w.source), ("to_state", write w.target), ("trigger", write w.trigger),
   ("status", write w.status), ("error_message", write w.errorMessage),
   ("monotonic_ns", write w.monotonic), ("wall_time", write w.wall)]

theorem nodup_names : names.Nodup := by decide

theorem nodup_members (w : WireTransition) : (w.members.map Prod.fst).Nodup := nodup_names

instance : Carrying WireTransition where
  carried := carried
  spelled w := by
    have hmembers : ∀ m ∈ w.members, m.2.Spelled := by
      simp [members, Carrying.spelled]
    exact spelled_objectValue hmembers
  read?_write w := by
    have hnodup := w.nodup_members
    have hrecord := record?_objectValue hnodup names
    show (Value.record? names (objectValue w.members) >>= _) = some w.carried
    refine bind_of_some hrecord ?_
    refine bind_orElse? hnodup "from_state" w.source (by simp [members]) ?_
    refine bind_orElse? hnodup "to_state" w.target (by simp [members]) ?_
    refine bind_orElse? hnodup "trigger" w.trigger (by simp [members]) ?_
    refine bind_orElse? hnodup "status" w.status (by simp [members]) ?_
    refine bind_orElse? hnodup "error_message" w.errorMessage (by simp [members]) ?_
    refine bind_orElse? hnodup "monotonic_ns" w.monotonic (by simp [members]) ?_
    refine bind_orElse? hnodup "wall_time" w.wall (by simp [members]) ?_
    rfl

end WireTransition

namespace WireSnapshot

/-- The members of a written snapshot. -/
def members (w : WireSnapshot) : List (String × Value) :=
  [("format_version", write w.format), ("version", write w.version), ("state", write w.state),
   ("prev_state", write w.prevState), ("reason", write w.reason),
   ("monotonic_ns", write w.monotonic), ("wall_time", write w.wall), ("snapshot_id", write w.id),
   ("parent_snapshot_id", write w.parentId), ("instance_id", write w.instanceId),
   ("source_module", write w.sourceModule), ("attempt_count", write w.attempts),
   ("history", write w.history), ("context_data", write w.context),
   ("state_metadata", write w.metadata)]

theorem nodup_names : names.Nodup := by decide

theorem nodup_members (w : WireSnapshot) : (w.members.map Prod.fst).Nodup := nodup_names

instance : Carrying WireSnapshot where
  carried := carried
  spelled w := by
    have hmembers : ∀ m ∈ w.members, m.2.Spelled := by
      simp [members, Carrying.spelled]
    exact spelled_objectValue hmembers
  read?_write w := by
    have hnodup := w.nodup_members
    have hrecord := record?_objectValue hnodup names
    show (Value.record? names (objectValue w.members) >>= _) = some w.carried
    refine bind_of_some hrecord ?_
    refine bind_orElse? hnodup "format_version" w.format (by simp [members]) ?_
    refine bind_orElse? hnodup "version" w.version (by simp [members]) ?_
    refine bind_orElse? hnodup "state" w.state (by simp [members]) ?_
    refine bind_orElse? hnodup "prev_state" w.prevState (by simp [members]) ?_
    refine bind_orElse? hnodup "reason" w.reason (by simp [members]) ?_
    refine bind_orElse? hnodup "monotonic_ns" w.monotonic (by simp [members]) ?_
    refine bind_orElse? hnodup "wall_time" w.wall (by simp [members]) ?_
    refine bind_orElse? hnodup "snapshot_id" w.id (by simp [members]) ?_
    refine bind_orElse? hnodup "parent_snapshot_id" w.parentId (by simp [members]) ?_
    refine bind_orElse? hnodup "instance_id" w.instanceId (by simp [members]) ?_
    refine bind_orElse? hnodup "source_module" w.sourceModule (by simp [members]) ?_
    refine bind_orElse? hnodup "attempt_count" w.attempts (by simp [members]) ?_
    refine bind_orElse? hnodup "history" w.history (by simp [members]) ?_
    refine bind_orElse? hnodup "context_data" w.context (by simp [members]) ?_
    refine bind_orElse? hnodup "state_metadata" w.metadata (by simp [members]) ?_
    rfl

/-- The format alone is read from the same document. -/
theorem formatOf?_write (w : WireSnapshot) : formatOf? (write w) = some w.format := by
  have hrecord := record?_objectValue w.nodup_members ["format_version"]
  show (Value.record? ["format_version"] (objectValue w.members) >>= _) = some w.format
  have hmem : ("format_version", write w.format) ∈ w.members := by simp [members]
  rw [hrecord, Option.bind_eq_bind, Option.bind_some, Record.orElse?_of_mem w.nodup_members hmem]
  exact Lossless.read?_write w.format

end WireSnapshot

end AgentState
