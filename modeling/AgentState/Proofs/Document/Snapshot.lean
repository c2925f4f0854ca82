/-
AgentState.Proofs.Document.Snapshot — snapshots are read back from documents of
their own.

* `choice?_textValue` — a name is read as the choice that it names.
* States and outcomes are `Lossless`; states are also `Solid`, so that one may
  be absent.  Steps, histories and snapshots are `Carrying`.
-/
import AgentState.Document.Snapshot
import AgentState.Proofs.Carried
import AgentState.Proofs.Json.Form

namespace AgentState

open Json

/-! ## Names -/

/-- A name is read as the choice that it names. -/
theorem choice?_textValue (s : String) : (textValue s).choice? = some s := text?_textValue s

instance : Lossless State where
  spelled q := spelled_textValue q.name
  read?_write q := by
    show (textValue q.name).choice?.bind State.ofName? = some q
    rw [choice?_textValue, Option.bind_some, State.ofName?_name]
instance : Solid State := ⟨fun _ => by simp [write, textValue]⟩

instance : Lossless Status where
  spelled q := spelled_textValue q.name
  read?_write q := by
    show (textValue q.name).choice?.bind Status.ofName? = some q
    rw [choice?_textValue, Option.bind_some, Status.ofName?_name]

/-! ## Steps and histories -/

namespace Transition

/-- The members of a written step. -/
def members (t : Transition) : List (String × Value) :=
  [("from_state", write t.source), ("to_state", write t.target), ("trigger", write t.trigger),
   ("status", write t.status), ("error_message", write t.errorMessage),
   ("monotonic_ns", write t.monotonic), ("wall_time", write t.wall)]

theorem nodup_members (t : Transition) : (t.members.map Prod.fst).Nodup :=
  show names.Nodup by decide

instance : Carrying Transition where
  carried := carried
  spelled t := by
    have spelled : ∀ m ∈ t.members, m.2.Spelled := by simp [members, Carrying.spelled]
    exact spelled_objectValue spelled
  read?_write t := by
    have nodup := t.nodup_members
    show (Value.record? names (objectValue t.members) >>= _) = some t.carried
    refine bind_of_some (record?_objectValue nodup names) ?_
    refine bind_required? nodup "from_state" t.source (by simp [members]) ?_
    refine bind_required? nodup "to_state" t.target (by simp [members]) ?_
    refine bind_required? nodup "trigger" t.trigger (by simp [members]) ?_
    refine bind_required? nodup "status" t.status (by simp [members]) ?_
    refine bind_required? nodup "error_message" t.errorMessage (by simp [members]) ?_
    refine bind_required? nodup "monotonic_ns" t.monotonic (by simp [members]) ?_
    refine bind_required? nodup "wall_time" t.wall (by simp [members]) ?_
    rfl

end Transition

namespace History

/-- The members of a written history. -/
def members (h : History) : List (String × Value) := [("transitions", write h.transitions)]

theorem nodup_members (h : History) : (h.members.map Prod.fst).Nodup :=
  List.nodup_singleton "transitions"

instance : Carrying History where
  carried := carried
  spelled h := by
    have spelled : ∀ m ∈ h.members, m.2.Spelled := by simp [members, Carrying.spelled]
    exact spelled_objectValue spelled
  read?_write h := by
    have nodup := h.nodup_members
    show (Value.record? ["transitions"] (objectValue h.members) >>= _) = some h.carried
    refine bind_of_some (record?_objectValue nodup _) ?_
    refine bind_required? nodup "transitions" h.transitions (by simp [members]) ?_
    rfl

end History

/-! ## Snapshots -/

namespace Snapshot

/-- The members of a written snapshot. -/
def members (s : Snapshot) : List (String × Value) :=
  [("version", write s.version), ("state", write s.state), ("prev_state", write s.prevState),
   ("reason", write s.reason), ("monotonic_ns", write s.monotonic), ("wall_time", write s.wall),
   ("snapshot_id", write s.id), ("parent_snapshot_id", write s.parentId),
   ("instance_id", write s.instanceId), ("source_module", write s.sourceModule),
   ("attempt_count", write s.attempts), ("history", write s.history),
   ("context_data", write s.context), ("state_metadata", write s.metadata)]

theorem nodup_members (s : Snapshot) : (s.members.map Prod.fst).Nodup :=
  show names.Nodup by decide

instance : Carrying Snapshot where
  carried := carried
  spelled s := by
    have spelled : ∀ m ∈ s.members, m.2.Spelled := by simp [members, Carrying.spelled]
    exact spelled_objectValue spelled
  read?_write s := by
    have nodup := s.nodup_members
    show (Value.record? names (objectValue s.members) >>= _) = some s.carried
    refine bind_of_some (record?_objectValue nodup names) ?_
    refine bind_required? nodup "version" s.version (by simp [members]) ?_
    refine bind_required? nodup "state" s.state (by simp [members]) ?_
    refine bind_optional? nodup "prev_state" s.prevState (by simp [members]) ?_
    refine bind_required? nodup "reason" s.reason (by simp [members]) ?_
    refine bind_required? nodup "monotonic_ns" s.monotonic (by simp [members]) ?_
    refine bind_required? nodup "wall_time" s.wall (by simp [members]) ?_
    refine bind_required? nodup "snapshot_id" s.id (by simp [members]) ?_
    refine bind_optional? nodup "parent_snapshot_id" s.parentId (by simp [members]) ?_
    refine bind_required? nodup "instance_id" s.instanceId (by simp [members]) ?_
    refine bind_required? nodup "source_module" s.sourceModule (by simp [members]) ?_
    refine bind_required? nodup "attempt_count" s.attempts (by simp [members]) ?_
    refine bind_required? nodup "history" s.history (by simp [members]) ?_
    refine bind_required? nodup "context_data" s.context (by simp [members]) ?_
    refine bind_required? nodup "state_metadata" s.metadata (by simp [members]) ?_
    rfl

end Snapshot

end AgentState
