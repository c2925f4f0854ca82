/-
AgentState.Store.Error — why a store refuses.

* `Defect` — what makes a snapshot unfit to be stored.
* `StoreError` — the refusals of a store, with their texts.
-/
import AgentState.Snapshot
import AgentState.Text.Decimal

namespace AgentState

/-- What makes a snapshot unfit to be stored. -/
inductive Defect where
  | unspecifiedState
  | noId
  | noInstanceId
  deriving DecidableEq

namespace Defect

def message : Defect → String
  | .unspecifiedState => "snapshot state must not be UNSPECIFIED"
  | .noId => "snapshot_id must not be empty"
  | .noInstanceId => "instance_id must not be empty"

end Defect

/-- The first defect of a snapshot, if it has one. -/
def Snapshot.defect? (s : Snapshot) : Option Defect :=
  if s.state = .unspecified then some .unspecifiedState
  else if s.id = "" then some .noId
  else if s.instanceId = "" then some .noInstanceId
  else none

/-- A refusal of the store.  `hugeQueue` stands for a queue that cannot be
made at all: the caller gets no answer but the end of its work. -/
inductive StoreError where
  | defective (defect : Defect)
  | emptyQueue
  | hugeQueue
  | versionConflict (candidate current : UInt64)
  | subscriberLimit (limit : UInt64)
  deriving DecidableEq

namespace StoreError

/-- The text of the error. -/
def message : StoreError → String
  | .defective d => "Invalid argument: " ++ d.message
  | .emptyQueue => "Invalid argument: subscriber queue capacity must be at least 1"
  | .hugeQueue => "subscriber queue capacity is out of reach"
  | .versionConflict candidate current =>
      "Version conflict: candidate version " ++ Decimal.write candidate.toNat ++
        " does not exceed current version " ++ Decimal.write current.toNat
  | .subscriberLimit limit =>
      "Subscriber limit exceeded: " ++ Decimal.write limit.toNat ++ " subscribers already registered"

end StoreError

end AgentState
