/-
AgentState.Document.Cycle — stages, proposals and decisions read from
documents.
-/
import AgentState.Cycle.Phase
import AgentState.Json.Form

namespace AgentState

open Json

instance : Readable Phase := ⟨fun v => v.choice?.bind Phase.ofCaption?⟩

/-- The members of a proposal, in order. -/
def Proposal.names : List String := ["id", "action", "score"]

instance : Readable Proposal where
  read? v := do
    let r ← v.record? Proposal.names
    some {
      id := ← r.required? read? "id"
      action := ← r.required? read? "action"
      score := ← r.required? read? "score" }

/-- A decision to act is an object whose one member names it and holds the
proposal. -/
instance : Readable Decision where
  read? v :=
    match v.choice? with
    | some "Hold" => some .hold
    | _ => match v.members? with
      | some [("Execute", p)] => (read? p).map .execute
      | _ => none

end AgentState
