/-
AgentState.Rule — guarded rules and the table that decides the next
state.

* `Rule` — from a state to a state, under a condition.
* `RuleTable.next` — the answer of the first rule that applies.  It is
  total: without a rule the state holds, and the unspecified state
  always holds, as an error.
* `RuleTable.step` — the answer turned into the next snapshot.
* `RuleTable.standard` — the table of an agent that boots, idles, acts on
  proposals and recovers from faults.
-/
import AgentState.Snapshot
import AgentState.Trigger

namespace AgentState

/-- What a step depends on beside the state. -/
structure Conditions where
  biosOk : Bool
  hasProposals : Bool
  deriving DecidableEq

namespace Conditions

/-- All four conditions: (F,F), (F,T), (T,F), (T,T). -/
def all : List Conditions :=
  [⟨false, false⟩, ⟨false, true⟩, ⟨true, false⟩, ⟨true, true⟩]

end Conditions

/-- A guarded rule. -/
structure Rule where
  source : State
  target : State
  trigger : Trigger
  guard : Conditions → Bool

namespace Rule

/-- Whether the rule fires in a state under the conditions. -/
def applies (r : Rule) (current : State) (c : Conditions) : Bool :=
  current == r.source && r.guard c

/-- The description of a rule.  Guards are not shown. -/
def describe (r : Rule) : String :=
  "TransitionRule \x7b from: " ++ r.source.caption ++ ", to: " ++ r.target.caption ++
    ", trigger: " ++ r.trigger.caption ++ ", guard: Guard \x7b .. \x7d \x7d"

end Rule

/-- Rules in order of precedence. -/
structure RuleTable where
  rules : List Rule

namespace RuleTable

/-- The agent's own table. -/
def standard : RuleTable where
  rules := [
    ⟨.booting, .idle, .bootComplete, fun c => c.biosOk⟩,
    ⟨.booting, .error, .biosError, fun c => !c.biosOk⟩,
    ⟨.idle, .error, .biosError, fun c => !c.biosOk⟩,
    ⟨.idle, .active, .proposalsReceived, fun c => c.biosOk && c.hasProposals⟩,
    ⟨.active, .error, .biosError, fun c => !c.biosOk⟩,
    ⟨.active, .idle, .noProposals, fun c => c.biosOk && !c.hasProposals⟩,
    ⟨.error, .idle, .errorCleared, fun c => c.biosOk && !c.hasProposals⟩]

/-- The description of a table. -/
def describe (t : RuleTable) : String :=
  "TransitionEngine \x7b rules: [" ++ ", ".intercalate (t.rules.map Rule.describe) ++ "] \x7d"

/-- The next state and the reason for it. -/
def next (t : RuleTable) (current : State) (c : Conditions) : State × Trigger :=
  if current = .unspecified then (current, .transitionError)
  else match t.rules.find? (fun r => r.applies current c) with
    | some r => (r.target, r.trigger)
    | none => (current, .noChange)

/-- The record of a step.  The error trigger makes it a failed one. -/
def transitionFor (now : Stamp) (source target : State) (trigger : Trigger) : Transition :=
  if trigger = .transitionError then
    (Transition.make now source target trigger.label .failed).withError
      ("no transition defined from state " ++ source.name)
  else Transition.make now source target trigger.label .success

/-- The snapshot after one step, and the reason.  Only a change of state
is recorded in the history, with a reading of the clocks of its own. -/
def step (t : RuleTable) (mark : StepMark) (current : Snapshot) (c : Conditions) :
    Snapshot × Trigger :=
  let answer := t.next current.state c
  let record :=
    if answer.1 ≠ current.state then
      some (transitionFor mark.recorded current.state answer.1 answer.2)
    else none
  (current.derive mark.toMark answer.1 answer.2.label record, answer.2)

end RuleTable

end AgentState
