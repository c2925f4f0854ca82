/-
AgentState.Cycle.Phase — the stages of a tick and what they pass on.

* `Phase` — the five stages, in the order in which they run.
* `Context` — what a tick knows when it starts, `Proposal` — an action
  that could be taken, `Decision` — what is done in the end.
-/

namespace AgentState

/-- A stage of a tick. -/
inductive Phase where
  | updateContext
  | biosCheck
  | fsm
  | evaluateProposals
  | makeDecision
  deriving DecidableEq, Inhabited

namespace Phase

/-- All stages, in the order in which they run. -/
def all : List Phase := [.updateContext, .biosCheck, .fsm, .evaluateProposals, .makeDecision]

/-- The name of a stage in reports and errors. -/
def name : Phase → String
  | .updateContext => "update_context"
  | .biosCheck => "bios_check"
  | .fsm => "fsm"
  | .evaluateProposals => "evaluate_proposals"
  | .makeDecision => "make_decision"

/-- The name of a stage in documents. -/
def caption : Phase → String
  | .updateContext => "UpdateContext"
  | .biosCheck => "BiosCheck"
  | .fsm => "Fsm"
  | .evaluateProposals => "EvaluateProposals"
  | .makeDecision => "MakeDecision"

/-- The stage of a document's name; any other text names none. -/
def ofCaption? (s : String) : Option Phase := all.find? (fun p => p.caption == s)

theorem ofCaption?_caption (p : Phase) : ofCaption? p.caption = some p := by
  cases p <;> decide

end Phase

/-- An action that could be taken, with its score. -/
structure Proposal where
  id : String
  action : String
  score : Float

/-- What a tick knows when it starts. -/
structure Context where
  proposals : List Proposal
  sensors : List (String × String)

namespace Context

def hasProposals (c : Context) : Bool := !c.proposals.isEmpty

end Context

/-- What a tick decides: to keep the present actuation or to act. -/
inductive Decision where
  | hold
  | execute (proposal : Proposal)

end AgentState
