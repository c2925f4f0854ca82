/-
AgentState.Trigger — why the machine took, or did not take, a step.

* `Trigger` — the closed list of reasons a computation can give.
* `Trigger.label` — the text that ends up in transitions and snapshots.
-/

namespace AgentState

/-- The reason attached to a computed step. -/
inductive Trigger where
  | bootComplete
  | biosError
  | proposalsReceived
  | noProposals
  | errorCleared
  | noChange
  | transitionError
  deriving DecidableEq, Inhabited

namespace Trigger

/-- All triggers, in declaration order. -/
def all : List Trigger :=
  [.bootComplete, .biosError, .proposalsReceived, .noProposals,
   .errorCleared, .noChange, .transitionError]

/-- The stable label of a trigger. -/
def label : Trigger → String
  | .bootComplete => "BOOT_COMPLETE"
  | .biosError => "BIOS_ERROR"
  | .proposalsReceived => "PROPOSALS_RECEIVED"
  | .noProposals => "NO_PROPOSALS"
  | .errorCleared => "ERROR_CLEARED"
  | .noChange => "NO_CHANGE"
  | .transitionError => "TRANSITION_ERROR"

/-- The trigger of a label; any other text is none. -/
def ofLabel? (s : String) : Option Trigger :=
  all.find? (fun t => t.label == s)

/-- The word used for a trigger in the description of a rule table. -/
def caption : Trigger → String
  | .bootComplete => "BootComplete"
  | .biosError => "BiosError"
  | .proposalsReceived => "ProposalsReceived"
  | .noProposals => "NoProposals"
  | .errorCleared => "ErrorCleared"
  | .noChange => "NoChange"
  | .transitionError => "TransitionError"

theorem ofLabel?_label (t : Trigger) : ofLabel? t.label = some t := by
  cases t <;> decide

end Trigger

end AgentState
