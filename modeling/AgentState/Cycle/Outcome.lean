/-
AgentState.Cycle.Outcome — how ticks end.

* `PhaseError` — what ended a tick early, and in which stage.
* `Timings` — the stages that ran and how long each took.
* `TickReport`, `TickFailure`, `Outcome` — the two ends of a tick.
* `Stats` — the numbers of all ticks so far.
-/
import AgentState.Cycle.Phase
import AgentState.Store.Error
import AgentState.Trigger
import AgentState.Text.Places

namespace AgentState

/-- What ended a tick early. -/
inductive PhaseError where
  | collaborator (phase : Phase) (message : String)
  | store (error : StoreError)
  deriving DecidableEq

namespace PhaseError

/-- The stage in which the error arose. -/
def phase : PhaseError → Phase
  | .collaborator p _ => p
  | .store _ => .fsm

/-- The text of the error. -/
def message : PhaseError → String
  | .collaborator p m => p.name ++ " phase failed: " ++ m
  | .store e => "store rejected snapshot: " ++ e.message

end PhaseError

/-- The stages that ran, in order, with the time that each took. -/
structure Timings where
  entries : List (Phase × Span)
  deriving DecidableEq

namespace Timings

def empty : Timings := ⟨[]⟩

/-- The timings with one more stage. -/
def record (t : Timings) (p : Phase) (elapsed : Span) : Timings :=
  ⟨t.entries ++ [(p, elapsed)]⟩

/-- The time that a stage took, if it ran. -/
def get? (t : Timings) (p : Phase) : Option Span := t.entries.lookup p

/-- The stages that ran. -/
def phases (t : Timings) : List Phase := t.entries.map Prod.fst

def length (t : Timings) : Nat := t.entries.length

/-- A span in milliseconds. -/
def millis (s : Span) : Float :=
  (s.seconds.toFloat + (UInt64.ofNat s.nanos).toFloat / 1000000000.0) * 1000.0

/-- The timings in one line. -/
def text (t : Timings) : String :=
  " ".intercalate (t.entries.map (fun e => e.1.name ++ "=" ++ Places.text 3 (millis e.2) ++ "ms"))

end Timings

/-- A tick that went through all stages.  The time of the whole tick, which
nothing but a line of the log depends on, is left out here and below; that of
each stage is among the timings. -/
structure TickReport where
  tickId : Nat
  biosOk : Bool
  trigger : Trigger
  snapshot : Snapshot
  proposalCount : Nat
  decision : Decision
  timings : Timings
  cumulativeErrors : Nat

/-- A tick that ended early. -/
structure TickFailure where
  tickId : Nat
  phase : Phase
  error : PhaseError
  safeModeEngaged : Bool
  timings : Timings
  cumulativeErrors : Nat

/-- The end of a tick. -/
inductive Outcome where
  | completed (report : TickReport)
  | recovered (failure : TickFailure)

namespace Outcome

def tickId : Outcome → Nat
  | .completed r => r.tickId
  | .recovered f => f.tickId

end Outcome

/-- The numbers of all ticks so far. -/
structure Stats where
  ticks : Nat
  errors : Nat
  consecutiveErrors : Nat
  lastState : Option State
  deriving DecidableEq

/-- Before the first tick. -/
def Stats.zero : Stats := ⟨0, 0, 0, none⟩

end AgentState
