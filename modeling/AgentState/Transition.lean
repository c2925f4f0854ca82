/-
AgentState.Transition — recorded steps of the machine.

* `Status` — how a step ended.
* `Transition` — one step with its reason and its time.
* `History` — steps in the order they were recorded; recording makes a
  new history and leaves the old one as it was.
* `History.path` — the states visited, `History.span?` — the time from
  the first step to the last.
-/
import AgentState.State
import AgentState.Clock

namespace AgentState

/-- How a step of the machine ended. -/
inductive Status where
  | unspecified
  | success
  | failed
  | pending
  deriving DecidableEq, Inhabited

namespace Status

/-- All outcomes, in the order of their codes. -/
def all : List Status := [.unspecified, .success, .failed, .pending]

/-- The stable name of an outcome. -/
def name : Status → String
  | .unspecified => "UNSPECIFIED"
  | .success => "SUCCESS"
  | .failed => "FAILED"
  | .pending => "PENDING"

/-- The outcome of a name; any other text names none. -/
def ofName? (s : String) : Option Status :=
  all.find? (fun q => q.name == s)

/-- The stable numeric code of an outcome. -/
def code : Status → Int32
  | .unspecified => 0
  | .success => 1
  | .failed => 2
  | .pending => 3

/-- The outcome of a code; a code of no outcome is `unspecified`. -/
def ofCode (c : Int32) : Status :=
  (all.find? (fun q => q.code == c)).getD .unspecified

theorem ofCode_code (q : Status) : ofCode q.code = q := by
  cases q <;> decide

theorem ofName?_name (q : Status) : ofName? q.name = some q := by
  cases q <;> decide

end Status

/-- One recorded step. -/
structure Transition where
  source : State
  target : State
  trigger : String
  status : Status
  errorMessage : String
  monotonic : UInt64
  wall : WallTime
  deriving DecidableEq

namespace Transition

/-- A step that happens now. -/
def make (now : Stamp) (source target : State) (trigger : String) (status : Status) :
    Transition :=
  { source, target, trigger, status, errorMessage := ""
    monotonic := now.monotonic, wall := now.wall }

/-- A step at a given time.  A monotonic reading of zero and the start
of the civil count both stand for "now". -/
def makeAt (now : Stamp) (source target : State) (trigger : String) (status : Status)
    (monotonic : UInt64) (wall : WallTime) : Transition :=
  { source, target, trigger, status, errorMessage := ""
    monotonic := if monotonic = 0 then now.monotonic else monotonic
    wall := if wall = WallTime.epoch then now.wall else wall }

/-- The same step with an error message. -/
def withError (t : Transition) (message : String) : Transition :=
  { t with errorMessage := message }

/-- Whether the step leads to another state. -/
def changesState (t : Transition) : Bool := t.source != t.target

end Transition

/-- Recorded steps, oldest first. -/
structure History where
  transitions : List Transition
  deriving DecidableEq

namespace History

def empty : History := ⟨[]⟩

instance : Inhabited History := ⟨empty⟩

/-- The history with one more step. -/
def record (h : History) (t : Transition) : History := ⟨h.transitions ++ [t]⟩

def length (h : History) : Nat := h.transitions.length

def isEmpty (h : History) : Bool := h.transitions.isEmpty

/-- The latest step. -/
def last? (h : History) : Option Transition := h.transitions.getLast?

/-- The state before the first step, then the state after each step. -/
def path (h : History) : List State :=
  (h.transitions.head?.map Transition.source).toList ++ h.transitions.map Transition.target

/-- The time from the first step to the last, when that is not
negative. -/
def span? (h : History) : Option Span :=
  match h.transitions.head?, h.transitions.getLast? with
  | some first, some last =>
      let d := last.wall.since first.wall
      if 0 ≤ d then some (Span.ofNanos d.toNat) else none
  | _, _ => none

end History

end AgentState
