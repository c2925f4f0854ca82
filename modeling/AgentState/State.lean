/-
AgentState.State — the states of an agent's machine.

* `State` — the five working states and `unspecified`, the reading of a
  code or a value that names no state.
* `State.name`, `State.code` — the two stable spellings.  `ofName?` and
  `ofCode` read them back; every code that belongs to no state reads as
  `unspecified`, so a peer with more states can still be understood.
-/

namespace AgentState

/-- A state of the agent's machine. -/
inductive State where
  | unspecified
  | booting
  | idle
  | active
  | error
  | shutdown
  deriving DecidableEq, Inhabited

namespace State

/-- All states, in the order of their codes. -/
def all : List State :=
  [.unspecified, .booting, .idle, .active, .error, .shutdown]

/-- The stable name of a state. -/
def name : State → String
  | .unspecified => "UNSPECIFIED"
  | .booting => "BOOTING"
  | .idle => "IDLE"
  | .active => "ACTIVE"
  | .error => "ERROR_STATE"
  | .shutdown => "SHUTDOWN"

/-- The state of a name; any other text names none. -/
def ofName? (s : String) : Option State :=
  all.find? (fun q => q.name == s)

/-- The word used for a state in the description of a rule table. -/
def caption : State → String
  | .unspecified => "Unspecified"
  | .booting => "Booting"
  | .idle => "Idle"
  | .active => "Active"
  | .error => "Error"
  | .shutdown => "Shutdown"

/-- The stable numeric code of a state. -/
def code : State → Int32
  | .unspecified => 0
  | .booting => 1
  | .idle => 2
  | .active => 3
  | .error => 4
  | .shutdown => 5

/-- The state of a code; a code of no state is `unspecified`. -/
def ofCode (c : Int32) : State :=
  (all.find? (fun q => q.code == c)).getD .unspecified

/-- Whether the machine has stopped for good. -/
def isFinal : State → Bool
  | .shutdown => true
  | _ => false

/-- Whether the machine reports a fault. -/
def isError : State → Bool
  | .error => true
  | _ => false

theorem ofCode_code (q : State) : ofCode q.code = q := by
  cases q <;> decide

theorem ofName?_name (q : State) : ofName? q.name = some q := by
  cases q <;> decide

end State

end AgentState
