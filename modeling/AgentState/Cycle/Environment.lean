/-
AgentState.Cycle.Environment — what a cycle works with.

Both parts act on a world `σ` of which the cycle itself knows nothing.

* `Environment` — the way to the store and to the clocks.
* `Collaborators` — everybody whom a tick asks.
* `Desk.environment` — the store behind its gate, `Environment.beside` —
  an environment in a larger world.
-/
import AgentState.Cycle.Outcome
import AgentState.Store.Gate

namespace AgentState

/-- The way to the store and to the clocks.  `clock` is in milliseconds. -/
structure Environment (σ : Type) where
  get : σ → Option Snapshot × σ
  begin : σ → Snapshot × σ
  set : VersionPolicy → Snapshot → σ → Except StoreError Snapshot × σ
  mark : σ → StepMark × σ
  clock : σ → Nat
  sleep : Nat → σ → σ

/-- Everybody whom a tick asks.  Each can refuse with a text. -/
structure Collaborators (σ : Type) where
  updateContext : Nat → σ → Except String Context × σ
  checkBios : Context → σ → Except String Bool × σ
  evaluate : Snapshot → Context → σ → Except String (List Proposal) × σ
  decide : Snapshot → List Proposal → σ → Except String Decision × σ
  engageSafeMode : Nat → PhaseError → σ → Except String Unit × σ

/-- The store behind its gate. -/
def Desk.environment : Environment Desk where
  get := Desk.get
  begin := Desk.begin
  set := Desk.set
  mark := Desk.mark
  clock := Desk.now
  sleep := Desk.sleep

namespace Environment

variable {σ τ : Type}

/-- The same environment with something beside its world. -/
def beside (e : Environment σ) : Environment (σ × τ) where
  get w := ((e.get w.1).1, ((e.get w.1).2, w.2))
  begin w := ((e.begin w.1).1, ((e.begin w.1).2, w.2))
  set p c w := ((e.set p c w.1).1, ((e.set p c w.1).2, w.2))
  mark w := ((e.mark w.1).1, ((e.mark w.1).2, w.2))
  clock w := e.clock w.1
  sleep ms w := (e.sleep ms w.1, w.2)

end Environment

end AgentState
