/-
AgentState.Cycle.Tick — one decision cycle.

A tick goes through its five stages in order.  The first error ends it:
the error is counted, safe mode is asked for, and after a pause the tick
ends as recovered.  What was committed before stays.

* `Cycle` — a rule table, settings and the numbers so far.
* `Cycle.advance` — the stage that moves the machine: read or begin, step,
  write.
* `Cycle.tick` — the whole tick.
-/
import AgentState.Rule
import AgentState.Cycle.Environment

namespace AgentState

/-- A decision cycle between ticks. -/
structure Cycle where
  table : RuleTable
  config : CycleConfig
  stats : Stats

/-- A world during a tick, and the stages so far. -/
structure Progress (σ : Type) where
  world : σ
  timings : Timings

/-- What all stages together found. -/
structure Findings where
  biosOk : Bool
  trigger : Trigger
  snapshot : Snapshot
  proposalCount : Nat
  decision : Decision

namespace Cycle

variable {σ : Type}

/-- Work that reports how it ended and leaves the world changed. -/
abbrev Work (σ α : Type) := σ → Except PhaseError α × σ

/-- Work during a tick. -/
abbrev Stage (σ α : Type) := ExceptT PhaseError (StateM (Progress σ)) α

/-- Runs work as a stage; it is recorded however it ends. -/
def stage {α : Type} (env : Environment σ) (p : Phase) (work : Work σ α) : Stage σ α :=
  ExceptT.mk fun g =>
    let (r, w) := work g.world
    let elapsed := Span.ofMillis (.ofNat (env.clock w - env.clock g.world))
    (r, { world := w, timings := g.timings.record p elapsed })

/-- The work of a collaborator in a stage. -/
def asked {α : Type} (p : Phase) (ask : σ → Except String α × σ) : Work σ α := fun w =>
  let (r, w) := ask w
  (r.mapError (PhaseError.collaborator p), w)

/-- The snapshot that a step starts from. -/
def read (env : Environment σ) (w : σ) : Snapshot × σ :=
  match env.get w with
  | (some c, w) => (c, w)
  | (none, w) => env.begin w

/-- Moves the machine by one step. -/
def advance (c : Cycle) (env : Environment σ) (conditions : Conditions) :
    Work σ (Snapshot × Trigger) := fun w =>
  let (current, w) := read env w
  let (mark, w) := env.mark w
  let (next, trigger) := c.table.step mark current conditions
  let (r, w) := env.set c.config.versionPolicy next w
  ((r.map (fun s => (s, trigger))).mapError PhaseError.store, w)

/-- The five stages. -/
def stages (c : Cycle) (env : Environment σ) (who : Collaborators σ) (tickId : Nat) :
    Stage σ Findings := do
  let context ← stage env .updateContext (asked .updateContext (who.updateContext tickId))
  let biosOk ← stage env .biosCheck (asked .biosCheck (who.checkBios context))
  let (snapshot, trigger) ← stage env .fsm (c.advance env ⟨biosOk, context.hasProposals⟩)
  let ranked ← stage env .evaluateProposals
    (asked .evaluateProposals (who.evaluate snapshot context))
  let decision ← stage env .makeDecision (asked .makeDecision (who.decide snapshot ranked))
  return { biosOk, trigger, snapshot, proposalCount := context.proposals.length, decision }

/-- Whether somebody did what was asked. -/
def succeeded {α : Type} : Except String α → Bool
  | .ok _ => true
  | .error _ => false

/-- One tick: how it ended, the cycle after it and the world. -/
def tick (c : Cycle) (env : Environment σ) (who : Collaborators σ) (w : σ) :
    Outcome × Cycle × σ :=
  let tickId := c.stats.ticks + 1
  match (c.stages env who tickId).run { world := w, timings := .empty } with
  | (.ok f, g) =>
      let stats := { c.stats with
        ticks := tickId, consecutiveErrors := 0, lastState := some f.snapshot.state }
      (.completed {
          tickId, biosOk := f.biosOk, trigger := f.trigger, snapshot := f.snapshot
          proposalCount := f.proposalCount, decision := f.decision, timings := g.timings
          cumulativeErrors := c.stats.errors },
        { c with stats }, g.world)
  | (.error e, g) =>
      let stats := { c.stats with
        ticks := tickId, errors := c.stats.errors + 1
        consecutiveErrors := c.stats.consecutiveErrors + 1 }
      let (engaged, w) := who.engageSafeMode tickId e g.world
      (.recovered {
          tickId, phase := e.phase, error := e, safeModeEngaged := succeeded engaged
          timings := g.timings, cumulativeErrors := stats.errors },
        { c with stats }, env.sleep (waitOf c.config.recoveryDelayMs.toNat) w)

end Cycle

end AgentState
