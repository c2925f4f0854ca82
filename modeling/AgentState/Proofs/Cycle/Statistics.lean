/-
AgentState.Proofs.Cycle.Statistics — what the numbers of a cycle say of its
ticks.

A tick changes the numbers in different places, depending on how it ends.
Each place comes out as one function of the end, and the numbers after any
ticks are functions of their ends, whatever was committed meanwhile and by
whom.

* `Stats.after` — the numbers after one more tick.
* `Stats.Of` — the numbers as functions of the ends; `Stats.Of.concat` — one
  more end.
* `Round`, `Cycle.rounds` — ticks one after the other, with others before
  each; `Cycle.ticks_eq_rounds` — nobody in between.
* `stats_of_outcomes` — the statement over all rounds.
-/
import AgentState.Proofs.Cycle.Contest
import Mathlib.Data.List.DropRight

namespace AgentState

variable {σ : Type}

namespace Outcome

/-- Whether a tick ended early. -/
def isRecovered : Outcome → Bool
  | .completed _ => false
  | .recovered _ => true

/-- The report of a tick that went through all stages. -/
def report? : Outcome → Option TickReport
  | .completed r => some r
  | .recovered _ => none

/-- The number of failures that a tick reports. -/
def cumulativeErrors : Outcome → Nat
  | .completed r => r.cumulativeErrors
  | .recovered f => f.cumulativeErrors

end Outcome

namespace Stats

/-- The numbers after a tick with a given end. -/
def after (s : Stats) : Outcome → Stats
  | .completed r =>
      { s with ticks := s.ticks + 1, consecutiveErrors := 0, lastState := some r.snapshot.state }
  | .recovered _ =>
      { s with
        ticks := s.ticks + 1, errors := s.errors + 1
        consecutiveErrors := s.consecutiveErrors + 1 }

/-- The numbers of ticks with these ends, the last one last. -/
structure Of (s : Stats) (outcomes : List Outcome) : Prop where
  ticks : s.ticks = outcomes.length
  errors : s.errors = outcomes.countP Outcome.isRecovered
  /-- The failures in the end without a success behind them. -/
  consecutive : s.consecutiveErrors = (outcomes.rtakeWhile Outcome.isRecovered).length
  last : s.lastState =
    (outcomes.filterMap Outcome.report?).getLast?.map fun r => r.snapshot.state

namespace Of

theorem nil : Stats.zero.Of [] := ⟨rfl, rfl, rfl, rfl⟩

/-- One more end. -/
theorem concat {s : Stats} {outcomes : List Outcome} (h : s.Of outcomes) (o : Outcome) :
    (s.after o).Of (outcomes ++ [o]) := by
  obtain ⟨ticks, errors, consecutive, last⟩ := h
  cases o with
  | completed r =>
    refine ⟨?_, ?_, ?_, ?_⟩
    · simp [after, ticks]
    · simp [after, errors, Outcome.isRecovered]
    · simp [after, List.rtakeWhile_concat_neg, Outcome.isRecovered]
    · simp [after, Outcome.report?]
  | recovered f =>
    refine ⟨?_, ?_, ?_, ?_⟩
    · simp [after, ticks]
    · simp [after, errors, Outcome.isRecovered]
    · rw [List.rtakeWhile_concat_pos _ _ _ (by rfl), List.length_append]
      simp [after, consecutive]
    · simp [after, last, Outcome.report?]

end Of

end Stats

namespace Cycle

/-- What a tick does with the numbers, and what it reports of them. -/
theorem tick_stats (c : Cycle) (env : Environment σ) (who : Collaborators σ) (w : σ) :
    (c.tick env who w).2.1.stats = c.stats.after (c.tick env who w).1 ∧
      (c.tick env who w).1.tickId = c.stats.ticks + 1 ∧
      (c.tick env who w).1.cumulativeErrors = (c.stats.after (c.tick env who w).1).errors := by
  rcases ran : (c.stages env who (c.stats.ticks + 1)).run ⟨w, .empty⟩ with ⟨error | f, g⟩
  · simp only [tick, ran]
    exact ⟨rfl, rfl, rfl⟩
  · simp only [tick, ran]
    exact ⟨rfl, rfl, rfl⟩

end Cycle

/-- What others do, and the collaborators of the tick that follows. -/
structure Round (σ : Type) where
  others : σ → σ
  who : Collaborators σ

namespace Cycle

/-- Rounds one after the other: how the ticks ended, the cycle after them and
the world. -/
def rounds (env : Environment σ) : List (Round σ) → Cycle → σ → List Outcome × Cycle × σ
  | [], c, w => ([], c, w)
  | round :: rest, c, w =>
      let (outcome, c, w) := c.tick env round.who (round.others w)
      let (outcomes, c, w) := rounds env rest c w
      (outcome :: outcomes, c, w)

/-- Ticks one after the other are rounds in which others do nothing in between. -/
theorem ticks_eq_rounds (env : Environment σ) : ∀ (whos : List (Collaborators σ)) (c : Cycle)
    (w : σ), ticks env whos c w = rounds env (whos.map fun who => ⟨id, who⟩) c w
  | [], _, _ => rfl
  | who :: rest, c, w => by
      simp only [ticks, List.map_cons, rounds, id_eq]
      rw [ticks_eq_rounds env rest]

/-- What a tick reports that comes after ticks with given ends. -/
def Tallied (past : List Outcome) (o : Outcome) : Prop :=
  o.tickId = past.length + 1 ∧ o.cumulativeErrors = (past ++ [o]).countP Outcome.isRecovered

/-- Numbers that are right stay so, and so are the reports. -/
theorem rounds_stats (env : Environment σ) :
    ∀ (rs : List (Round σ)) (past : List Outcome) (c : Cycle) (w : σ), c.stats.Of past →
      (rounds env rs c w).1.length = rs.length ∧
        (rounds env rs c w).2.1.stats.Of (past ++ (rounds env rs c w).1) ∧
        ∀ before o later, (rounds env rs c w).1 = before ++ o :: later →
          Tallied (past ++ before) o
  | [], past, c, w, right => by
      refine ⟨rfl, by simpa [rounds] using right, fun before o later split => ?_⟩
      simp [rounds] at split
  | round :: rest, past, c, w, right => by
      obtain ⟨stats, id, errors⟩ := c.tick_stats env round.who (round.others w)
      rcases ran : c.tick env round.who (round.others w) with ⟨o, c', w'⟩
      rw [ran] at stats id errors
      have next : c'.stats.Of (past ++ [o]) := stats ▸ right.concat o
      obtain ⟨length, right', tallied⟩ := rounds_stats env rest (past ++ [o]) c' w' next
      have whole : rounds env (round :: rest) c w =
          (o :: (rounds env rest c' w').1, (rounds env rest c' w').2) := by
        simp only [rounds, ran]
      rw [whole]
      refine ⟨by simp [length], by simpa using right', fun before o' later split => ?_⟩
      cases before with
      | nil =>
        obtain ⟨rfl, -⟩ := List.cons.inj split
        rw [List.append_nil]
        exact ⟨id.trans (by rw [right.ticks]), errors.trans (right.concat o).errors⟩
      | cons first before =>
        obtain ⟨rfl, rest⟩ := List.cons.inj split
        simpa using tallied before o' later rest

end Cycle

/-- The numbers of a new cycle after any ticks one after the other, at any
store, whatever others do before and during each of them and however it ends.

The ticks are numbered from 1.  What is counted are the ticks, those that were
recovered, and of these the ones since a tick completed.  The last state is
that of the snapshot in the last report; what a tick commits that fails later
has no part in it, nor has what others commit.  A tick that completes reports
the recovered ones before it, and one that is recovered also itself. -/
theorem stats_of_outcomes (env : Environment σ) (table : RuleTable) (config : CycleConfig)
    (rs : List (Round σ)) (w : σ) :
    let outcomes := (Cycle.rounds env rs ⟨table, config, .zero⟩ w).1
    let stats := (Cycle.rounds env rs ⟨table, config, .zero⟩ w).2.1.stats
    outcomes.length = rs.length ∧
    stats.ticks = rs.length ∧
    stats.errors = outcomes.countP Outcome.isRecovered ∧
    stats.consecutiveErrors = (outcomes.rtakeWhile Outcome.isRecovered).length ∧
    stats.lastState =
      (outcomes.filterMap Outcome.report?).getLast?.map (fun r => r.snapshot.state) ∧
    ∀ before o later, outcomes = before ++ o :: later →
      o.tickId = before.length + 1 ∧
      o.cumulativeErrors = (before ++ [o]).countP Outcome.isRecovered := by
  intro outcomes stats
  obtain ⟨length, right, tallied⟩ :=
    Cycle.rounds_stats env rs [] ⟨table, config, .zero⟩ w Stats.Of.nil
  exact ⟨length, right.ticks.trans length, right.errors, right.consecutive, right.last, tallied⟩

/-- Collaborators that find the machine faulty, and cannot decide in the end. -/
def alarmed : Collaborators Contest :=
  { agreeable with
    checkBios := fun _ w => (.ok false, w)
    decide := fun _ _ w => (.error "no decision", w) }

/-- A tick that completes, and one that commits and fails: the last state is
the one of the report. -/
example :
    let course := Cycle.rounds Contest.environment [⟨id, agreeable⟩, ⟨id, alarmed⟩]
      ⟨.standard, .standard, .zero⟩ ⟨contested.scene, []⟩
    course.2.1.stats = ⟨2, 1, 1, some .idle⟩ ∧
      course.2.2.scene.run.store.current.map Snapshot.state = some .error := by
  decide +kernel

end AgentState
