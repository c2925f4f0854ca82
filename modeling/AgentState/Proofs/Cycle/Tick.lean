/-
AgentState.Proofs.Cycle.Tick — the ways in which a tick ends.

Between the beginning of a tick and its end the world is changed by the
collaborators, by the stage that moves the machine, and by the pause after
an error.  Whatever relation the first and the last of these keep holds from
the beginning of the tick to that stage and from that stage to the end.

* `run_stage_bind` — a stage and what comes after it.
* `Collaborators.Within` — collaborators that keep a relation.
* `Cycle.Ends` — the four ends of a tick, `tick_ends` — the inversion;
  `tick_of_checked` — how a tick goes on once the machine is to be moved.
* `Cycle.ticks` — ticks one after the other.
-/
import AgentState.Cycle.Tick

namespace AgentState

variable {σ : Type}

/-- All that collaborators do to the world keeps a relation. -/
structure Collaborators.Within (T : σ → σ → Prop) (who : Collaborators σ) : Prop where
  updateContext : ∀ tickId w, T w (who.updateContext tickId w).2
  checkBios : ∀ context w, T w (who.checkBios context w).2
  evaluate : ∀ s context w, T w (who.evaluate s context w).2
  decide : ∀ s ranked w, T w (who.decide s ranked w).2
  engageSafeMode : ∀ tickId e w, T w (who.engageSafeMode tickId e w).2

namespace Cycle

/-! ## Stages -/

/-- The progress after a stage that left the world `w`. -/
def recorded (env : Environment σ) (p : Phase) (g : Progress σ) (w : σ) : Progress σ :=
  ⟨w, g.timings.record p (Span.ofMillis (.ofNat (env.clock w - env.clock g.world)))⟩

/-- A stage that fails is the last one; what comes after any other starts
where it ended. -/
theorem run_stage_bind {α β : Type} (env : Environment σ) (p : Phase) (work : Work σ α)
    (rest : α → Stage σ β) (g : Progress σ) :
    (stage env p work >>= rest).run g =
      match work g.world with
      | (.error e, w) => (.error e, recorded env p g w)
      | (.ok a, w) => (rest a).run (recorded env p g w) := by
  show ((ExceptT.bindCont rest (work g.world).1) : StateM (Progress σ) _) _ = _
  rcases work g.world with ⟨e | a, w⟩
  · rfl
  · rfl

/-- Work as a stage with something to do after it ends in one of two ways. -/
theorem stage_bind_ends {α β : Type} {env : Environment σ} {p : Phase} {work : Work σ α}
    {rest : α → Stage σ β} {g g' : Progress σ} {r : Except PhaseError β}
    (ran : (stage env p work >>= rest).run g = (r, g')) :
    (∃ e, work g.world = (.error e, g'.world) ∧ r = .error e) ∨
      ∃ a middle, work g.world = (.ok a, middle.world) ∧ (rest a).run middle = (r, g') := by
  rw [run_stage_bind] at ran
  rcases worked : work g.world with ⟨e | a, w⟩
  · rw [worked] at ran
    cases ran
    exact .inl ⟨e, rfl, rfl⟩
  · rw [worked] at ran
    exact .inr ⟨a, recorded env p g w, rfl, ran⟩

/-- A collaborator's error names the stage in which it was asked. -/
theorem asked_error {α : Type} {p : Phase} {ask : σ → Except String α × σ} {w w' : σ}
    {e : PhaseError} (failed : asked p ask w = (.error e, w')) :
    e.phase = p ∧ w' = (ask w).2 := by
  unfold asked at failed
  rcases h : ask w with ⟨m | a, v⟩
  · rw [h] at failed
    cases failed
    exact ⟨rfl, rfl⟩
  · rw [h] at failed
    cases failed

/-- A collaborator that answers answers in a stage. -/
theorem asked_of_ok {α : Type} {p : Phase} {ask : σ → Except String α × σ} {w w' : σ} {a : α}
    (answered : ask w = (.ok a, w')) : asked p ask w = (.ok a, w') := by
  unfold asked
  rw [answered]
  rfl

theorem asked_ok {α : Type} {p : Phase} {ask : σ → Except String α × σ} {w w' : σ} {a : α}
    (answered : asked p ask w = (.ok a, w')) : w' = (ask w).2 := by
  unfold asked at answered
  rcases h : ask w with ⟨m | a, v⟩
  · rw [h] at answered
    cases answered
  · rw [h] at answered
    cases answered
    rfl

/-! ## Ticks -/

/-- The ends of the stages of a tick: how far they came, where the stage
that moves the machine began and ended, and what it answered. -/
inductive Reached (c : Cycle) (env : Environment σ) (T : σ → σ → Prop) (w : σ) :
    Except PhaseError Findings → σ → Prop where
  | early (e : PhaseError) (w' : σ) (phase : e.phase = .updateContext ∨ e.phase = .biosCheck)
      (before : T w w') : Reached c env T w (.error e) w'
  | rejected (k : Conditions) (e : PhaseError) (w₁ w' : σ) (before : T w w₁)
      (advanced : c.advance env k w₁ = (.error e, w')) : Reached c env T w (.error e) w'
  | late (k : Conditions) (x : Snapshot) (trigger : Trigger) (e : PhaseError) (w₁ w₂ w' : σ)
      (before : T w w₁) (advanced : c.advance env k w₁ = (.ok (x, trigger), w₂))
      (phase : e.phase = .evaluateProposals ∨ e.phase = .makeDecision) (after : T w₂ w') :
      Reached c env T w (.error e) w'
  | all (k : Conditions) (f : Findings) (w₁ w₂ w' : σ) (before : T w w₁)
      (advanced : c.advance env k w₁ = (.ok (f.snapshot, f.trigger), w₂)) (after : T w₂ w') :
      Reached c env T w (.ok f) w'

theorem stages_reach {T : σ → σ → Prop} (trans : ∀ {a b c}, T a b → T b c → T a c)
    (c : Cycle) (env : Environment σ) {who : Collaborators σ} (within : who.Within T)
    (tickId : Nat) {g g' : Progress σ} {r : Except PhaseError Findings}
    (ran : (c.stages env who tickId).run g = (r, g')) : Reached c env T g.world r g'.world := by
  unfold stages at ran
  rcases stage_bind_ends ran with ⟨e, failed, rfl⟩ | ⟨context, g₁, answered, ran⟩
  · obtain ⟨phase, world⟩ := asked_error failed
    exact .early e _ (.inl phase) (world ▸ within.updateContext _ _)
  have first : T g.world g₁.world := asked_ok answered ▸ within.updateContext _ _
  rcases stage_bind_ends ran with ⟨e, failed, rfl⟩ | ⟨biosOk, g₂, answered, ran⟩
  · obtain ⟨phase, world⟩ := asked_error failed
    exact .early e _ (.inr phase) (trans first (world ▸ within.checkBios _ _))
  have before : T g.world g₂.world := trans first (asked_ok answered ▸ within.checkBios _ _)
  rcases stage_bind_ends ran with ⟨e, failed, rfl⟩ | ⟨⟨x, trigger⟩, g₃, advanced, ran⟩
  · exact .rejected _ e _ _ before failed
  rcases stage_bind_ends ran with ⟨e, failed, rfl⟩ | ⟨ranked, g₄, answered, ran⟩
  · obtain ⟨phase, world⟩ := asked_error failed
    exact .late _ x trigger e _ _ _ before advanced (.inl phase) (world ▸ within.evaluate _ _ _)
  have evaluated : T g₃.world g₄.world := asked_ok answered ▸ within.evaluate _ _ _
  rcases stage_bind_ends ran with ⟨e, failed, rfl⟩ | ⟨decision, g₅, answered, ran⟩
  · obtain ⟨phase, world⟩ := asked_error failed
    exact .late _ x trigger e _ _ _ before advanced (.inr phase)
      (trans evaluated (world ▸ within.decide _ _ _))
  have after : T g₃.world g₅.world := trans evaluated (asked_ok answered ▸ within.decide _ _ _)
  cases ran
  exact .all _ _ _ _ _ before advanced after

/-- The ends of a tick. -/
inductive Ends (c : Cycle) (env : Environment σ) (T : σ → σ → Prop) (w : σ) :
    Outcome → σ → Prop where
  | early (f : TickFailure) (w' : σ) (phase : f.phase = .updateContext ∨ f.phase = .biosCheck)
      (aside : T w w') : Ends c env T w (.recovered f) w'
  | rejected (k : Conditions) (f : TickFailure) (w₁ w₂ w' : σ) (before : T w w₁)
      (advanced : c.advance env k w₁ = (.error f.error, w₂)) (after : T w₂ w') :
      Ends c env T w (.recovered f) w'
  | late (k : Conditions) (x : Snapshot) (trigger : Trigger) (f : TickFailure) (w₁ w₂ w' : σ)
      (before : T w w₁) (advanced : c.advance env k w₁ = (.ok (x, trigger), w₂))
      (phase : f.phase = .evaluateProposals ∨ f.phase = .makeDecision) (after : T w₂ w') :
      Ends c env T w (.recovered f) w'
  | completed (k : Conditions) (r : TickReport) (w₁ w₂ w' : σ) (before : T w w₁)
      (advanced : c.advance env k w₁ = (.ok (r.snapshot, r.trigger), w₂)) (after : T w₂ w') :
      Ends c env T w (.completed r) w'

/-- A tick keeps its table and its settings, and ends in one of four ways. -/
theorem tick_ends {T : σ → σ → Prop} (trans : ∀ {a b c}, T a b → T b c → T a c)
    (c : Cycle) (env : Environment σ) (sleep : ∀ ms w, T w (env.sleep ms w))
    {who : Collaborators σ} (within : who.Within T) (w : σ) :
    (c.tick env who w).2.1.table = c.table ∧ (c.tick env who w).2.1.config = c.config ∧
      Ends c env T w (c.tick env who w).1 (c.tick env who w).2.2 := by
  rcases ran : (c.stages env who (c.stats.ticks + 1)).run ⟨w, .empty⟩ with ⟨e | f, g⟩
  · simp only [tick, ran, true_and]
    have recovered : T g.world (env.sleep (waitOf c.config.recoveryDelayMs.toNat)
        (who.engageSafeMode (c.stats.ticks + 1) e g.world).2) :=
      trans (within.engageSafeMode _ _ _) (sleep _ _)
    cases stages_reach (T := T) trans c env within _ ran with
    | early _ _ phase before => exact .early _ _ phase (trans before recovered)
    | rejected k _ w₁ _ before advanced =>
      exact .rejected k _ w₁ _ _ before advanced recovered
    | late k x trigger _ w₁ w₂ _ before advanced phase after =>
      exact .late k x trigger _ w₁ w₂ _ before advanced phase (trans after recovered)
  · simp only [tick, ran, true_and]
    cases stages_reach (T := T) trans c env within _ ran with
    | all k _ w₁ w₂ _ before advanced after =>
      exact .completed k _ w₁ w₂ _ before advanced after

/-- How a tick goes on that came as far as the stage that moves the machine:
if that fails, safe mode is asked for and the pause follows, and nothing else;
if not, the tick completes with what was committed or fails later. -/
theorem tick_of_checked (c : Cycle) (env : Environment σ) {who : Collaborators σ} {w w₁ w₂ : σ}
    {context : Context} {biosOk : Bool}
    (updated : who.updateContext (c.stats.ticks + 1) w = (.ok context, w₁))
    (checked : who.checkBios context w₁ = (.ok biosOk, w₂)) :
    (∀ e w₃, c.advance env ⟨biosOk, context.hasProposals⟩ w₂ = (.error e, w₃) →
      ∃ f, (c.tick env who w).1 = .recovered f ∧ f.error = e ∧ f.phase = e.phase ∧
        (c.tick env who w).2.2 = env.sleep (waitOf c.config.recoveryDelayMs.toNat)
          (who.engageSafeMode (c.stats.ticks + 1) e w₃).2) ∧
    ∀ x trigger w₃, c.advance env ⟨biosOk, context.hasProposals⟩ w₂ = (.ok (x, trigger), w₃) →
      (∃ r, (c.tick env who w).1 = .completed r ∧ r.snapshot = x ∧ r.trigger = trigger) ∨
        ∃ f, (c.tick env who w).1 = .recovered f ∧
          (f.phase = .evaluateProposals ∨ f.phase = .makeDecision) := by
  have first : asked .updateContext (who.updateContext (c.stats.ticks + 1)) w =
      (.ok context, w₁) := asked_of_ok updated
  have second : asked .biosCheck (who.checkBios context) w₁ = (.ok biosOk, w₂) :=
    asked_of_ok checked
  rcases ran : (c.stages env who (c.stats.ticks + 1)).run ⟨w, .empty⟩ with ⟨r, g⟩
  have all := ran
  unfold stages at all
  -- the first two stages answer
  rcases stage_bind_ends all with ⟨e, failed, -⟩ | ⟨context', g₁, answered, all⟩
  · rw [first] at failed
    cases failed
  obtain ⟨same, world⟩ := Prod.mk.inj (first.symm.trans answered)
  cases same
  rcases stage_bind_ends all with ⟨e, failed, -⟩ | ⟨biosOk', g₂, answered, all⟩
  · rw [← world, second] at failed
    cases failed
  rw [← world, second] at answered
  obtain ⟨same, world⟩ := Prod.mk.inj answered
  cases same
  have third := stage_bind_ends all
  rw [← world] at third
  refine ⟨fun e w₃ advanced => ?_, fun x trigger w₃ advanced => ?_⟩
  · rcases third with ⟨e', failed, rfl⟩ | ⟨answer, g₃, answered, -⟩
    · rw [advanced] at failed
      obtain ⟨same, world⟩ := Prod.mk.inj failed
      cases same
      simp only [tick, ran]
      exact ⟨_, rfl, rfl, rfl, by rw [world]⟩
    · rw [advanced] at answered
      cases answered
  · rcases third with ⟨e', failed, -⟩ | ⟨answer, g₃, answered, all⟩
    · rw [advanced] at failed
      cases failed
    · rw [advanced] at answered
      obtain ⟨same, -⟩ := Prod.mk.inj answered
      cases same
      simp only [tick, ran]
      rcases stage_bind_ends all with ⟨e, failed, rfl⟩ | ⟨ranked, g₄, -, all⟩
      · exact .inr ⟨_, rfl, .inl (asked_error failed).1⟩
      rcases stage_bind_ends all with ⟨e, failed, rfl⟩ | ⟨decision, g₅, -, all⟩
      · exact .inr ⟨_, rfl, .inr (asked_error failed).1⟩
      cases all
      exact .inl ⟨_, rfl, rfl, rfl⟩

/-- Ticks one after the other, with the collaborators of each: how they
ended, the cycle after them and the world. -/
def ticks (env : Environment σ) :
    List (Collaborators σ) → Cycle → σ → List Outcome × Cycle × σ
  | [], c, w => ([], c, w)
  | who :: rest, c, w =>
      let (outcome, c, w) := c.tick env who w
      let (outcomes, c, w) := ticks env rest c w
      (outcome :: outcomes, c, w)

end Cycle

end AgentState
