/-
AgentState.Proofs.Cycle.Undisturbed — what a tick leaves at a store that
nobody else writes to.

A tick touches the store in one stage only.  What the collaborators of the
other stages answer decides whether that stage comes and with which
conditions, and nothing else.

* `Store.opened`, `Store.moved` — what that stage makes of a store: the
  current snapshot or a cold start, a step of the table, a write.
* `Collaborators.Aloof` — collaborators that leave the store to the cycle.
* `Cycle.advance_alone` — behind a desk without a line the stage is
  `Store.moved`.
* `Cycle.Left` — the four ends of a tick with the store that each leaves,
  `Cycle.tick_left` — the inversion.
* `tick_leaves` — the statement over ticks.
-/
import AgentState.Proofs.Cycle.Tick
import AgentState.Proofs.Store.Whole
import AgentState.Text.Serial

namespace AgentState

/-! ## The stage that moves the machine -/

namespace Store

/-- The snapshot that a step starts from, with the store that it is read from
and the identifiers that are left. -/
def opened (s : Store) (supply : Supply) : Snapshot × Store × Supply :=
  match s.current with
  | some c => (c, s.get.2, supply)
  | none =>
      let w := s.get.2.begin supply.mark.1
      (w.result, w.store, supply.mark.2)

/-- A step of a table over what a store holds, and its write. -/
def moved (s : Store) (t : RuleTable) (policy : VersionPolicy) (k : Conditions)
    (supply : Supply) : Except StoreError (Snapshot × Trigger) × Store :=
  let (c, s, supply) := s.opened supply
  let (x, trigger) := t.step supply.stepMark.1 c k
  let w := s.set supply.stepMark.2.stamp.1 policy x
  (w.result.map (fun y => (y, trigger)), w.store)

/-- A step whose write is refused leaves what it was read from, and at most
counts the refusal. -/
theorem moved_of_error {s : Store} {t : RuleTable} {policy : VersionPolicy} {k : Conditions}
    {supply : Supply} {e : StoreError} (refused : (s.moved t policy k supply).1 = .error e) :
    ∃ n ≤ 1, (s.moved t policy k supply).2 = (s.opened supply).2.1.rejecting n := by
  simp only [moved] at refused ⊢
  refine set_of_error (e := e) ?_
  revert refused
  cases Written.result _ with
  | error e' => exact fun h => by simpa [Except.map] using h
  | ok y => exact fun h => by simp [Except.map] at h

end Store

/-! ## A desk without a line -/

namespace Desk

variable {d : Desk}

/-- Without a line a read is the store's. -/
theorem get_of_alone (alone : d.line = []) :
    d.get = (d.store.current, { d with store := d.store.get.2 }) := by
  obtain ⟨store, supply, now, free, line, answers⟩ := d
  subst alone
  rfl

/-- Without a line a cold start is the store's. -/
theorem begin_of_alone (alone : d.line = []) :
    d.begin.1 = (d.store.begin d.supply.mark.1).result ∧
      d.begin.2.store = (d.store.begin d.supply.mark.1).store ∧
      d.begin.2.supply = d.supply.mark.2 ∧ d.begin.2.line = [] := by
  obtain ⟨store, supply, now, free, line, answers⟩ := d
  subst alone
  exact ⟨rfl, rfl, rfl, rfl⟩

/-- Without a line a write is the store's. -/
theorem set_of_alone (alone : d.line = []) (policy : VersionPolicy) (candidate : Snapshot) :
    (d.set policy candidate).1 = (d.store.set d.supply.stamp.1 policy candidate).result ∧
      (d.set policy candidate).2.store =
        (d.store.set d.supply.stamp.1 policy candidate).store ∧
      (d.set policy candidate).2.line = [] := by
  obtain ⟨store, supply, now, free, line, answers⟩ := d
  subst alone
  cases defective : candidate.defect? with
  | some e => simp [set, defective, Store.set_of_defect defective]
  | none =>
    simp only [set, defective]
    exact ⟨rfl, rfl, rfl⟩

end Desk

namespace Cycle

variable {τ : Type}

/-- Behind a desk without a line, what a step starts from is what the store
gives. -/
theorem read_alone {d : Desk} (alone : d.line = []) :
    (read Desk.environment d).1 = (d.store.opened d.supply).1 ∧
      (read Desk.environment d).2.store = (d.store.opened d.supply).2.1 ∧
      (read Desk.environment d).2.supply = (d.store.opened d.supply).2.2 ∧
      (read Desk.environment d).2.line = [] := by
  have got : Desk.environment.get d = (d.store.current, { d with store := d.store.get.2 }) :=
    Desk.get_of_alone alone
  unfold read Store.opened
  rw [got]
  cases d.store.current with
  | some c => exact ⟨rfl, rfl, rfl, alone⟩
  | none => exact Desk.begin_of_alone alone

/-- Behind a desk without a line, the stage that moves the machine is the
store's own. -/
theorem advance_alone (c : Cycle) (k : Conditions) {d : Desk} (alone : d.line = []) :
    let moved := d.store.moved c.table c.config.versionPolicy k d.supply
    (c.advance Desk.environment k d).1 = moved.1.mapError PhaseError.store ∧
      (c.advance Desk.environment k d).2.store = moved.2 ∧
      (c.advance Desk.environment k d).2.line = [] := by
  rcases found : read Desk.environment d with ⟨x, d₁⟩
  rcases opened : d.store.opened d.supply with ⟨x', s₁, supply₁⟩
  obtain ⟨current, store, supply, line⟩ := read_alone alone
  rw [found, opened] at current store supply
  rw [found] at line
  dsimp only at current store supply line
  subst current store supply
  obtain ⟨result, written, line'⟩ := Desk.set_of_alone (d := d₁.mark.2) line
    c.config.versionPolicy (c.table.step d₁.supply.stepMark.1 x k).1
  simp only [advance, found, Store.moved, opened]
  refine ⟨?_, written, line'⟩
  exact congrArg (fun r => Except.mapError PhaseError.store
    (Except.map (fun y => (y, (c.table.step d₁.supply.stepMark.1 x k).2)) r)) result

/-- What stands beside a desk does not matter to the stage. -/
theorem advance_beside (c : Cycle) (k : Conditions) (w : Desk × τ) :
    c.advance Desk.environment.beside k w =
      ((c.advance Desk.environment k w.1).1, ((c.advance Desk.environment k w.1).2, w.2)) := by
  have found : read Desk.environment.beside w =
      ((read Desk.environment w.1).1, ((read Desk.environment w.1).2, w.2)) := by
    have got : Desk.environment.beside.get w =
        ((Desk.environment.get w.1).1, ((Desk.environment.get w.1).2, w.2)) := rfl
    unfold read
    rw [got]
    rcases Desk.environment.get w.1 with ⟨_ | x, d⟩ <;> rfl
  simp only [advance, found]
  rfl

end Cycle

/-! ## Ticks -/

variable {τ : Type}

/-- The same store, and the same line before its gate. -/
structure Desk.Kept (d d' : Desk) : Prop where
  store : d'.store = d.store
  line : d'.line = d.line

theorem Desk.Kept.trans {d d' d'' : Desk} (h : Kept d d') (h' : Kept d' d'') : Kept d d'' :=
  ⟨h'.store.trans h.store, h'.line.trans h.line⟩

/-- Collaborators that leave the store to the cycle.  They may answer as they
like, take time, use identifiers up and change the world beside the store. -/
def Collaborators.Aloof (who : Collaborators (Desk × τ)) : Prop :=
  who.Within fun w w' => Desk.Kept w.1 w'.1

/-- What ended a tick early, if something did. -/
def Outcome.error? : Outcome → Option PhaseError
  | .completed _ => none
  | .recovered f => some f.error

namespace Cycle

/-- The conditions under which a tick moves the machine, if it comes to that,
and the identifiers that are left then. -/
def conditions? (c : Cycle) (who : Collaborators (Desk × τ)) (w : Desk × τ) :
    Option (Conditions × Supply) :=
  match who.updateContext (c.stats.ticks + 1) w with
  | (.error _, _) => none
  | (.ok context, w₁) =>
      match who.checkBios context w₁ with
      | (.error _, _) => none
      | (.ok biosOk, w₂) => some (⟨biosOk, context.hasProposals⟩, w₂.1.supply)

/-- The ends of a tick: what ended it early, and what it leaves of the
store. -/
inductive Left (c : Cycle) (who : Collaborators (Desk × τ)) (w : Desk × τ) :
    Option PhaseError → Store → Prop where
  | early (e : PhaseError) (phase : e.phase = .updateContext ∨ e.phase = .biosCheck)
      (ended : c.conditions? who w = none) :
      Left c who w (some e) w.1.store
  | refused (k : Conditions) (supply : Supply) (e : StoreError) (s : Store)
      (came : c.conditions? who w = some (k, supply))
      (moved : w.1.store.moved c.table c.config.versionPolicy k supply = (.error e, s)) :
      Left c who w (some (.store e)) s
  | late (k : Conditions) (supply : Supply) (x : Snapshot) (trigger : Trigger) (s : Store)
      (e : PhaseError) (came : c.conditions? who w = some (k, supply))
      (moved : w.1.store.moved c.table c.config.versionPolicy k supply = (.ok (x, trigger), s))
      (phase : e.phase = .evaluateProposals ∨ e.phase = .makeDecision) :
      Left c who w (some e) s
  | all (k : Conditions) (supply : Supply) (x : Snapshot) (trigger : Trigger) (s : Store)
      (came : c.conditions? who w = some (k, supply))
      (moved : w.1.store.moved c.table c.config.versionPolicy k supply = (.ok (x, trigger), s)) :
      Left c who w none s

/-- A collaborator's answer in a stage is the collaborator's. -/
theorem ask_of_asked {σ α : Type} {p : Phase} {ask : σ → Except String α × σ} {w w' : σ} {a : α}
    (answered : asked p ask w = (.ok a, w')) : ask w = (.ok a, w') := by
  unfold asked at answered
  rcases h : ask w with ⟨m | b, v⟩
  · rw [h] at answered
    cases answered
  · rw [h] at answered
    cases answered
    rfl

/-- A stage in which nobody answers has nobody's answer. -/
theorem ask_of_asked_error {σ α : Type} {p : Phase} {ask : σ → Except String α × σ} {w w' : σ}
    {e : PhaseError} (failed : asked p ask w = (.error e, w')) :
    ∃ m, ask w = (.error m, w') := by
  unfold asked at failed
  rcases h : ask w with ⟨m | b, v⟩
  · rw [h] at failed
    cases failed
    exact ⟨m, rfl⟩
  · rw [h] at failed
    cases failed

/-- What the stage that moves the machine leaves is what the store's own move
leaves. -/
theorem moved_of_advance {c : Cycle} {k : Conditions} {w w' : Desk × τ} {s : Store}
    {r : Except PhaseError (Snapshot × Trigger)} (alone : w.1.line = []) (store : w.1.store = s)
    (advanced : c.advance Desk.environment.beside k w = (r, w')) :
    ∃ answer, s.moved c.table c.config.versionPolicy k w.1.supply = (answer, w'.1.store) ∧
      r = answer.mapError PhaseError.store := by
  obtain ⟨answer, written, -⟩ := c.advance_alone k alone
  rw [advance_beside] at advanced
  cases advanced
  rw [store] at answer written
  exact ⟨_, Prod.ext rfl written.symm, answer⟩

/-- The stages of a tick end in one of the four ways. -/
theorem stages_left (c : Cycle) {who : Collaborators (Desk × τ)} (aloof : who.Aloof)
    {g g' : Progress (Desk × τ)} {r : Except PhaseError Findings} (alone : g.world.1.line = [])
    (ran : (c.stages Desk.environment.beside who (c.stats.ticks + 1)).run g = (r, g')) :
    Left c who g.world (match r with | .error e => some e | .ok _ => none) g'.world.1.store := by
  unfold stages at ran
  rcases stage_bind_ends ran with ⟨e, failed, rfl⟩ | ⟨context, g₁, answered, ran⟩
  · obtain ⟨phase, world⟩ := asked_error failed
    obtain ⟨m, silent⟩ := ask_of_asked_error failed
    rw [world, (aloof.updateContext _ _).store]
    exact .early e (.inl phase) (by simp only [conditions?, silent])
  have updated := ask_of_asked answered
  have first : Desk.Kept g.world.1 g₁.world.1 := asked_ok answered ▸ aloof.updateContext _ _
  rcases stage_bind_ends ran with ⟨e, failed, rfl⟩ | ⟨biosOk, g₂, answered, ran⟩
  · obtain ⟨phase, world⟩ := asked_error failed
    obtain ⟨m, silent⟩ := ask_of_asked_error failed
    rw [world, (aloof.checkBios _ _).store, first.store]
    exact .early e (.inr phase) (by simp only [conditions?, updated, silent])
  have checked := ask_of_asked answered
  have before : Desk.Kept g.world.1 g₂.world.1 :=
    first.trans (asked_ok answered ▸ aloof.checkBios _ _)
  have came : c.conditions? who g.world =
      some (⟨biosOk, context.hasProposals⟩, g₂.world.1.supply) := by
    simp only [conditions?, updated, checked]
  have line : g₂.world.1.line = [] := before.line.trans alone
  rcases stage_bind_ends ran with ⟨e, failed, rfl⟩ | ⟨⟨x, trigger⟩, g₃, advanced, ran⟩
  · obtain ⟨answer, moved, refused⟩ := moved_of_advance line before.store failed
    cases answer with
    | ok y => cases refused
    | error e' =>
      cases refused
      exact .refused _ _ e' _ came moved
  obtain ⟨answer, moved, committed⟩ := moved_of_advance line before.store advanced
  cases answer with
  | error e' => cases committed
  | ok y =>
    cases committed
    rcases stage_bind_ends ran with ⟨e, failed, rfl⟩ | ⟨ranked, g₄, answered, ran⟩
    · obtain ⟨phase, world⟩ := asked_error failed
      rw [world, (aloof.evaluate _ _ _).store]
      exact .late _ _ x trigger _ e came moved (.inl phase)
    have evaluated : g₄.world.1.store = g₃.world.1.store :=
      (asked_ok answered ▸ aloof.evaluate _ _ _ : Desk.Kept g₃.world.1 g₄.world.1).store
    rw [← evaluated] at moved
    rcases stage_bind_ends ran with ⟨e, failed, rfl⟩ | ⟨decision, g₅, answered, ran⟩
    · obtain ⟨phase, world⟩ := asked_error failed
      rw [world, (aloof.decide _ _ _).store]
      exact .late _ _ x trigger _ e came moved (.inr phase)
    have decided : g₅.world.1.store = g₄.world.1.store :=
      (asked_ok answered ▸ aloof.decide _ _ _ : Desk.Kept g₄.world.1 g₅.world.1).store
    rw [← decided] at moved
    cases ran
    exact .all _ _ x trigger _ came moved

/-- A tick ends in one of the four ways; the recovery adds nothing. -/
theorem tick_left (c : Cycle) {who : Collaborators (Desk × τ)} (aloof : who.Aloof)
    {w : Desk × τ} (alone : w.1.line = []) :
    Left c who w (c.tick Desk.environment.beside who w).1.error?
      (c.tick Desk.environment.beside who w).2.2.1.store := by
  rcases ran : (c.stages Desk.environment.beside who (c.stats.ticks + 1)).run ⟨w, .empty⟩
    with ⟨e | f, g⟩
  · have ended := c.stages_left aloof alone ran
    simp only [tick, ran]
    have recovered := (aloof.engageSafeMode (c.stats.ticks + 1) e g.world).store
    rw [← recovered] at ended
    exact ended
  · have ended := c.stages_left aloof alone ran
    simp only [tick, ran]
    exact ended

/-- What a tick leaves of the store hangs on the conditions alone. -/
theorem Left.store {c : Cycle} {who : Collaborators (Desk × τ)} {w : Desk × τ}
    {error : Option PhaseError} {s : Store} (h : Left c who w error s) :
    s = match c.conditions? who w with
      | none => w.1.store
      | some (k, supply) => (w.1.store.moved c.table c.config.versionPolicy k supply).2 := by
  cases h with
  | early e phase ended => rw [ended]
  | refused k supply e s came moved => simp only [came, moved]
  | late k supply x trigger s e came moved phase => simp only [came, moved]
  | all k supply x trigger s came moved => simp only [came, moved]

/-- Before the machine is moved nothing is touched. -/
theorem Left.of_early {c : Cycle} {who : Collaborators (Desk × τ)} {w : Desk × τ} {e : PhaseError}
    {s : Store} (h : Left c who w (some e) s)
    (phase : e.phase = .updateContext ∨ e.phase = .biosCheck) : s = w.1.store := by
  cases h with
  | early => rfl
  | refused => simp [PhaseError.phase] at phase
  | late _ _ _ _ _ _ _ _ later => rcases later with h | h <;> simp [h] at phase

/-- What fails as the machine is moved is the write. -/
theorem Left.of_refused {c : Cycle} {who : Collaborators (Desk × τ)} {w : Desk × τ}
    {e : PhaseError} {s : Store} (h : Left c who w (some e) s) (phase : e.phase = .fsm) :
    ∃ k supply e', e = .store e' ∧ c.conditions? who w = some (k, supply) ∧
      w.1.store.moved c.table c.config.versionPolicy k supply = (.error e', s) := by
  cases h with
  | early _ earlier => rcases earlier with h | h <;> simp [h] at phase
  | refused k supply e' _ came moved => exact ⟨k, supply, e', rfl, came, moved⟩
  | late _ _ _ _ _ _ _ _ later => rcases later with h | h <;> simp [h] at phase

/-- A tick that does not fail before the machine is moved has moved it. -/
theorem Left.of_late {c : Cycle} {who : Collaborators (Desk × τ)} {w : Desk × τ}
    {error : Option PhaseError} {s : Store} (h : Left c who w error s)
    (later : ∀ e, error = some e → e.phase = .evaluateProposals ∨ e.phase = .makeDecision) :
    ∃ k supply x trigger, c.conditions? who w = some (k, supply) ∧
      w.1.store.moved c.table c.config.versionPolicy k supply = (.ok (x, trigger), s) := by
  cases h with
  | early e earlier =>
    have phase := later e rfl
    rcases earlier with h | h <;> simp [h] at phase
  | refused _ _ e => simpa [PhaseError.phase] using later _ rfl
  | late k supply x trigger _ _ came moved => exact ⟨k, supply, x, trigger, came, moved⟩
  | all k supply x trigger _ came moved => exact ⟨k, supply, x, trigger, came, moved⟩

/-- The stage that a report names is the stage of its error. -/
theorem tick_phase (c : Cycle) (env : Environment (Desk × τ)) (who : Collaborators (Desk × τ))
    (w : Desk × τ) {f : TickFailure} (failed : (c.tick env who w).1 = .recovered f) :
    f.phase = f.error.phase := by
  unfold tick at failed
  rcases ran : (c.stages env who (c.stats.ticks + 1)).run ⟨w, .empty⟩ with ⟨e | r, g⟩
  · simp only [ran] at failed
    cases failed
    rfl
  · simp only [ran] at failed
    cases failed

end Cycle

namespace Store

/-- The snapshot that a step starts from is the current one, read and
counted, or that of a cold start. -/
theorem opened_store (s : Store) (supply : Supply) :
    (s.current.isSome = true ∧ (s.opened supply).2.1 = s.get.2) ∨
      (s.current = none ∧ (s.opened supply).2.1 = (s.get.2.begin supply.mark.1).store) := by
  unfold opened
  cases s.current with
  | some c => exact .inl ⟨rfl, rfl⟩
  | none => exact .inr ⟨rfl, rfl⟩

end Store

/-- What a tick leaves of a store that nobody else writes to, by the stage in
which it failed.  Before the machine is moved nothing is touched.  A refused
step leaves the store as it was read, or as the cold start made it, with at
most the refusal counted.  Any other tick leaves what reading, one step of the
table and its write make of the store, whatever comes after that. -/
theorem tick_leaves (c : Cycle) {who : Collaborators (Desk × τ)} (aloof : who.Aloof)
    {w : Desk × τ} (alone : w.1.line = []) :
    let s := w.1.store
    let outcome := (c.tick Desk.environment.beside who w).1
    let s' := (c.tick Desk.environment.beside who w).2.2.1.store
    (∀ f, outcome = .recovered f → f.phase = .updateContext ∨ f.phase = .biosCheck → s' = s) ∧
    (∀ f, outcome = .recovered f → f.phase = .fsm →
      ∃ e n s₁, f.error = .store e ∧ n ≤ 1 ∧ s' = s₁.rejecting n ∧
        (s.current.isSome = true ∧ s₁ = s.get.2 ∨
          s.current = none ∧ ∃ mark, s₁ = (s.get.2.begin mark).store)) ∧
    ((∀ f, outcome = .recovered f → f.phase = .evaluateProposals ∨ f.phase = .makeDecision) →
      ∃ k supply x trigger, c.conditions? who w = some (k, supply) ∧
        s.moved c.table c.config.versionPolicy k supply = (.ok (x, trigger), s')) ∧
    ∀ who' : Collaborators (Desk × τ), who'.Aloof → who'.updateContext = who.updateContext →
      who'.checkBios = who.checkBios →
      (c.tick Desk.environment.beside who' w).2.2.1.store = s' := by
  intro s outcome s'
  have ended : Cycle.Left c who w outcome.error? s' := c.tick_left aloof alone
  have failed : ∀ f, outcome = .recovered f →
      Cycle.Left c who w (some f.error) s' ∧ f.phase = f.error.phase := fun f found =>
    ⟨by rw [found] at ended; exact ended, c.tick_phase _ who w found⟩
  refine ⟨?_, ?_, ?_, ?_⟩
  · intro f found early
    obtain ⟨left, phase⟩ := failed f found
    exact left.of_early (phase ▸ early)
  · intro f found fsm
    obtain ⟨left, phase⟩ := failed f found
    obtain ⟨k, supply, e, error, -, moved⟩ := left.of_refused (phase ▸ fsm)
    obtain ⟨n, few, refused⟩ := Store.moved_of_error (congrArg Prod.fst moved)
    rw [moved] at refused
    refine ⟨e, n, _, error, few, refused, ?_⟩
    rcases s.opened_store supply with ⟨filled, read⟩ | ⟨empty, begun⟩
    · exact .inl ⟨filled, read⟩
    · exact .inr ⟨empty, _, begun⟩
  · intro late
    refine ended.of_late fun e error => ?_
    cases found : outcome with
    | completed r =>
      rw [found] at error
      cases error
    | recovered f =>
      rw [found] at error
      cases error
      exact (failed f found).2 ▸ late f found
  · intro who' aloof' context bios
    have same : c.conditions? who' w = c.conditions? who w := by
      unfold Cycle.conditions?
      rw [context, bios]
    rw [ended.store, (c.tick_left aloof' alone).store, same]

/-- Collaborators that find all in order, and answer as they are told when
they are asked for a decision. -/
def Collaborators.steady (decision : Except String Decision) : Collaborators (Desk × Unit) where
  updateContext _ w := (.ok ⟨[], []⟩, w)
  checkBios _ w := (.ok true, w)
  evaluate _ _ w := (.ok [], w)
  decide _ _ w := (decision, w)
  engageSafeMode _ _ w := (.error "no safe mode", w)

/-- Collaborators that find out nothing. -/
def Collaborators.blind : Collaborators (Desk × Unit) :=
  { steady (.ok .hold) with updateContext := fun _ w => (.error "no context", w) }

theorem Collaborators.steady_aloof (decision : Except String Decision) :
    (steady decision).Aloof :=
  ⟨fun _ _ => ⟨rfl, rfl⟩, fun _ _ => ⟨rfl, rfl⟩, fun _ _ _ => ⟨rfl, rfl⟩,
    fun _ _ _ => ⟨rfl, rfl⟩, fun _ _ _ => ⟨rfl, rfl⟩⟩

theorem Collaborators.blind_aloof : blind.Aloof :=
  ⟨fun _ _ => ⟨rfl, rfl⟩, fun _ _ => ⟨rfl, rfl⟩, fun _ _ _ => ⟨rfl, rfl⟩,
    fun _ _ _ => ⟨rfl, rfl⟩, fun _ _ _ => ⟨rfl, rfl⟩⟩

/-- The desk of a new store, and nothing beside it. -/
def Desk.lone (instanceId : String) : Desk × Unit :=
  (.fresh (.empty .standard instanceId ⟨1, .epoch⟩) (.numbered "s" fun _ => ⟨1, .epoch⟩), ())

/-- The first tick of a cycle at such a desk. -/
def Cycle.first (who : Collaborators (Desk × Unit)) (instanceId : String) :
    Outcome × Cycle × (Desk × Unit) :=
  Cycle.tick ⟨.standard, .standard, .zero⟩ Desk.environment.beside who (Desk.lone instanceId)

/-- An outcome with an error is a recovered one. -/
theorem Outcome.recovered_of_error? {outcome : Outcome} {e : PhaseError}
    (h : outcome.error? = some e) : ∃ f, outcome = .recovered f ∧ f.error = e := by
  cases outcome with
  | completed r => cases h
  | recovered f => exact ⟨f, rfl, Option.some.inj h⟩

/-- A first tick without a context leaves the store empty; one over a store
without a name begins it and is refused; one that ends without a decision
leaves what one with a decision does. -/
theorem tick_leaves_lone :
    (Cycle.first .blind "run").2.2.1.store = (Desk.lone "run").1.store ∧
    (∃ n mark, n ≤ 1 ∧ (Cycle.first (.steady (.ok .hold)) "").2.2.1.store =
      ((Desk.lone "").1.store.get.2.begin mark).store.rejecting n) ∧
    (Cycle.first (.steady (.error "no decision")) "run").2.2.1.store =
      (Cycle.first (.steady (.ok .hold)) "run").2.2.1.store := by
  let c : Cycle := ⟨.standard, .standard, .zero⟩
  refine ⟨?_, ?_, ?_⟩
  · obtain ⟨f, failed, error⟩ := Outcome.recovered_of_error?
      (show (Cycle.first .blind "run").1.error? =
        some (.collaborator .updateContext "no context") by decide +kernel)
    have phase := c.tick_phase _ _ _ failed
    rw [error] at phase
    exact (tick_leaves c Collaborators.blind_aloof (w := Desk.lone "run") rfl).1 f failed
      (.inl phase)
  · obtain ⟨f, failed, error⟩ := Outcome.recovered_of_error?
      (show (Cycle.first (.steady (.ok .hold)) "").1.error? =
        some (.store (.defective .noInstanceId)) by decide +kernel)
    have phase := c.tick_phase _ _ _ failed
    rw [error] at phase
    obtain ⟨-, n, s₁, -, few, left, ⟨filled, -⟩ | ⟨-, mark, begun⟩⟩ :=
      (tick_leaves c (Collaborators.steady_aloof _) (w := Desk.lone "") rfl).2.1 f failed phase
    · cases filled
    · exact ⟨n, mark, few, begun ▸ left⟩
  · exact (tick_leaves c (Collaborators.steady_aloof _) (w := Desk.lone "run") rfl).2.2.2 _
      (Collaborators.steady_aloof _) rfl rfl

end AgentState
