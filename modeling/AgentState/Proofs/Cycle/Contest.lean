/-
AgentState.Proofs.Cycle.Contest — a store to which others write as well, as a
cycle sees it.

Reading and writing are separate calls, and between any two calls of a cycle
other writers may come to the store, any number of them, with whole writes or
with one that is still told of its commit as the cycle comes.  The cycle's own
write then waits until the gate is free.

* `Contest` — a scene with what others do before the next calls.
* `Contest.environment` — the way to the store and to the clocks;
  `environment_nobody` — without other writers it is the scene's.
* `Contest.reading` — the moment at which a step reads what it starts from.
* `Contest.gate` — the moment at which a call has the gate; `begin_holds`,
  `set_holds` — what it answers is current for as long as it has it.
* `tick_overtaken` — a step that is overtaken by a publication.
-/
import AgentState.Proofs.Cycle.Race

namespace AgentState

/-- A scene, and what anybody does at the store before the next times that its
writer comes to it. -/
structure Contest where
  scene : Scene
  others : List (List Act)

namespace Contest

/-- Others come first. -/
def meet (w : Contest) : Contest :=
  match w.others with
  | [] => w
  | acts :: rest => ⟨{ w.scene with run := w.scene.run.after acts }, rest⟩

/-- Others come first, and the write of theirs that holds the gate ends. -/
def await (w : Contest) : Contest := { w.meet with scene := w.meet.scene.finish }

/-- The current snapshot. -/
def get (w : Contest) : Option Snapshot × Contest :=
  let w := w.meet
  (w.scene.get.1, { w with scene := w.scene.get.2 })

/-- The current snapshot, after a cold start if there is none when the gate is
free. -/
def begin (w : Contest) : Snapshot × Contest :=
  let w := w.await
  (w.scene.begin.1, { w with scene := w.scene.begin.2 })

/-- Writes a candidate.  A defective one is refused at once; any other waits
for the gate. -/
def set (policy : VersionPolicy) (candidate : Snapshot) (w : Contest) :
    Except StoreError Snapshot × Contest :=
  match candidate.defect? with
  | some d => (.error (.defective d), w)
  | none =>
      let w := w.await
      ((w.scene.set policy candidate).1, { w with scene := (w.scene.set policy candidate).2 })

/-- A mark for a new snapshot. -/
def mark (w : Contest) : StepMark × Contest := (w.scene.mark.1, { w with scene := w.scene.mark.2 })

/-- Lets time pass. -/
def sleep (ms : Nat) (w : Contest) : Contest := { w.meet with scene := w.meet.scene.sleep ms }

/-- The store among other writers. -/
def environment : Environment Contest where
  get := get
  begin := begin
  set := set
  mark := mark
  clock w := w.scene.now
  sleep := sleep

/-! ## Without other writers -/

/-- A contest in which nobody else writes. -/
structure Lone (w : Contest) (v : Scene) : Prop where
  scene : w.scene = v
  others : w.others = []
  free : v.run.flight = none

theorem meet_of_nobody {w : Contest} (nobody : w.others = []) : w.meet = w := by
  simp [meet, nobody]

theorem await_of_lone {w : Contest} {v : Scene} (h : Lone w v) : w.await = w := by
  have idle : w.scene.finish = w.scene := by simp only [Scene.finish, h.scene, h.free]
  rw [await, meet_of_nobody h.others, idle]

/-- Without other writers every call is answered as in the scene, and leaves
the contest that the scene stands for. -/
theorem environment_nobody {w : Contest} {v : Scene} (h : Lone w v) :
    ((environment.get w).1 = (Scene.environment.get v).1 ∧
      Lone (environment.get w).2 (Scene.environment.get v).2) ∧
    ((environment.begin w).1 = (Scene.environment.begin v).1 ∧
      Lone (environment.begin w).2 (Scene.environment.begin v).2) ∧
    (∀ policy candidate,
      (environment.set policy candidate w).1 = (Scene.environment.set policy candidate v).1 ∧
        Lone (environment.set policy candidate w).2
          (Scene.environment.set policy candidate v).2) ∧
    ((environment.mark w).1 = (Scene.environment.mark v).1 ∧
      Lone (environment.mark w).2 (Scene.environment.mark v).2) ∧
    ∀ ms, Lone (environment.sleep ms w) (Scene.environment.sleep ms v) := by
  have waits := await_of_lone h
  have meets := meet_of_nobody h.others
  obtain ⟨rfl, others, free⟩ := h
  refine ⟨?_, ?_, ?_, ?_, ?_⟩
  · simp only [environment, get, meets]
    exact ⟨rfl, rfl, others, (Scene.get_aside w.scene).2.quiet.2.trans free⟩
  · simp only [environment, begin, waits]
    exact ⟨rfl, rfl, others, (Scene.turn_ends _ _ _).2.2⟩
  · intro policy candidate
    simp only [environment, set, Scene.environment, Scene.set, waits]
    cases sound : candidate.defect? with
    | some d => exact ⟨rfl, rfl, others, free⟩
    | none => exact ⟨rfl, rfl, others, (Scene.turn_ends _ _ _).2.2⟩
  · exact ⟨rfl, rfl, others, free⟩
  · intro ms
    simp only [environment, sleep, meets]
    exact ⟨rfl, others, (Scene.sleep_aside ms w.scene).quiet.2.trans free⟩

/-! ## With other writers -/

theorem meet_later (w : Contest) : Run.Later w.scene.run w.meet.scene.run := by
  unfold meet
  split
  · exact .refl _
  · next acts _ _ => exact ⟨acts, rfl⟩

/-- Whoever waits finds the gate free. -/
theorem await_ends (w : Contest) :
    Run.Later w.scene.run w.await.scene.run ∧ w.await.scene.run.flight = none := by
  obtain ⟨later, -, free⟩ := w.meet.scene.finish_ends
  exact ⟨w.meet_later.trans later, free⟩

/-- The moment at which a step reads.  If the store was empty as it came, that
is when it begins the store, or finds it begun, behind the gate. -/
def reading (w : Contest) : Run :=
  match w.meet.scene.yield.run.store.current with
  | some _ => w.meet.scene.yield.run
  | none =>
      let late := w.get.2.await.scene.yield
      late.run.step (.begin late.supply.mark.1)

/-- What a step reads is current at the moment at which it reads. -/
theorem read_reading (w : Contest) :
    w.reading.store.current = some (Cycle.read environment w).1 ∧
      Run.Later w.scene.run w.reading ∧
      Run.Later w.reading (Cycle.read environment w).2.scene.run := by
  have yielded := Scene.yield_aside w.meet.scene
  have found : w.get.1 = w.meet.scene.yield.run.store.current := rfl
  cases current : w.meet.scene.yield.run.store.current with
  | some c =>
    have answer : environment.get w = (some c, w.get.2) := Prod.ext (found.trans current) rfl
    simp only [reading, current, Cycle.read, answer]
    exact ⟨trivial, w.meet_later.trans yielded.later, .step _ .read⟩
  | none =>
    have answer : environment.get w = (none, w.get.2) := Prod.ext (found.trans current) rfl
    simp only [reading, current, Cycle.read, answer]
    obtain ⟨later, free⟩ := w.get.2.await_ends
    have yielded' := Scene.yield_aside w.get.2.await.scene
    have free := yielded'.quiet.2.trans free
    obtain ⟨ended, -, -⟩ := Scene.turn_ends w.get.2.await.scene.yield
      w.get.2.await.scene.yield.supply.mark.2 (.begin w.get.2.await.scene.yield.supply.mark.1)
    have before : Run.Later w.scene.run w.get.2.scene.run :=
      w.meet_later.trans (yielded.later.trans (.step _ .read))
    refine ⟨?_, before.trans (later.trans (yielded'.later.trans (.step _ _))), ended⟩
    show (Run.step _ _).store.current = some (Store.coldStart _ _).1.snapshot
    simp only [Run.step, free, Store.coldStart]
    cases begun : w.get.2.await.scene.yield.run.store.current with
    | some c => exact begun
    | none => rfl

/-! ## The gate -/

/-- The scene in which somebody who waits finds the gate free. -/
def gate (w : Contest) : Scene := w.await.scene.yield

theorem gate_free (w : Contest) :
    Run.Later w.scene.run w.gate.run ∧ w.gate.run.flight = none := by
  obtain ⟨later, free⟩ := w.await_ends
  have yielded := Scene.yield_aside w.await.scene
  exact ⟨later.trans yielded.later, yielded.quiet.2.trans free⟩

/-- What a cold start answers is current from the time when it has the gate to
the time when it gives it back, and nobody else has a turn in between. -/
theorem begin_holds (w : Contest) :
    let entered := w.gate.run.step (.begin w.gate.supply.mark.1)
    entered.store.current = some w.begin.1 ∧
      Run.Quiet Event.isQuiet entered w.begin.2.scene.run := by
  refine ⟨?_, (Scene.turn_ends w.gate w.gate.supply.mark.2 _).2.1⟩
  show (w.gate.run.step _).store.current =
    some (w.gate.run.store.coldStart w.gate.supply.mark.1).1.snapshot
  simp only [Run.step, w.gate_free.2, Store.coldStart]
  cases begun : w.gate.run.store.current with
  | some c => exact begun
  | none => rfl

/-- A cold start of a store that is begun answers what is current, and leaves
the store to the others. -/
theorem begin_of_begun {w : Contest} {c : Snapshot}
    (begun : w.gate.run.store.current = some c) :
    w.begin.1 = c ∧
      (w.gate.run.step (.begin w.gate.supply.mark.1)).store = w.gate.run.store ∧
      ∃ acts, (∀ a ∈ acts, a.isAside = true) ∧
        w.begin.2.scene.run.store =
          ((w.gate.run.step (.begin w.gate.supply.mark.1)).after acts).store := by
  have step : w.gate.run.step (.begin w.gate.supply.mark.1) =
      ⟨w.gate.run.store, some ⟨c, [], []⟩, .begun c false :: w.gate.run.log⟩ := by
    simp only [Run.step, w.gate_free.2, Store.coldStart, begun]
    rfl
  have answer : w.begin.1 = (w.gate.run.store.coldStart w.gate.supply.mark.1).1.snapshot := rfl
  refine ⟨by rw [answer]; simp [Store.coldStart, begun], by rw [step], ?_⟩
  -- the turn goes on with a pause and the accounting, which changes nothing
  let v : Scene := { w.gate with
    run := w.gate.run.step (.begin w.gate.supply.mark.1), supply := w.gate.supply.mark.2 }
  have whole : w.begin.2.scene = v.yield.act .settle := by
    show v.finish = _
    have flight : v.run.flight = some ⟨c, [], []⟩ := congrArg Run.flight step
    simp only [Scene.finish, flight]
    rfl
  obtain ⟨acts, asides, run⟩ := Scene.yield_aside v
  obtain ⟨-, flight⟩ := (Scene.yield_aside v).quiet
  have flight : v.yield.run.flight = some ⟨c, [], []⟩ := flight.trans (congrArg Run.flight step)
  refine ⟨acts, asides, ?_⟩
  rw [whole, ← run]
  simp only [Scene.act, Run.step, flight, FanOut.pending, List.drop_nil, if_true]
  exact Store.settle_untold _ c

/-- What a write answers that is not refused is committed and current from the
time when it has the gate to the time when it gives it back. -/
theorem set_holds {w : Contest} {policy : VersionPolicy} {x y : Snapshot}
    (answered : (w.set policy x).1 = .ok y) :
    let entered := w.gate.run.step (.write w.gate.supply.stamp.1 policy x)
    entered.store.current = some y ∧
      Log.commits entered.log = Log.commits w.gate.run.log ++ [y] ∧
      Run.Quiet Event.isQuiet entered (w.set policy x).2.scene.run := by
  cases sound : x.defect? with
  | some d => simp [set, sound] at answered
  | none =>
    intro entered
    have answer : (w.set policy x).1 =
        (w.gate.run.store.commit w.gate.supply.stamp.1 policy x).1.map FanOut.snapshot := by
      simp only [set, Scene.set, sound]
      rfl
    have quiet : Run.Quiet Event.isQuiet entered (w.set policy x).2.scene.run := by
      simp only [set, Scene.set, sound]
      exact (Scene.turn_ends w.gate w.gate.supply.stamp.2 _).2.1
    rw [answer] at answered
    refine ⟨?_, ?_, quiet⟩ <;> simp only [entered, Run.step, w.gate_free.2]
    · revert answered
      simp only [Store.commit]
      cases judge w.gate.run.store.current policy x <;> simp [Except.map]
    · revert answered
      simp only [Store.commit]
      cases judge w.gate.run.store.current policy x with
      | refuse why => simp [Except.map]
      | refresh z =>
        rintro ⟨⟩
        exact Log.commits_cons rfl _
      | publish z repaired =>
        rintro ⟨⟩
        exact Log.commits_cons rfl _

end Contest

/-! ## A step that is overtaken -/

/-- What a table computes from a snapshot with an instance identifier is fit to
be stored, if it is not the unspecified state. -/
theorem RuleTable.sound_step (t : RuleTable) {mark : StepMark} {c : Snapshot} {k : Conditions}
    (marked : mark.id ≠ "") (named : c.instanceId ≠ "")
    (stated : (t.next c.state k).1 ≠ .unspecified) : (t.step mark c k).1.defect? = none := by
  show Snapshot.defect? (c.derive mark.toMark _ _ _) = none
  simp [Snapshot.defect?, Snapshot.derive, marked, named, stated]

namespace Contest

/-- What is current when a writer has its turn, if something was published
since it read. -/
theorem overtaken {config : StoreConfig} {instanceId : String} {started : Stamp} {acts : List Act}
    {r r' : Run} {events : Log} {c : Snapshot}
    (reached : r = (Run.start config instanceId started).after acts) (later : Run.Later r r')
    (current : r.store.current = some c) (between : r'.log = events ++ r.log)
    (published : ∃ e ∈ events, e.published?.isSome = true)
    (own : ((Log.commits r'.log).map Snapshot.id).Nodup) :
    ∃ now, r'.store.current = some now ∧ c.version < now.version ∧ now.id ≠ c.id := by
  have ordered : Run.Ordered r := by
    rw [reached]
    exact Run.ordered_after config instanceId started acts
  have ordered' : Run.Ordered r' := by
    obtain ⟨more, rfl⟩ := later
    rw [reached, ← Run.after_append]
    exact Run.ordered_after config instanceId started (acts ++ more)
  have stored : c ∈ Log.commits r.log := List.mem_of_getLast? (ordered.latest.trans current)
  obtain ⟨now, current', newer⟩ := ordered'.newer_of_published between stored published
  refine ⟨now, current', newer, fun same => ?_⟩
  have stored' : c ∈ Log.commits r'.log := by
    obtain ⟨more, commits⟩ := Log.commits_append events r.log
    rw [between, commits]
    exact List.mem_append_left _ stored
  have one : now = c :=
    List.inj_on_of_nodup_map own (List.mem_of_getLast? (ordered'.latest.trans current')) stored' same
  rw [one] at newer
  exact UInt64.lt_irrefl _ newer

end Contest

/-- A tick between whose read and whose write something is published.

When it has its turn, a newer snapshot `now` is current than the one that it
read.  Under the strict policy, and when `now` has the last version, its write
is refused as a conflict with `now`, which stays current; the tick ends as
recovered, in the stage that moves the machine, and does nothing else at the
store.  Otherwise the lenient policy commits what was computed from the
snapshot that was read, under the version after that of `now`, and counts one
conflict; the tick goes on with it and does not fail in that stage. -/
theorem tick_overtaken (config : StoreConfig) (instanceId : String) (started : Stamp)
    (acts : List Act) (c : Cycle) {who : Collaborators Contest} {w w₁ w₂ w₃ : Contest}
    {context : Context} {biosOk : Bool} {read : Snapshot} {events : Log}
    (updated : who.updateContext (c.stats.ticks + 1) w = (.ok context, w₁))
    (checked : who.checkBios context w₁ = (.ok biosOk, w₂))
    (reached : w₂.scene.run = (Run.start config instanceId started).after acts)
    (reads : Cycle.read Contest.environment w₂ = (read, w₃))
    (between : w₃.mark.2.await.scene.run.log = events ++ w₂.reading.log)
    (published : ∃ e ∈ events, e.published?.isSome = true)
    (own : ((Log.commits w₃.mark.2.await.scene.run.log).map Snapshot.id).Nodup)
    (named : read.instanceId ≠ "")
    (stated : (c.table.next read.state ⟨biosOk, context.hasProposals⟩).1 ≠ .unspecified) :
    let turn := w₃.mark.2.await.scene
    let x := (c.table.step w₃.mark.1 read ⟨biosOk, context.hasProposals⟩).1
    let answer := c.table.next read.state ⟨biosOk, context.hasProposals⟩
    let left := (w₃.mark.2.set c.config.versionPolicy x).2
    let tick := c.tick Contest.environment who w
    ∃ now, turn.run.store.current = some now ∧ read.version < now.version ∧
      (c.config.versionPolicy = .strict ∨ now.version.toNat + 1 = UInt64.size →
        left.scene.run.store = turn.yield.run.store.rejecting 1 ∧
        left.scene.run.store.current = some now ∧
        ∃ f, tick.1 = .recovered f ∧ f.phase = .fsm ∧
          f.error = .store (.versionConflict x.version now.version) ∧
          tick.2.2 = Contest.environment.sleep (waitOf c.config.recoveryDelayMs.toNat)
            (who.engageSafeMode (c.stats.ticks + 1) f.error left).2) ∧
      (c.config.versionPolicy = .repair → now.version.toNat + 1 < UInt64.size →
        let y := x.withVersion (now.version + 1)
        c.advance Contest.environment ⟨biosOk, context.hasProposals⟩ w₂ =
          (.ok (y, answer.2), left) ∧
        y.state = answer.1 ∧ y.reason = answer.2.label ∧
        left.scene.run.store.current = some y ∧
        Log.commits left.scene.run.log = Log.commits turn.run.log ++ [y] ∧
        left.scene.run.store.counters.versionConflicts =
          turn.run.store.counters.versionConflicts + 1 ∧
        ((∃ r, tick.1 = .completed r ∧ r.snapshot = y ∧ r.trigger = answer.2) ∨
          ∃ f, tick.1 = .recovered f ∧
            (f.phase = .evaluateProposals ∨ f.phase = .makeDecision))) := by
  intro turn x answer left tick
  obtain ⟨current, before, after⟩ := w₂.read_reading
  obtain ⟨waited, free⟩ := w₃.mark.2.await_ends
  rw [reads] at current after
  obtain ⟨more, reading⟩ := before
  rw [reached, ← Run.after_append] at reading
  obtain ⟨now, current', newer, other⟩ :=
    Contest.overtaken reading (after.trans waited) current between published own
  have sound : x.defect? = none :=
    c.table.sound_step (w₃.scene.supply.idAt_ne _) named stated
  have judged := judge_overtaken (successor_of_step c.table w₃.mark.1 read _) sound newer other
    c.config.versionPolicy
  rw [← current'] at judged
  have whole : w₃.mark.2.set c.config.versionPolicy x =
      ((turn.set c.config.versionPolicy x).1,
        { w₃.mark.2.await with scene := (turn.set c.config.versionPolicy x).2 }) := by
    simp only [Contest.set, sound, turn]
  have scene : left.scene = (turn.set c.config.versionPolicy x).2 :=
    congrArg (fun w => w.2.scene) whole
  have advanced : c.advance Contest.environment ⟨biosOk, context.hasProposals⟩ w₂ =
      (((turn.set c.config.versionPolicy x).1.map fun s => (s, answer.2)).mapError PhaseError.store,
        left) := by
    rw [← congrArg Prod.fst whole]
    simp only [Cycle.advance, reads]
    rfl
  obtain ⟨fails, goes⟩ := c.tick_of_checked Contest.environment updated checked
  refine ⟨now, current', newer, fun final => ?_, fun lenient room => ?_⟩
  · have refused : judge turn.run.store.current c.config.versionPolicy x =
        .refuse (.versionConflict x.version now.version) := by
      refine judged.trans (if_neg ?_)
      rintro ⟨lenient, room⟩
      rcases final with strict | last
      · rw [lenient] at strict
        cases strict
      · omega
    obtain ⟨answered, raced⟩ := Scene.Raced.of_set free sound refused (.inr ⟨_, _, rfl⟩)
    rw [answered] at advanced
    obtain ⟨f, ended, error, phase, world⟩ := fails _ _ advanced
    refine ⟨scene ▸ Scene.set_of_conflict free sound refused, ?_, f, ended, phase, error,
      error ▸ world⟩
    rw [scene]
    exact raced.current.trans current'
  · have repaired : judge turn.run.store.current c.config.versionPolicy x =
        .publish (x.withVersion (now.version + 1)) true := judged.trans (if_pos ⟨lenient, room⟩)
    obtain ⟨answered, raced⟩ := Scene.Raced.of_set free sound repaired (.inl ⟨_, _, rfl⟩)
    rw [answered] at advanced
    refine ⟨advanced, rfl, rfl, ?_, ?_, ?_, goes _ _ _ advanced⟩
    · rw [scene]
      exact raced.current
    · rw [scene]
      exact raced.commits
    · rw [scene]
      exact raced.conflicts

/-- Collaborators that find all in order and keep the present actuation. -/
def agreeable : Collaborators Contest where
  updateContext _ w := (.ok ⟨[], []⟩, w)
  checkBios _ w := (.ok true, w)
  evaluate _ _ w := (.ok [], w)
  decide _ _ w := (.ok .hold, w)
  engageSafeMode _ _ w := (.ok (), w)

/-- An empty store.  Another writer comes to it between the cold start of a
tick and its write. -/
def contested : Contest :=
  ⟨⟨Run.start .standard "run" ⟨1, .epoch⟩, .unary, 0, []⟩,
    [[], [], [.write ⟨1, .epoch⟩ .strict movedFact]]⟩

/-- A first cycle with a policy. -/
def Cycle.under (policy : VersionPolicy) : Cycle :=
  ⟨.standard, { CycleConfig.standard with versionPolicy := policy }, .zero⟩

/-- The cold start of the tick. -/
def coldFact : Snapshot := .coldStart ⟨"i", ⟨1, .epoch⟩⟩ "run"

/-- What happens between the read and the write of the tick. -/
def contestedEvents : Log :=
  [.settled ⟨movedFact, [], []⟩, .written .strict movedFact (.publish movedFact false),
    .settled ⟨coldFact, [], []⟩]

/-- The tick started from the cold start, and finds its version taken. -/
theorem tick_overtaken_contested :
    (∃ f, ((Cycle.under .strict).tick Contest.environment agreeable contested).1 = .recovered f ∧
      f.phase = .fsm ∧ f.error = .store (.versionConflict 1 1)) ∧
    ((∃ r, ((Cycle.under .repair).tick Contest.environment agreeable contested).1 =
      .completed r ∧ r.snapshot.version = 2 ∧ r.trigger = .bootComplete) ∨
      ∃ f, ((Cycle.under .repair).tick Contest.environment agreeable contested).1 =
        .recovered f ∧ (f.phase = .evaluateProposals ∨ f.phase = .makeDecision)) := by
  have updated : ∀ policy, agreeable.updateContext ((Cycle.under policy).stats.ticks + 1) contested =
      (.ok ⟨[], []⟩, contested) := fun _ => rfl
  have reads : Cycle.read Contest.environment contested =
      (coldFact, (Cycle.read Contest.environment contested).2) := rfl
  have between : (Cycle.read Contest.environment contested).2.mark.2.await.scene.run.log =
      contestedEvents ++ contested.reading.log := rfl
  have published : ∃ e ∈ contestedEvents, e.published?.isSome = true :=
    ⟨_, List.mem_cons_of_mem _ List.mem_cons_self, rfl⟩
  have own : ((Log.commits (Cycle.read Contest.environment contested).2.mark.2.await.scene.run.log).map
      Snapshot.id).Nodup := by decide
  have current : (Cycle.read Contest.environment contested).2.mark.2.await.scene.run.store.current =
      some movedFact := by decide
  constructor
  · obtain ⟨now, current', -, refused, -⟩ := tick_overtaken .standard "run" ⟨1, .epoch⟩ []
      (.under .strict) (updated .strict) rfl rfl reads between published own (by decide) (by decide)
    cases current.symm.trans current'
    obtain ⟨-, -, f, ended, phase, error, -⟩ := refused (.inl rfl)
    exact ⟨f, ended, phase, error⟩
  · obtain ⟨now, current', -, -, repaired⟩ := tick_overtaken .standard "run" ⟨1, .epoch⟩ []
      (.under .repair) (updated .repair) rfl rfl reads between published own (by decide) (by decide)
    cases current.symm.trans current'
    obtain ⟨-, -, -, -, -, -, ends⟩ := repaired rfl (by decide)
    refine ends.imp_left ?_
    rintro ⟨r, ended, snapshot, trigger⟩
    exact ⟨r, ended, by rw [snapshot]; rfl, trigger⟩

end AgentState
