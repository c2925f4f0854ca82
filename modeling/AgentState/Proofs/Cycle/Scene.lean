/-
AgentState.Proofs.Cycle.Scene — a store in the midst of others, as a cycle
sees it.

Whenever its only writer waits — for the gate, for an offer to be answered,
for a pause to be over — readers, subscribers and receivers act.  A scene
says beforehand what they do the next time, so that every interleaving of
them with the ticks of a cycle is one of a scene.

* `Pause` — what others do while the writer waits.
* `Scene` — a run of a store with the pauses to come.
* `Scene.environment` — the way to the store and to the clocks.
* `Scene.Alone` — a scene without others and the desk that it stands for;
  `environment_alone` — both answer alike and leave the same store.
* `Scene.Aside` — between two moments only others acted.
-/
import AgentState.Cycle.Environment
import AgentState.Proofs.Store.Quiet
import AgentState.Proofs.Store.Whole

namespace AgentState

/-- How long the writer waits, and what others do in the meantime. -/
structure Pause where
  elapsed : Nat
  acts : List Act
  aside : ∀ a ∈ acts, a.isAside = true

/-- A store with what happened so far, the clocks, and what others will do
the next times that the writer waits.  Times are milliseconds. -/
structure Scene where
  run : Run
  supply : Supply
  now : Nat
  pauses : List Pause

/-- A commit has told nobody yet. -/
theorem Store.commit_fresh {s : Store} {now : Stamp} {policy : VersionPolicy}
    {candidate : Snapshot} {f : FanOut} (committed : (s.commit now policy candidate).1 = .ok f) :
    f.receipts = [] := by
  unfold commit at committed
  cases judged : judge s.current policy candidate with
  | refuse why => simp [judged] at committed
  | refresh x =>
    simp only [judged, Except.ok.injEq] at committed
    rw [← committed]
  | publish x repaired =>
    simp only [judged, Except.ok.injEq] at committed
    rw [← committed]
    exact announce_receipts s x

namespace Scene

/-- Waits, and lets others act. -/
def yield (w : Scene) : Scene :=
  match w.pauses with
  | [] => w
  | p :: rest => { w with run := w.run.after p.acts, now := w.now + p.elapsed, pauses := rest }

/-- One act of the writer. -/
def act (w : Scene) (a : Act) : Scene := { w with run := w.run.step a }

/-- So many offers and the accounting; others act before each of them. -/
def deliver : Nat → Scene → Scene
  | 0, w => w.yield.act .settle
  | n + 1, w => deliver n (w.yield.act .tell)

/-- Brings the fan-out under way to its end. -/
def finish (w : Scene) : Scene :=
  match w.run.flight with
  | some f => deliver f.pending.length w
  | none => w

/-- A writer's turn: an act, and the fan-out that begins with it. -/
def turn (w : Scene) (supply : Supply) (a : Act) : Scene := ({ w with supply }.act a).finish

/-- The current snapshot. -/
def get (w : Scene) : Option Snapshot × Scene :=
  let w := w.yield
  (w.run.store.current, w.act .read)

/-- The current snapshot, after a cold start if there is none. -/
def begin (w : Scene) : Snapshot × Scene :=
  let w := w.yield
  let (mark, supply) := w.supply.mark
  ((w.run.store.coldStart mark).1.snapshot, w.turn supply (.begin mark))

/-- Writes a candidate.  A defective one is refused at once. -/
def set (policy : VersionPolicy) (candidate : Snapshot) (w : Scene) :
    Except StoreError Snapshot × Scene :=
  match candidate.defect? with
  | some d => (.error (.defective d), w)
  | none =>
      let w := w.yield
      let (now, supply) := w.supply.stamp
      ((w.run.store.commit now policy candidate).1.map FanOut.snapshot,
        w.turn supply (.write now policy candidate))

/-- A mark for a new snapshot. -/
def mark (w : Scene) : StepMark × Scene :=
  let (m, supply) := w.supply.stepMark
  (m, { w with supply })

/-- Lets time pass. -/
def sleep (ms : Nat) (w : Scene) : Scene := { w.yield with now := w.yield.now + ms }

/-- The store in the midst of others. -/
def environment : Environment Scene where
  get := get
  begin := begin
  set := set
  mark := mark
  clock := now
  sleep := sleep

/-! ## Without others -/

/-- A scene without others, and the same store and supply behind a desk
without writers in line. -/
structure Alone (w : Scene) (d : Desk) : Prop where
  store : d.store = w.run.store
  supply : d.supply = w.supply
  line : d.line = []
  free : w.run.flight = none
  pauses : w.pauses = []

theorem yield_of_nobody {w : Scene} (nobody : w.pauses = []) : w.yield = w := by
  simp [yield, nobody]

/-- Without others a fan-out is told like any that nobody disturbs. -/
theorem deliver_of_nobody : ∀ (n : Nat) {w : Scene}, w.pauses = [] →
    deliver n w = { w with run := w.run.after (Run.telling n) }
  | 0, w, nobody => by
      rw [deliver, yield_of_nobody nobody]
      rfl
  | n + 1, w, nobody => by
      rw [deliver, yield_of_nobody nobody, deliver_of_nobody n (w := w.act .tell) nobody]
      rfl

/-- Without others a turn ends as the store's own fan-out does. -/
theorem turn_of_nobody {w : Scene} (supply : Supply) {a : Act} {s : Store} {f : FanOut} {log : Log}
    (nobody : w.pauses = []) (step : w.run.step a = ⟨s, some f, log⟩) (fresh : f.receipts = []) :
    (w.turn supply a).run.store = (s.spread f).store ∧ (w.turn supply a).run.flight = none ∧
      (w.turn supply a).supply = supply ∧ (w.turn supply a).pauses = [] := by
  have pending : f.pending.length = f.targets.length := by
    rw [FanOut.pending_of_receipts_nil fresh]
  have whole : w.turn supply a = { w with
      run := (w.run.step a).after (Run.telling f.targets.length), supply } := by
    simp only [turn, act, finish, step, pending]
    exact deliver_of_nobody _ nobody
  obtain ⟨-, store, free⟩ := Run.spread_eq_run s f log fresh
  rw [whole, step]
  exact ⟨store, free, rfl, nobody⟩

/-- A read without others is the desk's. -/
theorem get_alone {w : Scene} {d : Desk} (h : Alone w d) :
    w.get.1 = d.get.1 ∧ Alone w.get.2 d.get.2 := by
  obtain ⟨store, supply, line, free, pauses⟩ := h
  simp only [get, yield_of_nobody pauses, Desk.get, Desk.catchUp, line, Desk.serveLine]
  exact ⟨by rw [store]; rfl, by rw [store]; rfl, supply, rfl, free, pauses⟩

/-- A cold start without others is the desk's. -/
theorem begin_alone {w : Scene} {d : Desk} (h : Alone w d) :
    w.begin.1 = d.begin.1 ∧ Alone w.begin.2 d.begin.2 := by
  obtain ⟨store, supply, line, free, pauses⟩ := h
  have mark : d.supply.mark = w.supply.mark := by rw [supply]
  have fresh : (w.run.store.coldStart w.supply.mark.1).1.receipts = [] := by
    unfold Store.coldStart
    split <;> rfl
  have step : w.run.step (.begin w.supply.mark.1) =
      ⟨(w.run.store.coldStart w.supply.mark.1).2, some (w.run.store.coldStart w.supply.mark.1).1,
        .begun (w.run.store.coldStart w.supply.mark.1).1.snapshot w.run.store.current.isNone ::
          w.run.log⟩ := by
    simp only [Run.step, free]
  obtain ⟨store', free', supply', pauses'⟩ := turn_of_nobody w.supply.mark.2 pauses step fresh
  have answer : (d.store.begin w.supply.mark.1).result =
      (w.run.store.coldStart w.supply.mark.1).1.snapshot := by
    rw [store]
    exact (Run.spread_eq_run _ _ w.run.log fresh).1
  simp only [begin, yield_of_nobody pauses, Desk.begin, Desk.finishLine, line, Desk.serveLine,
    Desk.leave, mark]
  refine ⟨answer.symm, ?_, supply'.symm, rfl, free', pauses'⟩
  rw [store', store]
  rfl

/-- A write without others is the desk's. -/
theorem set_alone {w : Scene} {d : Desk} (h : Alone w d) (policy : VersionPolicy)
    (candidate : Snapshot) :
    (w.set policy candidate).1 = (d.set policy candidate).1 ∧
      Alone (w.set policy candidate).2 (d.set policy candidate).2 := by
  cases sound : candidate.defect? with
  | some e =>
    simp only [set, Desk.set, sound, true_and]
    exact h
  | none =>
    obtain ⟨store, supply, line, free, pauses⟩ := h
    have stamp : d.supply.stamp = w.supply.stamp := by rw [supply]
    have answer := Store.set_result d.store w.supply.stamp.1 policy candidate
    simp only [set, yield_of_nobody pauses, Desk.set, sound, Desk.finishLine, line,
      Desk.serveLine, Desk.leave, stamp]
    rw [store] at answer ⊢
    refine ⟨answer.symm, ?_⟩
    have step : w.run.step (.write w.supply.stamp.1 policy candidate) =
        ⟨(w.run.store.commit w.supply.stamp.1 policy candidate).2,
          (w.run.store.commit w.supply.stamp.1 policy candidate).1.toOption,
          .written policy candidate (judge w.run.store.current policy candidate) ::
            w.run.log⟩ := by
      simp only [Run.step, free]
    cases committed : w.run.store.commit w.supply.stamp.1 policy candidate with
    | mk result s =>
      rw [committed] at step
      cases result with
      | error e =>
        have whole : w.turn w.supply.stamp.2 (.write w.supply.stamp.1 policy candidate) =
            { w with
              supply := w.supply.stamp.2
              run := w.run.step (.write w.supply.stamp.1 policy candidate) } := by
          simp only [turn, act, finish, step, Except.toOption]
        rw [whole, step]
        refine ⟨?_, rfl, rfl, rfl, pauses⟩
        simp [Store.set, committed]
      | ok f =>
        have fresh := Store.commit_fresh (congrArg Prod.fst committed)
        obtain ⟨store', free', supply', pauses'⟩ :=
          turn_of_nobody w.supply.stamp.2 pauses step fresh
        refine ⟨?_, supply'.symm, rfl, free', pauses'⟩
        rw [store']
        simp [Store.set, committed]

/-- Marks and sleep without others are the desk's. -/
theorem mark_alone {w : Scene} {d : Desk} (h : Alone w d) :
    w.mark.1 = d.mark.1 ∧ Alone w.mark.2 d.mark.2 := by
  obtain ⟨store, supply, line, free, pauses⟩ := h
  simp only [mark, Desk.mark, supply, true_and]
  exact ⟨store, rfl, line, free, pauses⟩

theorem sleep_alone {w : Scene} {d : Desk} (h : Alone w d) (ms : Nat) :
    Alone (w.sleep ms) (d.sleep ms) := by
  obtain ⟨store, supply, line, free, pauses⟩ := h
  simp only [sleep, yield_of_nobody pauses]
  exact ⟨store, supply, line, free, pauses⟩

/-- Without others the way to a store is the desk's: every call is answered
alike, and leaves a scene without others and the desk that it stands for. -/
theorem environment_alone {w : Scene} {d : Desk} (h : Alone w d) :
    ((environment.get w).1 = (Desk.environment.get d).1 ∧
      Alone (environment.get w).2 (Desk.environment.get d).2) ∧
    ((environment.begin w).1 = (Desk.environment.begin d).1 ∧
      Alone (environment.begin w).2 (Desk.environment.begin d).2) ∧
    (∀ policy candidate,
      (environment.set policy candidate w).1 = (Desk.environment.set policy candidate d).1 ∧
        Alone (environment.set policy candidate w).2
          (Desk.environment.set policy candidate d).2) ∧
    ((environment.mark w).1 = (Desk.environment.mark d).1 ∧
      Alone (environment.mark w).2 (Desk.environment.mark d).2) ∧
    ∀ ms, Alone (environment.sleep ms w) (Desk.environment.sleep ms d) :=
  ⟨get_alone h, begin_alone h, set_alone h, mark_alone h, sleep_alone h⟩

/-! ## With others -/

/-- Between two moments only others acted. -/
def Aside (w w' : Scene) : Prop :=
  ∃ acts, (∀ a ∈ acts, a.isAside = true) ∧ w'.run = w.run.after acts

namespace Aside

variable {w w' w'' : Scene}

theorem refl (w : Scene) : Aside w w := ⟨[], fun _ mem => (by cases mem), rfl⟩

theorem trans (h : Aside w w') (h' : Aside w' w'') : Aside w w'' := by
  obtain ⟨acts, asides, run⟩ := h
  obtain ⟨more, asides', run'⟩ := h'
  refine ⟨acts ++ more, fun a mem => ?_, by rw [run', run, Run.after_append]⟩
  rcases List.mem_append.1 mem with mem | mem
  · exact asides a mem
  · exact asides' a mem

theorem later (h : Aside w w') : Run.Later w.run w'.run := by
  obtain ⟨acts, -, run⟩ := h
  exact ⟨acts, run⟩

/-- Others have no writer's turn, tell nobody and leave a fan-out alone. -/
theorem quiet (h : Aside w w') :
    Run.Quiet Event.isMute w.run w'.run ∧ w'.run.flight = w.run.flight := by
  obtain ⟨acts, asides, run⟩ := h
  rw [run]
  exact Run.quiet_asides acts w.run asides

end Aside

theorem yield_aside (w : Scene) : Aside w w.yield := by
  unfold yield
  split
  · exact .refl w
  · next p _ _ => exact ⟨p.acts, p.aside, rfl⟩

theorem sleep_aside (ms : Nat) (w : Scene) : Aside w (w.sleep ms) := yield_aside w

/-- A fan-out that nobody has to be told of is over after the accounting,
and nobody was told. -/
theorem deliver_nobody {w : Scene} {f : FanOut} (flight : w.run.flight = some f)
    (done : f.pending = []) :
    Run.Later w.run (deliver 0 w).run ∧ Run.Quiet Event.isMute w.run (deliver 0 w).run ∧
      (deliver 0 w).run.flight = none := by
  obtain ⟨quiet, same⟩ := (yield_aside w).quiet
  refine ⟨(yield_aside w).later.trans (.step w.yield.run .settle), quiet.trans (Run.quiet_settle _), ?_⟩
  simp [deliver, act, Run.step, same, flight, done]

/-- A fan-out is over after one offer for everybody and the accounting. -/
theorem deliver_all : ∀ (n : Nat) {w : Scene} {f : FanOut}, w.run.flight = some f →
    f.pending.length = n →
      Run.Later w.run (deliver n w).run ∧ Run.Quiet Event.isQuiet w.run (deliver n w).run ∧
        (deliver n w).run.flight = none
  | 0, w, f, flight, count => by
      obtain ⟨later, quiet, free⟩ := deliver_nobody flight (List.length_eq_zero_iff.1 count)
      exact ⟨later, quiet.of_mute, free⟩
  | n + 1, w, f, flight, count => by
      obtain ⟨quiet, same⟩ := (yield_aside w).quiet
      cases pending : f.pending with
      | nil => simp [pending] at count
      | cons id rest =>
        have told : (w.yield.act .tell).run.flight =
            some (f.note id (w.yield.run.store.offer id f.snapshot).1) := by
          simp [act, Run.step, same, flight, pending]
        have left : (f.note id (w.yield.run.store.offer id f.snapshot).1).pending.length = n := by
          rw [FanOut.pending_note pending]
          simpa [pending] using count
        obtain ⟨later, quiet', free⟩ := deliver_all n told left
        refine ⟨(yield_aside w).later.trans ((Run.Later.step w.yield.run .tell).trans later), ?_, free⟩
        exact quiet.of_mute.trans
          ((Run.quiet_tell _).trans quiet')

/-- A turn brings its fan-out to an end, and nobody is told of one without
subscribers to tell. -/
theorem turn_all {w : Scene} (supply : Supply) {a : Act} {f : FanOut}
    (flight : (w.run.step a).flight = some f) :
    Run.Later (w.run.step a) (w.turn supply a).run ∧
      Run.Quiet Event.isQuiet (w.run.step a) (w.turn supply a).run ∧
      (w.turn supply a).run.flight = none ∧
      (f.pending = [] → Run.Quiet Event.isMute (w.run.step a) (w.turn supply a).run) := by
  have whole : w.turn supply a =
      deliver f.pending.length { w with run := w.run.step a, supply } := by
    simp only [turn, act, finish, flight]
  obtain ⟨later, quiet, free⟩ :=
    deliver_all _ (w := { w with run := w.run.step a, supply }) flight rfl
  rw [whole]
  refine ⟨later, quiet, free, fun done => ?_⟩
  rw [done]
  exact (deliver_nobody (w := { w with run := w.run.step a, supply }) flight done).2.1

/-- Behind a fan-out that is brought to its end the gate is free, and where
there was none nothing happens. -/
theorem finish_ends (w : Scene) :
    Run.Later w.run w.finish.run ∧ Run.Quiet Event.isQuiet w.run w.finish.run ∧
      w.finish.run.flight = none := by
  cases flight : w.run.flight with
  | some f =>
    have whole : w.finish = deliver f.pending.length w := by simp only [finish, flight]
    rw [whole]
    exact deliver_all _ flight rfl
  | none =>
    have whole : w.finish = w := by simp only [finish, flight]
    rw [whole]
    exact ⟨.refl _, .refl _ _, flight⟩

/-- A turn is over when it ends, whether it began a fan-out or not. -/
theorem turn_ends (w : Scene) (supply : Supply) (a : Act) :
    Run.Later (w.run.step a) (w.turn supply a).run ∧
      Run.Quiet Event.isQuiet (w.run.step a) (w.turn supply a).run ∧
      (w.turn supply a).run.flight = none :=
  finish_ends ({ w with supply }.act a)

end Scene

end AgentState
