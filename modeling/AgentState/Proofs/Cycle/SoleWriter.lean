/-
AgentState.Proofs.Cycle.SoleWriter — a cycle that alone writes to a store.

Every tick that comes as far as its write takes one step of the table from
what it read, and the store commits it as it is: a refresh where the state
stays, the next version where it changes.  Others may act at any time, and
collaborators may answer and fail as they like, as long as they do not
write.

* `Collaborators.Bystanding` — collaborators that do not write.
* `Cycle.Wrote` — what a tick leaves that came as far as its write.
* `advance_steered`, `tick_steered`, `ticks_steered` — the invariant over
  the stage that moves the machine, over a tick and over ticks.
* `sole_writer` — the whole course of ticks.
-/
import AgentState.Proofs.Cycle.Scene
import AgentState.Proofs.Cycle.Tick
import AgentState.Proofs.Store.Early

namespace AgentState

/-- Collaborators that do not write to the store: whatever they answer, they
act on it like others. -/
def Collaborators.Bystanding (who : Collaborators Scene) : Prop := who.Within Scene.Aside

/-! ## Reading and writing -/

theorem Steered.aside {t : RuleTable} {instanceId : String} {n : Nat} {w w' : Scene}
    (h : Steered t instanceId n w.run) (aside : Scene.Aside w w') :
    Steered t instanceId n w'.run :=
  h.quiet aside.later aside.quiet.1.of_mute

namespace Scene

variable {t : RuleTable} {instanceId : String} {n : Nat} {w : Scene}

/-- A read finds what is current and changes nothing. -/
theorem get_aside (w : Scene) : w.get.1 = w.run.store.current ∧ Aside w w.get.2 := by
  have yielded := yield_aside w
  refine ⟨yielded.quiet.1.current, yielded.trans ⟨[.read], fun a mem => ?_, rfl⟩⟩
  rw [List.mem_singleton.1 mem]
  rfl

/-- A mark has an identifier, and changes nothing at the store. -/
theorem mark_aside (w : Scene) : w.mark.1.id ≠ "" ∧ Aside w w.mark.2 :=
  ⟨w.supply.idAt_ne _, .refl w⟩

/-- A cold start of an empty store. -/
theorem begin_steered (h : Steered t instanceId n w.run) (free : w.run.flight = none)
    (empty : w.run.store.current = none) :
    Steered t instanceId n w.begin.2.run ∧ w.begin.2.run.flight = none ∧
      w.begin.2.run.store.current = some w.begin.1 ∧
      (∃ mark, w.begin.1 = .coldStart mark instanceId) ∧ Run.Later w.run w.begin.2.run ∧
      Log.writes w.begin.2.run.log = Log.writes w.run.log := by
  have yielded := yield_aside w
  obtain ⟨quiet, flight⟩ := yielded.quiet
  have h := h.aside yielded
  have empty := quiet.current.trans empty
  have free := flight.trans free
  obtain ⟨steered, step⟩ :=
    h.coldStarted free empty w.yield.supply.mark.1 (w.yield.supply.idAt_ne _)
  have answer : w.begin.1 = .coldStart w.yield.supply.mark.1 instanceId := by
    simp only [begin, Store.coldStart, empty, h.own]
    rfl
  obtain ⟨later, told, done, -⟩ :=
    turn_all w.yield.supply.mark.2 (a := .begin w.yield.supply.mark.1) (congrArg Run.flight step)
  have current : (w.yield.run.step (.begin w.yield.supply.mark.1)).store.current =
      some w.begin.1 := by
    rw [step, answer]
    rfl
  refine ⟨steered.quiet later told, done, told.current.trans current, ⟨_, answer⟩,
    yielded.later.trans ((Run.Later.step _ _).trans later), ?_⟩
  -- neither the cold start nor anything around it is a write
  have idle : Log.writes w.yield.run.log = Log.writes w.run.log :=
    quiet.of_mute.writes
  have cold : Log.writes (w.yield.run.step (.begin w.yield.supply.mark.1)).log =
      Log.writes w.yield.run.log := by
    rw [step]
    rfl
  exact told.writes.trans (cold.trans idle)

/-- A step of the table from what is current, written while there is a next
version. -/
theorem set_steered (h : Steered t instanceId n w.run) (free : w.run.flight = none)
    {c : Snapshot} (current : w.run.store.current = some c) {mark : StepMark} {k : Conditions}
    (id : mark.id ≠ "") (sound : (t.step mark c k).1.defect? = none)
    (room : c.version.toNat + 1 < UInt64.size) (policy : VersionPolicy) :
    let x := (t.step mark c k).1
    let w' := (w.set policy x).2
    (w.set policy x).1 = .ok x ∧ Steered t instanceId (n + 1) w'.run ∧ w'.run.flight = none ∧
      w'.run.store.current = some x ∧ Run.Later w.run w'.run ∧
      ∃ after before, w'.run.log = after ++ .written policy x (.ofStep c x) :: before ∧
        Log.latest before = some c ∧ Log.writes before = Log.writes w.run.log ∧
        (∀ e ∈ after, e.isQuiet = true) ∧ (x.state = c.state → ∀ e ∈ after, e.isMute = true) := by
  intro x w'
  have yielded := yield_aside w
  obtain ⟨quiet, flight⟩ := yielded.quiet
  have h := h.aside yielded
  have current := quiet.current.trans current
  obtain ⟨steered, now, log, f, committed, snapshot, flight', nobody⟩ :=
    h.wrote (flight.trans free) current id sound room w.yield.supply.stamp.1 policy
  obtain ⟨later, told, done, untold⟩ := turn_all w.yield.supply.stamp.2 flight'
  have whole : w.set policy x = (.ok x, w.yield.turn w.yield.supply.stamp.2
      (.write w.yield.supply.stamp.1 policy x)) := by
    simp only [set, x, sound, committed, Except.map, snapshot]
  have after : w' = w.yield.turn w.yield.supply.stamp.2
      (.write w.yield.supply.stamp.1 policy x) := congrArg Prod.snd whole
  rw [after]
  refine ⟨congrArg Prod.fst whole, steered.quiet later told, done, told.current.trans now,
    yielded.later.trans ((Run.Later.step _ _).trans later), ?_⟩
  have idle : Log.writes w.yield.run.log = Log.writes w.run.log :=
    quiet.of_mute.writes
  have newest : Log.latest w.yield.run.log = some c := h.latest.trans current
  by_cases same : x.state = c.state
  · obtain ⟨more, split, mute⟩ := (untold (nobody same)).log
    exact ⟨more, _, split.trans (by rw [log]), newest, idle,
      fun e mem => Event.isQuiet_of_isMute (mute e mem), fun _ => mute⟩
  · obtain ⟨more, split, idle'⟩ := told.log
    exact ⟨more, _, split.trans (by rw [log]), newest, idle, idle', fun kept => absurd kept same⟩

end Scene

/-! ## The stage that moves the machine -/

namespace Cycle

variable {instanceId : String} {n : Nat} {w : Scene}

/-- What is read at the beginning of a step is current then; an empty store
is begun. -/
theorem read_steered {t : RuleTable} (h : Steered t instanceId n w.run)
    (free : w.run.flight = none) :
    let (c, w') := read Scene.environment w
    Steered t instanceId n w'.run ∧ w'.run.flight = none ∧ w'.run.store.current = some c ∧
      Run.Later w.run w'.run ∧ Log.writes w'.run.log = Log.writes w.run.log ∧
      (w.run.store.current = some c ∨
        w.run.store.current = none ∧ ∃ mark, c = .coldStart mark instanceId) := by
  obtain ⟨found, aside⟩ := Scene.get_aside w
  obtain ⟨quiet, flight⟩ := aside.quiet
  have idle : Log.writes w.get.2.run.log = Log.writes w.run.log :=
    quiet.of_mute.writes
  cases current : w.run.store.current with
  | some c =>
    have answer : Scene.environment.get w = (some c, w.get.2) :=
      Prod.ext (found.trans current) rfl
    simp only [read, answer]
    exact ⟨h.aside aside, flight.trans free, quiet.current.trans current, aside.later, idle,
      .inl trivial⟩
  | none =>
    have answer : Scene.environment.get w = (none, w.get.2) := Prod.ext (found.trans current) rfl
    obtain ⟨steered, free', now, cold, later, idle'⟩ :=
      Scene.begin_steered (h.aside aside) (flight.trans free) (quiet.current.trans current)
    simp only [read, answer]
    exact ⟨steered, free', now, aside.later.trans later, idle'.trans idle,
      .inr ⟨trivial, cold⟩⟩

/-- What a tick leaves that came as far as its write: it read `c`, which was
current or is the cold start of an empty store, took one step of the table
to `x`, and wrote it over `c`, once.  Where the state stays, this is a
refresh, and nobody is offered anything after it. -/
structure Wrote (t : RuleTable) (policy : VersionPolicy) (instanceId : String) (r r' : Run)
    (c x : Snapshot) : Prop where
  read : r.store.current = some c ∨
    r.store.current = none ∧ ∃ mark, c = .coldStart mark instanceId
  step : ∃ mark k, x = (t.step mark c k).1
  current : r'.store.current = some x
  once : Log.writes r'.log = Log.writes r.log + 1
  log : ∃ after before, r'.log = after ++ .written policy x (.ofStep c x) :: before ∧
    Log.latest before = some c ∧ (x.state = c.state → ∀ e ∈ after, e.isMute = true)

namespace Wrote

variable {t : RuleTable} {policy : VersionPolicy} {r r' : Run} {c x : Snapshot}

/-- Others may have acted before. -/
theorem before {r₀ : Run} (quiet : Run.Quiet Event.isMute r₀ r)
    (h : Wrote t policy instanceId r r' c x) : Wrote t policy instanceId r₀ r' c x where
  read := by
    rw [← quiet.current]
    exact h.read
  step := h.step
  current := h.current
  once := by
    rw [h.once, quiet.of_mute.writes]
  log := h.log

/-- Others may act afterwards. -/
theorem after {r'' : Run} (h : Wrote t policy instanceId r r' c x)
    (quiet : Run.Quiet Event.isMute r' r'') : Wrote t policy instanceId r r'' c x where
  read := h.read
  step := h.step
  current := quiet.current.trans h.current
  once := by
    rw [quiet.of_mute.writes, h.once]
  log := by
    obtain ⟨after, before, log, newest, mute⟩ := h.log
    obtain ⟨more, log', mute'⟩ := quiet.log
    refine ⟨more ++ after, before, by rw [log', log, List.append_assoc], newest, ?_⟩
    intro same e mem
    rcases List.mem_append.1 mem with mem | mem
    · exact mute' e mem
    · exact mute same e mem

/-- Where the state stays, the write is a refresh: it keeps all that tells of
changes, and nobody is offered anything after it. -/
theorem kept (h : Wrote t policy instanceId r r' c x) (same : x.state = c.state) :
    (x.version = c.version ∧ x.prevState = c.prevState ∧ x.attempts = c.attempts ∧
      x.history = c.history) ∧
    ∃ after before, r'.log = after ++ .written policy x (.refresh x) :: before ∧
      Log.latest before = some c ∧ ∀ id y receipt, Event.told id y receipt ∉ after := by
  obtain ⟨mark, k, rfl⟩ := h.step
  obtain ⟨version, prevState, attempts, history, -⟩ := t.step_kept mark c k same
  obtain ⟨after, before, log, newest, mute⟩ := h.log
  rw [Verdict.ofStep, if_pos same] at log
  refine ⟨⟨version, prevState, attempts, history⟩, after, before, log, newest, ?_⟩
  intro id y receipt mem
  cases mute same _ mem

end Wrote

/-- The stage that moves the machine does not fail, while there are
versions left. -/
theorem advance_steered (c : Cycle) (targets : ∀ rule ∈ c.table.rules, rule.target ≠ .unspecified)
    (named : instanceId ≠ "") (room : n + 1 < UInt64.size)
    (h : Steered c.table instanceId n w.run) (free : w.run.flight = none) (k : Conditions) :
    ∃ now x trigger w', c.advance Scene.environment k w = (.ok (x, trigger), w') ∧
      Steered c.table instanceId (n + 1) w'.run ∧ w'.run.flight = none ∧
      Run.Later w.run w'.run ∧
      Wrote c.table c.config.versionPolicy instanceId w.run w'.run now x := by
  have reading := read_steered h free
  rcases found : read Scene.environment w with ⟨now, w₁⟩
  rw [found] at reading
  obtain ⟨steered, free₁, current, later, idle, origin⟩ := reading
  obtain ⟨id, -⟩ := Scene.mark_aside w₁
  have summary := (steered.summarized targets named (by omega)).filled now
    (steered.latest.trans current)
  have sound := c.table.step_sound w₁.mark.1 now k targets summary.sound id
  have fits : now.version.toNat + 1 < UInt64.size := by
    have version := summary.version
    have few := summary.few
    have most := steered.few
    omega
  obtain ⟨answer, steered', free', current', later', after, before, log, newest, wrote, idle', mute⟩ :=
    Scene.set_steered (w := w₁.mark.2) steered free₁ current id sound fits
      c.config.versionPolicy
  refine ⟨now, (c.table.step w₁.mark.1 now k).1, (c.table.step w₁.mark.1 now k).2, _, ?_, steered',
    free', later.trans later', ?_⟩
  · simp only [advance, found]
    refine Prod.ext ?_ rfl
    show ((w₁.mark.2.set c.config.versionPolicy (c.table.step w₁.mark.1 now k).1).1.map
      fun s => (s, (c.table.step w₁.mark.1 now k).2)).mapError PhaseError.store = _
    rw [answer]
    rfl
  · refine ⟨origin, ⟨_, _, rfl⟩, current', ?_, after, before, log, newest, mute⟩
    rw [log, Log.writes_of_quiet idle']
    exact congrArg (· + 1) (wrote.trans idle)

/-! ## Ticks -/

/-- What a tick did at the store, by how it ended: nothing if it ended
before the machine moved, and one write otherwise. -/
inductive Ticked (t : RuleTable) (policy : VersionPolicy) (instanceId : String) (r r' : Run) :
    Outcome → Prop where
  | early (f : TickFailure) (phase : f.phase = .updateContext ∨ f.phase = .biosCheck)
      (same : Log.commits r'.log = Log.commits r.log) : Ticked t policy instanceId r r' (.recovered f)
  | late (f : TickFailure) (c x : Snapshot)
      (phase : f.phase = .evaluateProposals ∨ f.phase = .makeDecision)
      (wrote : Wrote t policy instanceId r r' c x) : Ticked t policy instanceId r r' (.recovered f)
  | completed (report : TickReport) (c : Snapshot)
      (wrote : Wrote t policy instanceId r r' c report.snapshot) :
      Ticked t policy instanceId r r' (.completed report)

theorem Ticked.phase {t : RuleTable} {policy : VersionPolicy} {r r' : Run} {f : TickFailure}
    (h : Ticked t policy instanceId r r' (.recovered f)) : f.phase ≠ .fsm := by
  cases h with
  | early _ phase | late _ _ _ phase => rcases phase with phase | phase <;> rw [phase] <;> decide

/-- A tick leaves the store in order, whatever the collaborators answer, and
the machine does not fail in it. -/
theorem tick_steered (c : Cycle) (targets : ∀ rule ∈ c.table.rules, rule.target ≠ .unspecified)
    (named : instanceId ≠ "") (room : n + 1 < UInt64.size)
    (h : Steered c.table instanceId n w.run) (free : w.run.flight = none)
    {who : Collaborators Scene} (bystanding : who.Bystanding) {outcome : Outcome} {c' : Cycle}
    {w' : Scene} (ran : c.tick Scene.environment who w = (outcome, c', w')) :
    c'.table = c.table ∧ c'.config = c.config ∧ Steered c.table instanceId (n + 1) w'.run ∧
      w'.run.flight = none ∧ Run.Later w.run w'.run ∧
      Ticked c.table c.config.versionPolicy instanceId w.run w'.run outcome := by
  obtain ⟨table, config, ends⟩ := c.tick_ends (T := Scene.Aside) Scene.Aside.trans
    Scene.environment Scene.sleep_aside bystanding w
  rw [ran] at table config ends
  refine ⟨table, config, ?_⟩
  -- the machine moved: what was before it and what came after it was aside
  have moved : ∀ {k r w₁ w₂}, Scene.Aside w w₁ → c.advance Scene.environment k w₁ = (r, w₂) →
      Scene.Aside w₂ w' → ∃ now x trigger, r = .ok (x, trigger) ∧
        Steered c.table instanceId (n + 1) w'.run ∧ w'.run.flight = none ∧
        Run.Later w.run w'.run ∧
        Wrote c.table c.config.versionPolicy instanceId w.run w'.run now x := by
    intro k r w₁ w₂ before advanced after
    obtain ⟨now, x, trigger, w₂', advanced', steered, free', later, wrote⟩ :=
      advance_steered c targets named room (h.aside before) (before.quiet.2.trans free) k
    rw [advanced] at advanced'
    obtain ⟨rfl, rfl⟩ := Prod.mk.inj advanced'
    exact ⟨now, x, trigger, rfl, steered.aside after, after.quiet.2.trans free',
      before.later.trans (later.trans after.later),
      (wrote.before before.quiet.1).after after.quiet.1⟩
  cases ends with
  | early f _ phase aside =>
    obtain ⟨quiet, flight⟩ := aside.quiet
    have few : Log.writes w'.run.log ≤ n + 1 := Nat.le_succ_of_le (h.aside aside).few
    refine ⟨{ h.aside aside with few }, flight.trans free, aside.later, .early f phase ?_⟩
    obtain ⟨more, log, mute⟩ := quiet.log
    rw [log, Log.commits_of_quiet fun e mem => Event.isQuiet_of_isMute (mute e mem)]
  | rejected k f w₁ w₂ _ before advanced after =>
    obtain ⟨now, x, trigger, impossible, -⟩ := moved before advanced after
    cases impossible
  | late k x trigger f w₁ w₂ _ before advanced phase after =>
    obtain ⟨now, x', trigger', same, steered, free', later, wrote⟩ := moved before advanced after
    cases same
    exact ⟨steered, free', later, .late f now x phase wrote⟩
  | completed k report w₁ w₂ _ before advanced after =>
    obtain ⟨now, x', trigger', same, steered, free', later, wrote⟩ := moved before advanced after
    cases same
    exact ⟨steered, free', later, .completed report now wrote⟩

/-- Ticks leave the store in order, and the machine fails in none of them. -/
theorem ticks_steered (named : instanceId ≠ "") :
    ∀ {whos : List (Collaborators Scene)} {c : Cycle} {w : Scene} {n : Nat}
      {outcomes : List Outcome} {c' : Cycle} {w' : Scene},
      (∀ rule ∈ c.table.rules, rule.target ≠ .unspecified) →
      Steered c.table instanceId n w.run → w.run.flight = none →
      (∀ who ∈ whos, who.Bystanding) → n + whos.length < UInt64.size →
      ticks Scene.environment whos c w = (outcomes, c', w') →
      c'.table = c.table ∧ c'.config = c.config ∧
        Steered c.table instanceId (n + whos.length) w'.run ∧ w'.run.flight = none ∧
        Run.Later w.run w'.run ∧ ∀ f, Outcome.recovered f ∈ outcomes → f.phase ≠ .fsm
  | [], c, w, n, _, _, _, _, h, free, _, _, ran => by
      cases ran
      exact ⟨rfl, rfl, h, free, .refl _, fun _ mem => by cases mem⟩
  | who :: rest, c, w, n, _, _, _, targets, h, free, bystanding, room, ran => by
      rw [List.length_cons] at room
      rcases first : c.tick Scene.environment who w with ⟨outcome, c₁, w₁⟩
      rcases others : ticks Scene.environment rest c₁ w₁ with ⟨outcomes, c', w'⟩
      simp only [ticks, first, others] at ran
      cases ran
      obtain ⟨table, config, steered, free₁, later, ticked⟩ :=
        tick_steered c targets named (by omega) h free (bystanding who List.mem_cons_self) first
      rw [← table] at targets steered
      obtain ⟨table', config', steered', free', later', phases⟩ := ticks_steered named targets
        steered free₁ (fun who mem => bystanding who (List.mem_cons_of_mem _ mem)) (by omega) others
      rw [table, show n + 1 + rest.length = n + (rest.length + 1) by omega] at steered'
      refine ⟨table'.trans table, config'.trans config, steered', free', later.trans later', ?_⟩
      intro f mem
      rcases List.mem_cons.1 mem with rfl | mem
      · exact ticked.phase
      · exact phases f mem

end Cycle

/-! ## The whole course -/

/-- The whole course of a cycle that alone writes to a new store: whatever
the collaborators answer, in whatever stage they fail, and whatever others do
at the store, before the first tick and whenever the cycle waits.

The machine fails in no tick, and no conflict and no rejection is counted.
At every moment the version of the current snapshot and the length of its
history are the number of changes of state so far.  A tick either ends
before the machine moves, and commits nothing, or writes one step of the
table over what it read; where the state stays, this is a refresh that keeps
all that tells of changes, and nobody is offered it.  A subscriber that
registered before the first tick, is still registered and let no offer time
out was put one snapshot for each version up to the current one, in the
states that the history tells of. -/
theorem sole_writer (c : Cycle) (targets : ∀ rule ∈ c.table.rules, rule.target ≠ .unspecified)
    (config : StoreConfig) (instanceId : String) (named : instanceId ≠ "") (started : Stamp)
    (before : List Act) (asides : ∀ a ∈ before, a.isAside = true) (supply : Supply) (now : Nat)
    (pauses : List Pause) (whos : List (Collaborators Scene))
    (bystanding : ∀ who ∈ whos, who.Bystanding) (few : whos.length < UInt64.size) :
    let w₀ : Scene := ⟨(Run.start config instanceId started).after before, supply, now, pauses⟩
    let course := Cycle.ticks Scene.environment whos c w₀
    let r := course.2.2.run
    (∀ f, Outcome.recovered f ∈ course.1 → f.phase ≠ .fsm) ∧
    r.store.counters.versionConflicts = 0 ∧ r.store.counters.rejectedSets = 0 ∧
    Log.latest r.log = r.store.current ∧
    (∀ later past s, r.log = later ++ past → Log.latest past = some s →
      s.version.toNat = Log.changes past ∧ s.history.length = Log.changes past) ∧
    (∀ first who rest, whos = first ++ who :: rest →
      let (_, c₁, w₁) := Cycle.ticks Scene.environment first c w₀
      let (outcome, _, w₂) := c₁.tick Scene.environment who w₁
      Cycle.Ticked c.table c.config.versionPolicy instanceId w₁.run w₂.run outcome ∧
      ∀ x y, Cycle.Wrote c.table c.config.versionPolicy instanceId w₁.run w₂.run x y →
        y.state = x.state →
          (y.version = x.version ∧ y.prevState = x.prevState ∧ y.attempts = x.attempts ∧
            y.history = x.history) ∧
          ∃ after before, w₂.run.log =
              after ++ .written c.config.versionPolicy y (.refresh y) :: before ∧
            Log.latest before = some x ∧ ∀ id z receipt, Event.told id z receipt ∉ after) ∧
    ∀ id, w₀.run.store.isRegistered id = true → r.store.isRegistered id = true →
      (∀ o ∈ Log.offers id r.log, o.2 ≠ .full) →
      (r.store.current = none → Log.fed id r.log = []) ∧
      ∀ s, r.store.current = some s →
        (Log.fed id r.log).map (fun x => x.version.toNat) = List.range (s.version.toNat + 1) ∧
        (Log.fed id r.log).map Snapshot.state =
          .booting :: s.history.transitions.map Transition.target := by
  intro w₀ course r
  have aside : Scene.Aside ⟨Run.start config instanceId started, supply, now, pauses⟩ w₀ :=
    ⟨before, asides, rfl⟩
  have begun : Steered c.table instanceId 0 w₀.run :=
    (Steered.start c.table config instanceId started).aside aside
  have free₀ : w₀.run.flight = none := aside.quiet.2
  have ran : Cycle.ticks Scene.environment whos c w₀ = (course.1, course.2.1, course.2.2) := rfl
  obtain ⟨-, -, steered, free, later, phases⟩ :=
    Cycle.ticks_steered named targets begun free₀ bystanding (by omega) ran
  refine ⟨phases, steered.conflicts, steered.rejected, steered.latest, ?_, ?_, ?_⟩
  · intro more past s split current
    have summary := (steered.summarized_at targets named (by omega) split).filled s current
    exact ⟨summary.version, summary.length⟩
  · intro first who rest split
    have room : first.length + 1 ≤ whos.length := by
      rw [split, List.length_append, List.length_cons]
      omega
    rcases ran₁ : Cycle.ticks Scene.environment first c w₀ with ⟨outcomes₁, c₁, w₁⟩
    dsimp only
    rcases ran₂ : c₁.tick Scene.environment who w₁ with ⟨outcome, c₂, w₂⟩
    have bystanders : ∀ other ∈ first, other.Bystanding := fun other mem =>
      bystanding other (by rw [split]; exact List.mem_append_left _ mem)
    obtain ⟨table, config₁, steered₁, free₁, -, -⟩ :=
      Cycle.ticks_steered named targets begun free₀ bystanders (by omega) ran₁
    have last : who.Bystanding :=
      bystanding who (by rw [split]; exact List.mem_append_right _ List.mem_cons_self)
    rw [← table] at targets steered₁
    obtain ⟨-, -, -, -, -, ticked⟩ :=
      Cycle.tick_steered c₁ targets named (by omega) steered₁ free₁ last ran₂
    rw [table, config₁] at ticked
    exact ⟨ticked, fun x y wrote same => wrote.kept same⟩
  · intro id early registered prompt
    rw [Store.isRegistered_eq, List.contains_iff_mem] at early registered
    have there := Run.Early.of_registered config instanceId started asides early
    exact steered.fed_of_early targets named (by omega) free (there.later later) registered prompt

/-- A supply whose identifiers are runs of one letter. -/
def Supply.unary : Supply where
  idAt n := String.ofList (List.replicate (n + 1) 'i')
  readingAt _ := ⟨1, .epoch⟩
  idAt_inj := by
    intro m n h
    have lengths := congrArg (fun s => s.toList.length) h
    simpa using lengths
  idAt_ne := by
    intro n h
    have lengths := congrArg (fun s => s.toList.length) h
    simp at lengths
  ids := 0
  readings := 0

/-- Collaborators that find all in order, and cannot decide in the end. -/
def undecided : Collaborators Scene where
  updateContext _ w := (.ok ⟨[], []⟩, w)
  checkBios _ w := (.ok true, w)
  evaluate _ _ w := (.ok [], w)
  decide _ _ w := (.error "no decision", w)
  engageSafeMode _ _ w := (.ok (), w)

/-- Collaborators that find out nothing. -/
def unaware : Collaborators Scene :=
  { undecided with updateContext := fun _ w => (.error "no context", w) }

theorem undecided_bystanding : undecided.Bystanding :=
  ⟨fun _ w => .refl w, fun _ w => .refl w, fun _ _ w => .refl w, fun _ _ w => .refl w,
    fun _ _ w => .refl w⟩

theorem unaware_bystanding : unaware.Bystanding :=
  ⟨fun _ w => .refl w, fun _ w => .refl w, fun _ _ w => .refl w, fun _ _ w => .refl w,
    fun _ _ w => .refl w⟩

/-- A new store with a subscriber. -/
def watched : Scene :=
  ⟨(Run.start .standard "run" ⟨1, .epoch⟩).after [.subscribe "watcher" 4], .unary, 0, []⟩

/-- Three ticks: one that fails early, the boot, and one without a change of
state, both of them failing late. -/
def watchedCourse : List Outcome × Cycle × Scene :=
  Cycle.ticks Scene.environment [unaware, undecided, undecided] ⟨.standard, .standard, .zero⟩ watched

/-- The machine failed in none of the three ticks, and the subscriber was put
two snapshots. -/
theorem sole_writer_watched :
    (∀ f, Outcome.recovered f ∈ watchedCourse.1 → f.phase ≠ .fsm) ∧
      watchedCourse.2.2.run.store.counters.versionConflicts = 0 ∧
      ∃ s, watchedCourse.2.2.run.store.current = some s ∧ s.version = 1 ∧
        (Log.fed ⟨1⟩ watchedCourse.2.2.run.log).map (fun x => x.version.toNat) =
          List.range (s.version.toNat + 1) := by
  have bystanding : ∀ who ∈ [unaware, undecided, undecided], who.Bystanding := by
    intro who mem
    simp only [List.mem_cons, List.not_mem_nil, or_false] at mem
    rcases mem with rfl | rfl | rfl
    · exact unaware_bystanding
    · exact undecided_bystanding
    · exact undecided_bystanding
  obtain ⟨phases, conflicts, -, -, -, -, fed⟩ := sole_writer ⟨.standard, .standard, .zero⟩
    (by decide) .standard "run" (by decide) ⟨1, .epoch⟩ [.subscribe "watcher" 4] (by decide)
    .unary 0 [] [unaware, undecided, undecided] bystanding (by decide)
  have version : watchedCourse.2.2.run.store.current.map Snapshot.version = some 1 := by
    decide +kernel
  obtain ⟨s, current, one⟩ := Option.map_eq_some_iff.1 version
  exact ⟨phases, conflicts, s, current, one,
    ((fed ⟨1⟩ (by decide +kernel) (by decide +kernel) (by decide +kernel)).2 s current).1⟩

end AgentState
