/-
AgentState.Proofs.Cycle.Race — writers that all started from the same
snapshot.

Each of them derived a change of state from the snapshot that is current, so
all candidates have the same version and no two of them can be committed as
they are.  Whoever comes first is.  Behind it the strict policy refuses all
others; the lenient one gives each of them the next version while there is
one.

* `Rival` — a candidate that changes the state of a snapshot.
* `judge_rival`, `judge_rival_behind` — the verdicts on it: over that
  snapshot, and over what a rival left.
* `Scene.Raced` — what some writes leave, one after the other, with others
  between them; `Raced.of_set` — one write.
* `raced_behind_strict`, `raced_behind_repair` — the rivals that come late;
  `race_strict`, `race_repair` — all of them.
* `rivals_race` — the race over every run.
-/
import AgentState.Proofs.Cycle.SoleWriter
import AgentState.Proofs.Cycle.Undisturbed
import AgentState.Proofs.Store.Known

namespace AgentState

/-! ## Rivals -/

/-- A successor of `c` in another state, with an identifier of its own. -/
structure Rival (c x : Snapshot) : Prop where
  succ : Successor c x
  moved : x.state ≠ c.state
  stated : x.state ≠ .unspecified
  named : x.id ≠ ""
  own : x.id ≠ c.id

namespace Rival

variable {c x : Snapshot}

theorem instanceId (h : Rival c x) : x.instanceId = c.instanceId := by
  obtain ⟨mark, next, reason, step, rfl⟩ := h.succ
  rfl

theorem sound (h : Rival c x) (named : c.instanceId ≠ "") : x.defect? = none := by
  rw [← h.instanceId] at named
  simp [Snapshot.defect?, h.stated, h.named, named]

/-- All rivals have the version after that of the snapshot. -/
theorem version (h : Rival c x) (room : c.version.toNat + 1 < UInt64.size) :
    x.version = c.version + 1 := by
  rw [h.succ.version_of_changed h.moved, bumpVersion_of_room room]

end Rival

/-- The first rival is published as it is. -/
theorem judge_rival {c x : Snapshot} (h : Rival c x) (named : c.instanceId ≠ "")
    (room : c.version.toNat + 1 < UInt64.size) (policy : VersionPolicy) :
    judge (some c) policy x = .publish x false := by
  have noRefresh : x.refreshes c = false := by
    rw [Bool.eq_false_iff]
    exact fun same => h.moved ((refreshes_iff x c).1 same).2.1
  have newer : c.version < x.version := by
    rw [h.version room]
    exact lt_next room
  simp [judge, h.sound named, noRefresh, newer]

/-- A rival that comes behind another one is stale. -/
theorem judge_rival_behind {c x current : Snapshot} (h : Rival c x) (named : c.instanceId ≠ "")
    (room : c.version.toNat + 1 < UInt64.size) (other : current.id ≠ c.id)
    (ahead : c.version < current.version) (policy : VersionPolicy) :
    judge (some current) policy x =
      if policy = .repair ∧ current.version.toNat + 1 < UInt64.size then
        .publish (x.withVersion (current.version + 1)) true
      else .refuse (.versionConflict (c.version + 1) current.version) := by
  rw [judge_overtaken h.succ (h.sound named) ahead other, h.version room]

/-! ## What writes leave -/

namespace Verdict

/-- The conflicts that are counted. -/
def conflicts : Verdict → Nat
  | .refuse (.versionConflict _ _) | .publish _ true => 1
  | _ => 0

end Verdict

/-- The snapshots among some answers. -/
def committed (answers : List (Except StoreError Snapshot)) : List Snapshot :=
  answers.filterMap Except.toOption

/-- The moment after a verdict that publishes or finds a conflict. -/
theorem Run.step_of_verdict {r : Run} {policy : VersionPolicy} {x : Snapshot} {v : Verdict}
    (free : r.flight = none) (judged : judge r.store.current policy x = v)
    (kind : (∃ y repaired, v = .publish y repaired) ∨ ∃ a b, v = .refuse (.versionConflict a b))
    (now : Stamp) :
    let r' := r.step (.write now policy x)
    r'.store.current = (committed [v.answer]).getLast?.or r.store.current ∧
      r'.store.counters.versionConflicts = r.store.counters.versionConflicts + v.conflicts ∧
      r'.store.counters.rejectedSets + (committed [v.answer]).length =
        r.store.counters.rejectedSets + 1 ∧
      r'.log = .written policy x v :: r.log := by
  rcases kind with ⟨y, repaired, rfl⟩ | ⟨a, b, rfl⟩
  · cases repaired <;>
      simp [Run.step, free, Store.commit, judged, Store.install, Store.tally, Verdict.conflicts,
        Verdict.answer, committed, Except.toOption]
  · simp [Run.step, free, Store.commit, judged, Store.tally, Verdict.conflicts, Verdict.answer,
      committed, Except.toOption]

namespace Scene

/-- What writes leave, one after the other, none of which is a refresh and
none of which is refused for a defect: their answers, and so many
conflicts. -/
structure Raced (conflicts : Nat) (answers : List (Except StoreError Snapshot)) (w w' : Scene) :
    Prop where
  free : w'.run.flight = none
  later : Run.Later w.run w'.run
  current : w'.run.store.current = (committed answers).getLast?.or w.run.store.current
  conflicts : w'.run.store.counters.versionConflicts =
    w.run.store.counters.versionConflicts + conflicts
  rejected : w'.run.store.counters.rejectedSets + (committed answers).length =
    w.run.store.counters.rejectedSets + answers.length
  published : Log.published w'.run.log = Log.published w.run.log ++ committed answers
  commits : Log.commits w'.run.log = Log.commits w.run.log ++ committed answers

namespace Raced

variable {m n : Nat} {as bs : List (Except StoreError Snapshot)} {w w' w'' : Scene}

theorem refl (free : w.run.flight = none) : Raced 0 [] w w :=
  ⟨free, .refl _, rfl, rfl, rfl, (List.append_nil _).symm, (List.append_nil _).symm⟩

theorem trans (h : Raced m as w w') (h' : Raced n bs w' w'') : Raced (m + n) (as ++ bs) w w'' where
  free := h'.free
  later := h.later.trans h'.later
  current := by
    rw [h'.current, h.current, committed, committed, committed, List.filterMap_append,
      List.getLast?_append, Option.or_assoc]
  conflicts := by rw [h'.conflicts, h.conflicts, Nat.add_assoc]
  rejected := by
    have first := h.rejected
    have second := h'.rejected
    simp only [committed, List.filterMap_append, List.length_append] at first second ⊢
    omega
  published := by
    rw [h'.published, h.published, committed, committed, committed, List.filterMap_append,
      List.append_assoc]
  commits := by
    rw [h'.commits, h.commits, committed, committed, committed, List.filterMap_append,
      List.append_assoc]

/-- One write, which is published or in conflict. -/
theorem of_set {policy : VersionPolicy} {x : Snapshot} {v : Verdict} (free : w.run.flight = none)
    (sound : x.defect? = none) (judged : judge w.run.store.current policy x = v)
    (kind : (∃ y repaired, v = .publish y repaired) ∨ ∃ a b, v = .refuse (.versionConflict a b)) :
    (w.set policy x).1 = v.answer ∧ Raced v.conflicts [v.answer] w (w.set policy x).2 := by
  have yielded := yield_aside w
  obtain ⟨quiet, flight⟩ := yielded.quiet
  have free := flight.trans free
  have judged : judge w.yield.run.store.current policy x = v := by rw [quiet.current, judged]
  -- the moment at which the candidate is judged
  obtain ⟨current, conflicts, rejected, log⟩ :=
    Run.step_of_verdict free judged kind w.yield.supply.stamp.1
  obtain ⟨later, told, done⟩ :=
    turn_ends w.yield w.yield.supply.stamp.2 (.write w.yield.supply.stamp.1 policy x)
  have whole : w.set policy x = (v.answer, w.yield.turn w.yield.supply.stamp.2
      (.write w.yield.supply.stamp.1 policy x)) := by
    have answer : (w.yield.run.store.commit w.yield.supply.stamp.1 policy x).1.map
        FanOut.snapshot = v.answer := by
      rcases kind with ⟨y, repaired, rfl⟩ | ⟨a, b, rfl⟩ <;>
        simp [Store.commit, judged, Verdict.answer, Except.map]
    simp only [set, sound, answer]
  -- nothing before and after that moment commits anything
  obtain ⟨around, before, idle⟩ := quiet.of_mute.log
  obtain ⟨more, after, idle'⟩ := told.log
  rw [whole]
  refine ⟨rfl, done, yielded.later.trans ((Run.Later.step _ _).trans later), ?_, ?_, ?_, ?_, ?_⟩
  · rw [told.current, current, quiet.current]
  · rw [told.conflicts, conflicts, quiet.conflicts]
  · rw [told.rejected, ← quiet.rejected]
    exact rejected
  · rw [after, Log.published_of_quiet idle', log, Log.published, before,
      Log.published_of_quiet idle]
    rcases kind with ⟨y, repaired, rfl⟩ | ⟨a, b, rfl⟩ <;> rfl
  · rw [after, Log.commits_of_quiet idle', log]
    rcases kind with ⟨y, repaired, rfl⟩ | ⟨a, b, rfl⟩
    · rw [Log.commits_cons (x := y) rfl, before, Log.commits_of_quiet idle]
      rfl
    · rw [Log.commits_cons_quiet rfl, before, Log.commits_of_quiet idle]
      exact (List.append_nil _).symm

end Raced

/-- A write that is in conflict leaves the store of its turn, with the refusal
counted. -/
theorem set_of_conflict {w : Scene} {policy : VersionPolicy} {x : Snapshot} {v v' : UInt64}
    (free : w.run.flight = none) (sound : x.defect? = none)
    (judged : judge w.run.store.current policy x = .refuse (.versionConflict v v')) :
    (w.set policy x).2.run.store = w.yield.run.store.rejecting 1 := by
  obtain ⟨quiet, flight⟩ := (yield_aside w).quiet
  rw [← quiet.current] at judged
  have step : w.yield.run.step (.write w.yield.supply.stamp.1 policy x) =
      ⟨w.yield.run.store.rejecting 1, none,
        .written policy x (.refuse (.versionConflict v v')) :: w.yield.run.log⟩ := by
    simp only [Run.step, flight, free, Store.commit, judged]
    rfl
  simp only [set, sound, turn, act, finish, step]

/-! ## The race -/

/-- Writes one after the other. -/
def race (policy : VersionPolicy) :
    List Snapshot → Scene → List (Except StoreError Snapshot) × Scene
  | [], w => ([], w)
  | x :: rest, w =>
      let (answer, w) := w.set policy x
      let (answers, w) := race policy rest w
      (answer :: answers, w)

variable {c : Snapshot}

/-- A rival's write under the strict policy, behind another one: it is refused
and changes nothing but the counters of refusals. -/
theorem set_behind_strict {w : Scene} {current y : Snapshot} (free : w.run.flight = none)
    (filled : w.run.store.current = some current) (other : current.id ≠ c.id)
    (version : current.version = c.version + 1) (named : c.instanceId ≠ "")
    (room : c.version.toNat + 1 < UInt64.size) (rival : Rival c y) :
    (w.set .strict y).1 = .error (.versionConflict (c.version + 1) (c.version + 1)) ∧
      Raced 1 [.error (.versionConflict (c.version + 1) (c.version + 1))] w (w.set .strict y).2 ∧
      (w.set .strict y).2.run.store = w.yield.run.store.rejecting 1 := by
  have judged : judge w.run.store.current .strict y =
      .refuse (.versionConflict (c.version + 1) (c.version + 1)) := by
    rw [filled, judge_rival_behind rival named room other (by rw [version]; exact lt_next room),
      if_neg (by simp), version]
  have sound := rival.sound named
  obtain ⟨answer, raced⟩ := Raced.of_set free sound judged (.inr ⟨_, _, rfl⟩)
  exact ⟨answer, raced, set_of_conflict free sound judged⟩

/-- Under the strict policy all rivals behind the first are refused. -/
theorem raced_behind_strict (named : c.instanceId ≠ "")
    (room : c.version.toNat + 1 < UInt64.size) {current : Snapshot} (other : current.id ≠ c.id)
    (version : current.version = c.version + 1) {rest : List Snapshot} :
    ∀ {w : Scene}, w.run.flight = none → w.run.store.current = some current →
      (∀ y ∈ rest, Rival c y) →
        (w.race .strict rest).1 =
          rest.map (fun _ => .error (.versionConflict (c.version + 1) (c.version + 1))) ∧
        Raced rest.length (w.race .strict rest).1 w (w.race .strict rest).2 := by
  induction rest with
  | nil =>
    intro w free filled rivals
    exact ⟨rfl, .refl free⟩
  | cons y rest ih =>
    intro w free filled rivals
    obtain ⟨answer, first, -⟩ := set_behind_strict free filled other version named room
      (rivals y List.mem_cons_self)
    obtain ⟨answers, raced⟩ := ih first.free (first.current.trans filled)
      fun z mem => rivals z (List.mem_cons_of_mem y mem)
    rw [← answer] at first
    refine ⟨?_, ?_⟩
    · simp only [race, List.map_cons, answer, answers]
    · have all := first.trans raced
      rwa [Nat.add_comm] at all

end Scene

/-- The answer to the `k`-th of some rivals under the lenient policy, the
first being number 1. -/
def lenient (c : Snapshot) (k : Nat) (x : Snapshot) : Except StoreError Snapshot :=
  if c.version.toNat + k < UInt64.size then .ok (x.withVersion (.ofNat (c.version.toNat + k)))
  else .error (.versionConflict (c.version + 1) (.ofNat (UInt64.size - 1)))

namespace Scene

variable {c : Snapshot}

/-- A rival's write under the lenient policy, behind `k` others. -/
theorem set_behind_repair {w : Scene} {current y : Snapshot} (free : w.run.flight = none)
    (filled : w.run.store.current = some current) (other : current.id ≠ c.id) {k : Nat}
    (behind : 0 < k)
    (version : current.version.toNat = min (c.version.toNat + k) (UInt64.size - 1))
    (named : c.instanceId ≠ "") (room : c.version.toNat + 1 < UInt64.size) (rival : Rival c y) :
    (w.set .repair y).1 = lenient c (k + 1) y ∧
      Raced 1 [lenient c (k + 1) y] w (w.set .repair y).2 ∧
      ∃ next, (w.set .repair y).2.run.store.current = some next ∧ next.id ≠ c.id ∧
        next.version.toNat = min (c.version.toNat + (k + 1)) (UInt64.size - 1) := by
  have ahead : c.version < current.version := by
    rw [UInt64.lt_iff_toNat_lt, version]
    omega
  have judged := judge_rival_behind rival named room other ahead .repair
  rw [← filled] at judged
  by_cases left : c.version.toNat + (k + 1) < UInt64.size
  · -- the current version is not the last one
    have exact : current.version.toNat + 1 = c.version.toNat + (k + 1) := by omega
    have next : current.version + 1 = UInt64.ofNat (c.version.toNat + (k + 1)) := by
      rw [← exact, UInt64.ofNat_add, UInt64.ofNat_toNat]
      rfl
    rw [if_pos ⟨rfl, by omega⟩, next] at judged
    obtain ⟨answer, raced⟩ := Raced.of_set free (rival.sound named) judged (.inl ⟨_, _, rfl⟩)
    have given : lenient c (k + 1) y =
        .ok (y.withVersion (.ofNat (c.version.toNat + (k + 1)))) := if_pos left
    rw [given]
    refine ⟨answer, raced, _, raced.current, rival.own, ?_⟩
    show (UInt64.ofNat (c.version.toNat + (k + 1))).toNat = _
    rw [UInt64.toNat_ofNat_of_lt' left]
    omega
  · have last : current.version.toNat = UInt64.size - 1 := by omega
    have same : current.version = UInt64.ofNat (UInt64.size - 1) := by
      rw [← last, UInt64.ofNat_toNat]
    rw [if_neg (by rintro ⟨-, more⟩; omega), same] at judged
    obtain ⟨answer, raced⟩ := Raced.of_set free (rival.sound named) judged (.inr ⟨_, _, rfl⟩)
    have given : lenient c (k + 1) y =
        .error (.versionConflict (c.version + 1) (.ofNat (UInt64.size - 1))) := if_neg left
    rw [given]
    exact ⟨answer, raced, current, raced.current.trans filled, other, by omega⟩

/-- Under the lenient policy the rivals behind the first get the next
versions while there are any. -/
theorem raced_behind_repair (named : c.instanceId ≠ "")
    (room : c.version.toNat + 1 < UInt64.size) {rest : List Snapshot} :
    ∀ {k : Nat}, 0 < k → ∀ {w : Scene} {current : Snapshot}, w.run.flight = none →
      w.run.store.current = some current → current.id ≠ c.id →
      current.version.toNat = min (c.version.toNat + k) (UInt64.size - 1) →
      (∀ y ∈ rest, Rival c y) →
        (w.race .repair rest).1 = rest.mapIdx (fun i y => lenient c (k + i + 1) y) ∧
        Raced rest.length (w.race .repair rest).1 w (w.race .repair rest).2 := by
  induction rest with
  | nil =>
    intro k behind w current free filled other version rivals
    exact ⟨rfl, .refl free⟩
  | cons y rest ih =>
    intro k behind w current free filled other version rivals
    obtain ⟨answer, first, next, filled', other', version'⟩ := set_behind_repair free filled other
      behind version named room (rivals y List.mem_cons_self)
    obtain ⟨answers, raced⟩ := ih (Nat.succ_pos k) first.free filled' other' version'
      fun z mem => rivals z (List.mem_cons_of_mem y mem)
    rw [← answer] at first
    refine ⟨?_, ?_⟩
    · have shift : ∀ i, k + 1 + i + 1 = k + (i + 1) + 1 := fun i => by omega
      simp only [race, List.mapIdx_cons, answer, answers, shift, Nat.add_zero]
    · have all := first.trans raced
      rwa [Nat.add_comm] at all

/-- The first rival's write, under both policies. -/
theorem set_first {w : Scene} {x : Snapshot} (free : w.run.flight = none)
    (filled : w.run.store.current = some c) (named : c.instanceId ≠ "")
    (room : c.version.toNat + 1 < UInt64.size) (rival : Rival c x) (policy : VersionPolicy) :
    (w.set policy x).1 = .ok x ∧ Raced 0 [.ok x] w (w.set policy x).2 ∧
      (w.set policy x).2.run.store.current = some x := by
  have judged : judge w.run.store.current policy x = .publish x false := by
    rw [filled, judge_rival rival named room policy]
  obtain ⟨answer, raced⟩ := Raced.of_set free (rival.sound named) judged (.inl ⟨_, _, rfl⟩)
  exact ⟨answer, raced, raced.current⟩

/-- All rivals under the strict policy. -/
theorem race_strict (named : c.instanceId ≠ "") (room : c.version.toNat + 1 < UInt64.size)
    {x : Snapshot} {rest : List Snapshot} {w : Scene} (free : w.run.flight = none)
    (filled : w.run.store.current = some c) (rivals : ∀ y ∈ x :: rest, Rival c y) :
    (w.race .strict (x :: rest)).1 =
        .ok x :: rest.map (fun _ => .error (.versionConflict (c.version + 1) (c.version + 1))) ∧
      committed (w.race .strict (x :: rest)).1 = [x] ∧
      Raced rest.length (w.race .strict (x :: rest)).1 w (w.race .strict (x :: rest)).2 := by
  have rival := rivals x List.mem_cons_self
  obtain ⟨answer, first, left⟩ := set_first free filled named room rival .strict
  obtain ⟨answers, raced⟩ := raced_behind_strict named room rival.own (rival.version room)
    first.free left fun y mem => rivals y (List.mem_cons_of_mem x mem)
  have all := first.trans raced
  have every : (w.race .strict (x :: rest)).1 = .ok x ::
      rest.map (fun _ => .error (.versionConflict (c.version + 1) (c.version + 1))) := by
    simp only [race, answer, answers]
  rw [Nat.zero_add, ← answer] at all
  refine ⟨every, ?_, all⟩
  rw [every]
  simp [committed, Except.toOption]

/-- All rivals under the lenient policy. -/
theorem race_repair (named : c.instanceId ≠ "") (room : c.version.toNat + 1 < UInt64.size)
    {x : Snapshot} {rest : List Snapshot} {w : Scene} (free : w.run.flight = none)
    (filled : w.run.store.current = some c) (rivals : ∀ y ∈ x :: rest, Rival c y) :
    (w.race .repair (x :: rest)).1 = (x :: rest).mapIdx (fun i y => lenient c (i + 1) y) ∧
      Raced rest.length (w.race .repair (x :: rest)).1 w (w.race .repair (x :: rest)).2 := by
  have rival := rivals x List.mem_cons_self
  have next : (c.version + 1).toNat = c.version.toNat + 1 := by
    rw [UInt64.toNat_add, UInt64.toNat_one, Nat.mod_eq_of_lt room]
  obtain ⟨answer, first, left⟩ := set_first free filled named room rival .repair
  obtain ⟨answers, raced⟩ := raced_behind_repair named room (k := 1) Nat.one_pos first.free left
    rival.own (by rw [rival.version room, next]; omega)
    fun y mem => rivals y (List.mem_cons_of_mem x mem)
  have all := first.trans raced
  -- the first gets the version that it has
  have given : lenient c 1 x = .ok x := by
    have same : UInt64.ofNat (c.version.toNat + 1) = x.version := by
      rw [rival.version room, ← next, UInt64.ofNat_toNat]
    rw [lenient, if_pos room, same]
    rfl
  have shift : ∀ i, 1 + i + 1 = i + 1 + 1 := fun i => by omega
  rw [Nat.zero_add, ← answer] at all
  refine ⟨?_, all⟩
  simp only [race, List.mapIdx_cons, answer, answers, given, shift]

/-- A subscriber that is registered before some writes and after them, and has
room for all that it is offered between, is fed what they commit. -/
theorem Raced.fed {config : StoreConfig} {instanceId : String} {started : Stamp} {acts : List Act}
    {w w' : Scene} (reached : w.run = (Run.start config instanceId started).after acts)
    (free : w.run.flight = none) {n : Nat} {answers : List (Except StoreError Snapshot)}
    (raced : Raced n answers w w') {id : SubscriberId}
    (registered : w.run.store.isRegistered id = true)
    (registered' : w'.run.store.isRegistered id = true)
    (room : ∀ o ∈ (Log.offers id w'.run.log).drop (Log.offers id w.run.log).length, o.2 ≠ .full) :
    Log.fed id w'.run.log = Log.fed id w.run.log ++ committed answers := by
  have accounted : Run.Accounted w.run := by
    rw [reached]
    exact Run.accounted_after config instanceId started acts
  have accounted' : Run.Accounted w'.run := by
    obtain ⟨more, run⟩ := raced.later
    rw [run, reached, ← Run.after_append]
    exact Run.accounted_after config instanceId started (acts ++ more)
  rw [Store.isRegistered_eq, List.contains_iff_mem] at registered registered'
  obtain ⟨events, split, new⟩ := Run.later_newcomers raced.later
  have published := raced.published
  rw [split, Log.published_append] at published
  rw [split, Log.offers_append, List.drop_left] at room
  rw [accounted.fed_later accounted' free raced.free split new registered registered' room,
    List.append_cancel_left published]

end Scene

/-- The versions that the lenient policy gives: each of those behind that of
`c` once, in this order, and none behind the last one. -/
theorem versions_lenient (c : Snapshot) (xs : List Snapshot) : ∀ k,
    (committed (xs.mapIdx fun i x => lenient c (k + i + 1) x)).map (fun x => x.version.toNat) =
      List.range' (c.version.toNat + k + 1)
        (min xs.length (UInt64.size - 1 - (c.version.toNat + k))) := by
  induction xs with
  | nil => simp [committed]
  | cons x xs ih =>
    intro k
    have shift : ∀ i, k + (i + 1) + 1 = k + 1 + i + 1 := fun i => by omega
    simp only [List.mapIdx_cons, shift, Nat.add_zero, committed, List.filterMap_cons,
      List.length_cons]
    have rest := ih (k + 1)
    simp only [committed] at rest
    by_cases left : c.version.toNat + (k + 1) < UInt64.size
    · have given : lenient c (k + 1) x =
          .ok (x.withVersion (.ofNat (c.version.toNat + (k + 1)))) := if_pos left
      have count : min (xs.length + 1) (UInt64.size - 1 - (c.version.toNat + k)) =
          min xs.length (UInt64.size - 1 - (c.version.toNat + (k + 1))) + 1 := by omega
      rw [given, count, List.range'_succ]
      simp only [Except.toOption, List.map_cons, rest]
      congr 1
      exact UInt64.toNat_ofNat_of_lt' left
    · have given : lenient c (k + 1) x =
          .error (.versionConflict (c.version + 1) (.ofNat (UInt64.size - 1))) := if_neg left
      have none : min (xs.length + 1) (UInt64.size - 1 - (c.version.toNat + k)) = 0 := by omega
      have none' : min xs.length (UInt64.size - 1 - (c.version.toNat + (k + 1))) = 0 := by omega
      rw [given, none]
      rw [none'] at rest
      simp only [Except.toOption]
      exact rest

/-- Writes of rivals, in any order, with readers, subscribers and receivers
between them and between the steps of each of them.

Under the lenient policy the `k`-th is committed under the `k`-th version
behind that of `c`, as long as there is one, and the others are refused; so
these versions are given once each, in this order.  All but the first are
counted as conflicts.  Under the strict policy the first is committed as it
is, and every other one is in conflict with it and changes nothing but the
two counters of refusals.  A subscriber that is registered all the time and
has room for what it is offered is fed what is committed, in this order. -/
theorem rivals_race (config : StoreConfig) (instanceId : String) (started : Stamp)
    (acts : List Act) {w : Scene}
    (reached : w.run = (Run.start config instanceId started).after acts)
    (free : w.run.flight = none) {c : Snapshot} (filled : w.run.store.current = some c)
    (named : c.instanceId ≠ "") (room : c.version.toNat + 1 < UInt64.size) {x : Snapshot}
    {rest : List Snapshot} (rivals : ∀ y ∈ x :: rest, Rival c y) :
    (let race := w.race .repair (x :: rest);
      race.1 = (x :: rest).mapIdx (fun i y => lenient c (i + 1) y) ∧
      (committed race.1).map (fun y => y.version.toNat) = List.range' (c.version.toNat + 1)
        (min (x :: rest).length (UInt64.size - 1 - c.version.toNat)) ∧
      Log.commits race.2.run.log = Log.commits w.run.log ++ committed race.1 ∧
      race.2.run.store.counters.versionConflicts =
        w.run.store.counters.versionConflicts + rest.length ∧
      ∀ id, w.run.store.isRegistered id = true → race.2.run.store.isRegistered id = true →
        (∀ o ∈ (Log.offers id race.2.run.log).drop (Log.offers id w.run.log).length,
          o.2 ≠ .full) →
        Log.fed id race.2.run.log = Log.fed id w.run.log ++ committed race.1) ∧
    (let race := w.race .strict (x :: rest);
      x.version = c.version + 1 ∧
      race.1 = .ok x ::
        rest.map (fun _ => .error (.versionConflict (c.version + 1) (c.version + 1))) ∧
      Log.commits race.2.run.log = Log.commits w.run.log ++ [x] ∧
      race.2.run.store.counters.versionConflicts =
        w.run.store.counters.versionConflicts + rest.length ∧
      race.2.run.store.counters.rejectedSets = w.run.store.counters.rejectedSets + rest.length ∧
      (∀ before y after, rest = before ++ y :: after →
        let b := (w.race .strict (x :: before)).2
        (b.set .strict y).2.run.store = b.yield.run.store.rejecting 1) ∧
      ∀ id, w.run.store.isRegistered id = true → race.2.run.store.isRegistered id = true →
        (∀ o ∈ (Log.offers id race.2.run.log).drop (Log.offers id w.run.log).length,
          o.2 ≠ .full) →
        Log.fed id race.2.run.log = Log.fed id w.run.log ++ [x]) := by
  constructor
  · obtain ⟨every, raced⟩ := Scene.race_repair named room free filled rivals
    have versions := versions_lenient c (x :: rest) 0
    simp only [Nat.zero_add, Nat.add_zero] at versions
    refine ⟨every, by rw [← versions, ← every], raced.commits, raced.conflicts, ?_⟩
    intro id registered registered' prompt
    exact raced.fed reached free registered registered' prompt
  · obtain ⟨every, one, raced⟩ := Scene.race_strict named room free filled rivals
    have version := (rivals x List.mem_cons_self).version room
    refine ⟨version, every, one ▸ raced.commits, raced.conflicts, ?_, ?_, ?_⟩
    · have rejected := raced.rejected
      rw [one, every] at rejected
      simp only [List.length_cons, List.length_nil, List.length_map] at rejected
      exact Nat.add_right_cancel rejected
    · intro before y after split
      subst split
      have members : ∀ z ∈ x :: before, Rival c z := by
        intro z mem
        rcases List.mem_cons.1 mem with rfl | mem
        · exact rivals _ List.mem_cons_self
        · exact rivals z (List.mem_cons_of_mem x (List.mem_append_left _ mem))
      obtain ⟨-, one', raced'⟩ := Scene.race_strict named room free filled members
      -- the first is current when this one has its turn
      have current := raced'.current
      rw [one'] at current
      exact (Scene.set_behind_strict raced'.free current (rivals x List.mem_cons_self).own version
        named room (rivals y (by simp))).2.2
    · intro id registered registered' prompt
      exact one ▸ raced.fed reached free registered registered' prompt

/-- A snapshot with the last version but one. -/
def lateFact : Snapshot := movedFact.withVersion 18446744073709551614

/-- Two changes of state to be made after it, both to the same state. -/
def lateRivals : List Snapshot :=
  [lateFact.derive (markOf "d") .error "one" none, lateFact.derive (markOf "e") .error "other" none]

/-- A subscriber, and then the late snapshot. -/
def lateActs : List Act :=
  [.subscribe "watcher" 2, .write ⟨1, .epoch⟩ .strict lateFact, .tell, .settle]

/-- The watcher makes room while the first rival waits for its turn, and
somebody joins while it tells of its commit. -/
def lateScene : Scene :=
  ⟨(Run.start .standard "run" ⟨1, .epoch⟩).after lateActs, .unary, 0,
    [⟨1, [.receive ⟨1⟩, .read], by decide⟩, ⟨1, [.subscribe "other" 1], by decide⟩]⟩

/-- The second rival finds the last version taken, under both policies. -/
theorem rivals_race_at_the_end :
    lateScene.run.flight = none ∧ lateScene.run.store.current = some lateFact ∧
      (∀ y ∈ lateRivals, Rival lateFact y) ∧
      (committed (lateScene.race .repair lateRivals).1).map (fun y => y.version.toNat) =
        [18446744073709551615] ∧
      Log.fed ⟨1⟩ (lateScene.race .repair lateRivals).2.run.log =
        Log.fed ⟨1⟩ lateScene.run.log ++ committed (lateScene.race .repair lateRivals).1 ∧
      (lateScene.race .strict lateRivals).2.run.store.counters.rejectedSets = 1 := by
  have rivals : ∀ y ∈ lateRivals, Rival lateFact y := by
    intro y mem
    simp only [lateRivals, List.mem_cons, List.not_mem_nil, or_false] at mem
    rcases mem with rfl | rfl
    · exact ⟨⟨_, _, _, _, rfl⟩, by decide, by decide, by decide, by decide⟩
    · exact ⟨⟨_, _, _, _, rfl⟩, by decide, by decide, by decide, by decide⟩
  have free : lateScene.run.flight = none := by decide
  have filled : lateScene.run.store.current = some lateFact := by decide
  obtain ⟨⟨-, versions, -, -, fed⟩, -, -, -, -, rejected, -⟩ := rivals_race .standard "run"
    ⟨1, .epoch⟩ lateActs (w := lateScene) rfl free filled (by decide) (by decide) rivals
  refine ⟨free, filled, rivals, versions, ?_, rejected⟩
  exact fed ⟨1⟩ (by decide) (by decide +kernel) (by decide +kernel)

end AgentState
