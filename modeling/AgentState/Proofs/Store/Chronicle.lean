/-
AgentState.Proofs.Store.Chronicle — the log of a store whose only writer
takes the steps of a table.

Every write is the step that a table takes from what is current, and the
first snapshot is a cold start.  Then the current snapshot is a summary of
the whole log: its version and the length of its history count the changes
of state, and what was published are the versions up to it, each once, in
the states that its history tells of.

* `Log.changes`, `Log.published`, `Log.writes` — what is counted.
* `RuleTable.step_kept`, `RuleTable.step_moved` — a step without and with a
  change of state; `RuleTable.judge_step` — the verdict on it.
* `Driven` — an event at such a store.
* `Log.Summary` — what the current snapshot says of the log.
* `summary_of_driven` — it says so after every driven log.
* `Steered` — the invariant of such a store; `Steered.quiet`,
  `Steered.coldStarted`, `Steered.wrote` — the steps that keep it.
-/
import AgentState.Proofs.Store.Soundness
import AgentState.Proofs.Store.Quiet

namespace AgentState

/-! ## What is counted -/

namespace Log

/-- The snapshots that were published, in this order. -/
def published : Log → List Snapshot
  | [] => []
  | e :: past => published past ++ e.published?.toList

/-- How often the state of the current snapshot changed. -/
def changes : Log → Nat
  | [] => 0
  | e :: past =>
      match latest past, e.committed? with
      | some c, some x => changes past + if x.state = c.state then 0 else 1
      | _, _ => changes past

/-- How many writes were asked for. -/
def writes : Log → Nat
  | [] => 0
  | .written _ _ _ :: past => writes past + 1
  | _ :: past => writes past

theorem published_of_quiet {later : Log} (quiet : ∀ e ∈ later, e.isQuiet = true) (past : Log) :
    published (later ++ past) = published past := by
  induction later with
  | nil => rfl
  | cons e later ih =>
    have none := Event.published?_of_isQuiet (quiet e List.mem_cons_self)
    rw [List.cons_append, published, none, Option.toList_none, List.append_nil]
    exact ih fun e' mem => quiet e' (List.mem_cons_of_mem e mem)

/-- What commits nothing changes nothing. -/
theorem changes_cons_idle {e : Event} (idle : e.committed? = none) (past : Log) :
    changes (e :: past) = changes past := by
  rw [changes, idle]
  cases latest past <;> rfl

/-- Nothing changes before there is a snapshot. -/
theorem changes_of_empty : ∀ {log : Log}, latest log = none → changes log = 0
  | [], _ => rfl
  | e :: past, empty => by
      rw [latest_cons] at empty
      cases committed : e.committed? with
      | some x => simp [committed] at empty
      | none =>
        have before : latest past = none := by simpa [committed] using empty
        simp [changes, committed, before, changes_of_empty before]

theorem writes_of_quiet {later : Log} (quiet : ∀ e ∈ later, e.isQuiet = true) (past : Log) :
    writes (later ++ past) = writes past := by
  induction later with
  | nil => rfl
  | cons e later ih =>
    have tail := ih fun e' mem => quiet e' (List.mem_cons_of_mem e mem)
    have head := quiet e List.mem_cons_self
    cases e <;> first | exact tail | cases head

theorem writes_le_append (later past : Log) : writes past ≤ writes (later ++ past) := by
  induction later with
  | nil => exact Nat.le_refl _
  | cons e later ih =>
    cases e with
    | written => exact Nat.le_succ_of_le ih
    | _ => exact ih

end Log

/-- Without a writer's turn nothing is written. -/
theorem Run.Quiet.writes {r r' : Run} (h : Run.Quiet Event.isQuiet r r') :
    Log.writes r'.log = Log.writes r.log := by
  obtain ⟨later, log, quiet⟩ := h.log
  rw [log, Log.writes_of_quiet quiet]

/-! ## The steps of a table -/

/-- The verdict on a step from `c` to `x` that is committed as it is. -/
def Verdict.ofStep (c x : Snapshot) : Verdict :=
  if x.state = c.state then .refresh x else .publish x false

namespace RuleTable

variable (t : RuleTable) (mark : StepMark) (c : Snapshot) (k : Conditions)

/-- A step without a change of state takes over all that tells of changes,
and is a refresh of the snapshot that it starts from. -/
theorem step_kept (same : (t.step mark c k).1.state = c.state) :
    (t.step mark c k).1.version = c.version ∧ (t.step mark c k).1.prevState = c.prevState ∧
      (t.step mark c k).1.attempts = c.attempts ∧ (t.step mark c k).1.history = c.history ∧
      (t.step mark c k).1.refreshes c = true := by
  have kept : (t.next c.state k).1 = c.state := same
  refine ⟨?_, ?_, ?_, ?_, ?_⟩ <;> simp [step, Snapshot.derive, kept, refreshes_iff]

/-- A step with a change of state is recorded, and has the next version. -/
theorem step_moved (other : (t.step mark c k).1.state ≠ c.state) :
    (t.step mark c k).1.version = Snapshot.bumpVersion c.version ∧
      (t.step mark c k).1.refreshes c = false ∧
      ∃ record : Transition, record.target = (t.step mark c k).1.state ∧
        (t.step mark c k).1.history = c.history.record record := by
  have moved : (t.next c.state k).1 ≠ c.state := other
  refine ⟨by simp [step, Snapshot.derive, moved], ?_,
    transitionFor mark.recorded c.state (t.next c.state k).1 (t.next c.state k).2, ?_, ?_⟩
  · rw [Bool.eq_false_iff]
    exact fun refreshed => other ((refreshes_iff _ _).1 refreshed).2.1
  · unfold transitionFor
    split <;> rfl
  · simp [step, Snapshot.derive, moved]

/-- Where no rule leads to the unspecified state, a step from a specified
one does not either. -/
theorem step_specified (targets : ∀ r ∈ t.rules, r.target ≠ .unspecified)
    (specified : c.state ≠ .unspecified) : (t.step mark c k).1.state ≠ .unspecified := by
  show (t.next c.state k).1 ≠ .unspecified
  simp only [next, specified, if_false]
  cases found : t.rules.find? (fun r => r.applies c.state k) with
  | none => exact specified
  | some r => exact targets r (List.mem_of_find?_eq_some found)

/-- A step from a snapshot without a defect has none, under an identifier. -/
theorem step_sound (targets : ∀ r ∈ t.rules, r.target ≠ .unspecified)
    (sound : c.defect? = none) (id : mark.id ≠ "") : (t.step mark c k).1.defect? = none := by
  obtain ⟨specified, -, named⟩ := (defect?_eq_none_iff c).1 sound
  exact (defect?_eq_none_iff _).2 ⟨t.step_specified mark c k targets specified, id, named⟩

/-- What becomes of a step from what is current, under either policy, while
there is a next version. -/
theorem judge_step {t : RuleTable} {mark : StepMark} {c : Snapshot} {k : Conditions}
    (policy : VersionPolicy) (sound : (t.step mark c k).1.defect? = none)
    (room : c.version.toNat + 1 < UInt64.size) :
    judge (some c) policy (t.step mark c k).1 = .ofStep c (t.step mark c k).1 := by
  unfold Verdict.ofStep
  split
  · next same =>
    obtain ⟨-, -, -, -, refreshes⟩ := t.step_kept mark c k same
    simp [judge, sound, refreshes]
  · next other =>
    obtain ⟨version, refreshes, -⟩ := t.step_moved mark c k other
    have newer : c.version < (t.step mark c k).1.version := by
      rw [version, bumpVersion_of_room room]
      exact lt_next room
    simp [judge, sound, refreshes, newer]

end RuleTable

/-! ## The only writer -/

/-- What an event has to be at a store whose only writer takes the steps of
a table: a write is a step from what is current, and is answered with a
refresh or a publication by whether the state stays; what was begun first is
a cold start. -/
def Driven (t : RuleTable) (instanceId : String) : Event → Log → Prop
  | .written _ x v, past =>
      ∃ (mark : StepMark) (c : Snapshot) (k : Conditions), mark.id ≠ "" ∧
        Log.latest past = some c ∧ x = (t.step mark c k).1 ∧
        v = .ofStep c x
  | .begun x true, past =>
      Log.latest past = none ∧ ∃ mark, mark.id ≠ "" ∧ x = .coldStart mark instanceId
  | _, _ => True

theorem Driven.of_quiet (t : RuleTable) (instanceId : String) (e : Event) (past : Log)
    (quiet : e.isQuiet = true) : Driven t instanceId e past := by
  cases e <;> trivial

namespace Log

/-- What a snapshot says of a log. -/
structure Summary (log : Log) (s : Snapshot) : Prop where
  sound : s.defect? = none
  version : s.version.toNat = changes log
  length : s.history.length = changes log
  few : changes log ≤ writes log
  versions : (published log).map (fun x => x.version.toNat) = List.range (changes log + 1)
  states : (published log).map Snapshot.state =
    .booting :: s.history.transitions.map Transition.target

/-- What is said of a log by the snapshot that is current after it, and that
nothing was published as long as there is none. -/
structure Summarized (log : Log) : Prop where
  filled : ∀ s, latest log = some s → Summary log s
  empty : latest log = none → published log = []

/-- An event that commits nothing leaves everything as it is said. -/
theorem Summarized.idle {past : Log} {e : Event} (h : Summarized past)
    (idle : e.committed? = none) : Summarized (e :: past) := by
  have latest : latest (e :: past) = Log.latest past := by
    rw [latest_cons, idle, Option.none_or]
  have published : published (e :: past) = Log.published past := by
    rw [Log.published, Event.published?_of_idle idle, Option.toList_none, List.append_nil]
  have changes := changes_cons_idle idle past
  refine ⟨fun s current => ?_, fun none => ?_⟩
  · obtain ⟨sound, version, length, few, versions, states⟩ := h.filled s (latest ▸ current)
    refine ⟨sound, ?_, ?_, ?_, ?_, ?_⟩
    · rw [version, changes]
    · rw [length, changes]
    · rw [changes]
      exact Nat.le_trans few (writes_le_append [e] past)
    · rw [published, changes]
      exact versions
    · rw [published]
      exact states
  · rw [published]
    exact h.empty (latest ▸ none)

/-- After a commit it is enough what is said by the snapshot that was
committed. -/
theorem Summarized.of_committed {past : Log} {e : Event} {x : Snapshot}
    (committed : e.committed? = some x) (summary : Summary (e :: past) x) :
    Summarized (e :: past) where
  filled s current := by
    rw [latest_cons, committed, Option.some_or, Option.some.injEq] at current
    exact current ▸ summary
  empty none := by
    rw [latest_cons, committed] at none
    cases none

/-- The cold start is the first version. -/
theorem Summarized.begun {past : Log} (h : Summarized past) {mark : Mark} {instanceId : String}
    (named : instanceId ≠ "") (empty : latest past = none) (id : mark.id ≠ "") :
    Summarized (.begun (.coldStart mark instanceId) true :: past) := by
  have changes : changes (.begun (.coldStart mark instanceId) true :: past) = 0 := by
    rw [Log.changes, empty, changes_of_empty empty]
  have published : published (.begun (.coldStart mark instanceId) true :: past) =
      [.coldStart mark instanceId] := by
    rw [Log.published, h.empty empty]
    rfl
  have specified : State.booting ≠ .unspecified := by decide
  refine .of_committed (x := .coldStart mark instanceId) rfl ⟨?_, ?_, ?_, ?_, ?_, ?_⟩
  · exact (defect?_eq_none_iff _).2 ⟨specified, id, named⟩
  · rw [changes]
    rfl
  · rw [changes]
    rfl
  · rw [changes]
    exact Nat.zero_le _
  · rw [published, changes]
    rfl
  · rw [published]
    rfl

/-- A refresh leaves everything as it is said. -/
theorem Summarized.refreshed {t : RuleTable} {past : Log} (h : Summarized past) {mark : StepMark}
    {c : Snapshot} {k : Conditions} (policy : VersionPolicy) (current : latest past = some c)
    (sound : (t.step mark c k).1.defect? = none)
    (same : (t.step mark c k).1.state = c.state) :
    Summarized (.written policy (t.step mark c k).1 (.refresh (t.step mark c k).1) :: past) := by
  obtain ⟨-, version, length, few, versions, states⟩ := h.filled c current
  obtain ⟨version', -, -, history', -⟩ := t.step_kept mark c k same
  have changes : changes
      (.written policy (t.step mark c k).1 (.refresh (t.step mark c k).1) :: past) =
        Log.changes past := by
    simp [Log.changes, current, Event.committed?, same]
  have published : published
      (.written policy (t.step mark c k).1 (.refresh (t.step mark c k).1) :: past) =
        Log.published past := List.append_nil _
  refine .of_committed (x := (t.step mark c k).1) rfl ⟨sound, ?_, ?_, ?_, ?_, ?_⟩
  · rw [version', version, changes]
  · rw [history', length, changes]
  · rw [changes]
    exact Nat.le_succ_of_le few
  · rw [published, changes]
    exact versions
  · rw [published, history']
    exact states

/-- A change of state is one more version. -/
theorem Summarized.moved {t : RuleTable} {past : Log} (h : Summarized past) {mark : StepMark}
    {c : Snapshot} {k : Conditions} (policy : VersionPolicy) (current : latest past = some c)
    (sound : (t.step mark c k).1.defect? = none) (room : writes past + 1 < UInt64.size)
    (other : (t.step mark c k).1.state ≠ c.state) :
    Summarized
      (.written policy (t.step mark c k).1 (.publish (t.step mark c k).1 false) :: past) := by
  obtain ⟨-, version, length, few, versions, states⟩ := h.filled c current
  obtain ⟨version', -, record, target, history'⟩ := t.step_moved mark c k other
  have next : (t.step mark c k).1.version.toNat = Log.changes past + 1 := by
    have fits : c.version.toNat + 1 < UInt64.size := by omega
    rw [version', bumpVersion_of_room fits, UInt64.toNat_add, UInt64.toNat_one,
      Nat.mod_eq_of_lt fits, version]
  have changes : changes
      (.written policy (t.step mark c k).1 (.publish (t.step mark c k).1 false) :: past) =
        Log.changes past + 1 := by
    simp [Log.changes, current, Event.committed?, Event.published?, other]
  have published : published
      (.written policy (t.step mark c k).1 (.publish (t.step mark c k).1 false) :: past) =
        Log.published past ++ [(t.step mark c k).1] := rfl
  refine .of_committed (x := (t.step mark c k).1) rfl ⟨sound, ?_, ?_, ?_, ?_, ?_⟩
  · rw [next, changes]
  · rw [history', changes, ← length]
    exact List.length_append
  · rw [changes]
    exact Nat.succ_le_succ few
  · rw [published, changes, List.map_append, versions, List.range_succ (n := Log.changes past + 1)]
    simp [next]
  · rw [published, history', List.map_append, states]
    simp [History.record, target]

end Log

/-- The current snapshot sums the log up, after every log of an only writer
with fewer writes than there are versions. -/
theorem summary_of_driven {t : RuleTable} {instanceId : String}
    (targets : ∀ r ∈ t.rules, r.target ≠ .unspecified) (named : instanceId ≠ "") :
    ∀ log : Log, Log.Each (Driven t instanceId) log → Log.writes log < UInt64.size →
      Log.Summarized log
  | [], _, _ => ⟨fun s none => (by cases none), fun _ => rfl⟩
  | e :: past, driven, few => by
      have fewer : Log.writes past < UInt64.size :=
        Nat.lt_of_le_of_lt (Log.writes_le_append [e] past) few
      have before := summary_of_driven targets named past driven.2 fewer
      have turn := driven.1
      cases e with
      | written policy x v =>
        obtain ⟨mark, c, k, id, current, rfl, rfl⟩ := turn
        have sound := t.step_sound mark c k targets (before.filled c current).sound id
        unfold Verdict.ofStep
        split
        · next same => exact before.refreshed policy current sound same
        · next other => exact before.moved policy current sound few other
      | begun x cold =>
        cases cold with
        | false => exact before.idle rfl
        | true =>
          obtain ⟨empty, mark, id, rfl⟩ := turn
          exact before.begun named empty id
      | told | settled | read | subscribed | turnedAway | unsubscribed | taken | detached =>
        exact before.idle rfl

/-! ## A store that a table steers -/

/-- A store that nothing but at most so many steps of a table were written
to. -/
structure Steered (t : RuleTable) (instanceId : String) (n : Nat) (r : Run) : Prop where
  reached : ∃ config started, Run.Later (.start config instanceId started) r
  own : r.store.instanceId = instanceId
  conflicts : r.store.counters.versionConflicts = 0
  rejected : r.store.counters.rejectedSets = 0
  driven : Log.Each (Driven t instanceId) r.log
  few : Log.writes r.log ≤ n

namespace Steered

variable {t : RuleTable} {instanceId : String} {n : Nat} {r r' : Run}

theorem start (t : RuleTable) (config : StoreConfig) (instanceId : String) (started : Stamp) :
    Steered t instanceId 0 (.start config instanceId started) :=
  ⟨⟨config, started, .refl _⟩, rfl, rfl, rfl, trivial, Nat.le_refl _⟩

/-- Without a writer's turn nothing is written. -/
theorem quiet (h : Steered t instanceId n r) (later : Run.Later r r')
    (quiet : Run.Quiet Event.isQuiet r r') : Steered t instanceId n r' := by
  obtain ⟨config, started, reached⟩ := h.reached
  obtain ⟨more, log, idle⟩ := quiet.log
  refine ⟨⟨config, started, reached.trans later⟩, quiet.instanceId.trans h.own,
    quiet.conflicts.trans h.conflicts, quiet.rejected.trans h.rejected, ?_, ?_⟩
  · rw [log]
    exact h.driven.of_quiet (Driven.of_quiet t instanceId) idle
  · rw [log, Log.writes_of_quiet idle]
    exact h.few

/-- The log knows what is current. -/
theorem latest (h : Steered t instanceId n r) : Log.latest r.log = r.store.current := by
  obtain ⟨config, started, acts, rfl⟩ := h.reached
  exact (Run.ordered_after config instanceId started acts).latest

/-- What is current sums the log up. -/
theorem summarized (h : Steered t instanceId n r)
    (targets : ∀ rule ∈ t.rules, rule.target ≠ .unspecified) (named : instanceId ≠ "")
    (fits : n < UInt64.size) : Log.Summarized r.log :=
  summary_of_driven targets named r.log h.driven (Nat.lt_of_le_of_lt h.few fits)

/-- The same at every moment so far. -/
theorem summarized_at (h : Steered t instanceId n r)
    (targets : ∀ rule ∈ t.rules, rule.target ≠ .unspecified) (named : instanceId ≠ "")
    (fits : n < UInt64.size) {later past : Log} (split : r.log = later ++ past) :
    Log.Summarized past := by
  have driven := h.driven
  have few := h.few
  rw [split] at driven few
  have fewer := Log.writes_le_append later past
  exact summary_of_driven targets named past driven.past (by omega)

/-- A cold start is no write. -/
theorem coldStarted (h : Steered t instanceId n r) (free : r.flight = none)
    (empty : r.store.current = none) (mark : Mark) (id : mark.id ≠ "") :
    Steered t instanceId n (r.step (.begin mark)) ∧
      r.step (.begin mark) = ⟨r.store.install mark.stamp (.coldStart mark instanceId),
        some (r.store.announce (.coldStart mark instanceId)),
        .begun (.coldStart mark instanceId) true :: r.log⟩ := by
  have step : r.step (.begin mark) =
      ⟨r.store.install mark.stamp (.coldStart mark instanceId),
        some (r.store.announce (.coldStart mark instanceId)),
        .begun (.coldStart mark instanceId) true :: r.log⟩ := by
    simp only [Run.step, free, Store.coldStart, empty, h.own, Option.isNone_none]
    rfl
  obtain ⟨config, started, reached⟩ := h.reached
  have later := reached.trans (.step r (.begin mark))
  rw [step] at later ⊢
  refine ⟨⟨⟨config, started, later⟩, h.own, h.conflicts, h.rejected, ?_, h.few⟩, rfl⟩
  exact ⟨⟨h.latest.trans empty, mark, id, rfl⟩, h.driven⟩

/-- A step of the table is committed as it is, and counts no conflict.  A
refresh has nobody to be told of it. -/
theorem wrote (h : Steered t instanceId n r) (free : r.flight = none) {c : Snapshot}
    (current : r.store.current = some c) {mark : StepMark} {k : Conditions} (id : mark.id ≠ "")
    (sound : (t.step mark c k).1.defect? = none) (room : c.version.toNat + 1 < UInt64.size)
    (now : Stamp) (policy : VersionPolicy) :
    let x := (t.step mark c k).1
    let r' := r.step (.write now policy x)
    Steered t instanceId (n + 1) r' ∧ r'.store.current = some x ∧
      r'.log = .written policy x (.ofStep c x) :: r.log ∧
      ∃ f, (r.store.commit now policy x).1 = .ok f ∧ f.snapshot = x ∧ r'.flight = some f ∧
        (x.state = c.state → f.pending = []) := by
  intro x r'
  have judged : judge r.store.current policy x = .ofStep c x := by
    rw [current]
    exact t.judge_step policy sound room
  obtain ⟨config, started, reached⟩ := h.reached
  have later : Run.Later (.start config instanceId started) r' :=
    reached.trans (.step r (.write now policy x))
  have driven : Log.Each (Driven t instanceId) (.written policy x (.ofStep c x) :: r.log) :=
    ⟨⟨mark, c, k, id, h.latest.trans current, rfl, rfl⟩, h.driven⟩
  have few : Log.writes (.written policy x (.ofStep c x) :: r.log) ≤ n + 1 :=
    Nat.succ_le_succ h.few
  by_cases same : x.state = c.state
  · have verdict : Verdict.ofStep c x = .refresh x := if_pos same
    have commit : r.store.commit now policy x =
        (.ok ⟨x, [], []⟩, (r.store.tally (.refresh x)).install now x) := by
      simp only [Store.commit, judged, verdict]
    have step : r' = ⟨(r.store.tally (.refresh x)).install now x, some ⟨x, [], []⟩,
        .written policy x (.refresh x) :: r.log⟩ := by
      simp only [r', Run.step, free, commit, judged, verdict, Except.toOption]
    rw [step] at later ⊢
    rw [verdict] at driven few ⊢
    refine ⟨⟨⟨config, started, later⟩, h.own, h.conflicts, h.rejected, driven, few⟩, rfl, rfl,
      ⟨x, [], []⟩, by rw [commit], rfl, rfl, fun _ => rfl⟩
  · have verdict : Verdict.ofStep c x = .publish x false := if_neg same
    have commit : r.store.commit now policy x =
        (.ok ((r.store.tally (.publish x false)).announce x),
          (r.store.tally (.publish x false)).install now x) := by
      simp only [Store.commit, judged, verdict]
      rfl
    have step : r' = ⟨(r.store.tally (.publish x false)).install now x,
        some ((r.store.tally (.publish x false)).announce x),
        .written policy x (.publish x false) :: r.log⟩ := by
      simp only [r', Run.step, free, commit, judged, verdict, Except.toOption]
    rw [step] at later ⊢
    rw [verdict] at driven few ⊢
    refine ⟨⟨⟨config, started, later⟩, h.own, h.conflicts, h.rejected, driven, few⟩, rfl, rfl,
      _, by rw [commit], rfl, rfl, fun kept => absurd kept same⟩

end Steered

end AgentState
