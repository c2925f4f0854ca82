/-
AgentState.Proofs.Cycle.Minutes — who is asked in a tick, in which order and
with what.

A tick with minutes notes every question that it puts to a collaborator, and
its write at the store, each with the answer.  Taking minutes changes nothing
else, so what they say holds of the tick without them.

* `Exchange` — a question with its answer; `Exchange.phase?`,
  `Exchange.failure?`, `Exchange.committed?`, `Exchange.given?` — what can be
  read off one.
* `Collaborators.minuted`, `Environment.minuted` — the same collaborators and
  the same way to the store, with minutes taken.
* `InTurn` — minutes of stages that come in turn.
* `Cycle.Minutes` — what the minutes of a tick say; `Cycle.stages_minuted`,
  `Cycle.tick_minuted` — that they do; `Cycle.Minutes.failed` — who ends it.
* `Cycle.tick_engaging` — a tick with another answer of safe mode.
* `tick_asks_in_turn` — the statement over ticks among other writers.
-/
import AgentState.Proofs.Cycle.Contest

namespace AgentState

variable {σ : Type}

/-! ## Minutes -/

/-- A question of a tick with its answer.  The write is noted with the world
at the time when it was asked for. -/
inductive Exchange (σ : Type) where
  | context (tickId : Nat) (answer : Except String Context)
  | bios (context : Context) (answer : Except String Bool)
  | write (world : σ) (policy : VersionPolicy) (candidate : Snapshot)
      (answer : Except StoreError Snapshot)
  | proposals (snapshot : Snapshot) (context : Context) (answer : Except String (List Proposal))
  | decision (snapshot : Snapshot) (ranked : List Proposal) (answer : Except String Decision)
  | safeMode (tickId : Nat) (error : PhaseError) (answer : Except String Unit)

namespace Exchange

/-- The stage to which a question belongs.  Safe mode belongs to none. -/
def phase? : Exchange σ → Option Phase
  | .context _ _ => some .updateContext
  | .bios _ _ => some .biosCheck
  | .write _ _ _ _ => some .fsm
  | .proposals _ _ _ => some .evaluateProposals
  | .decision _ _ _ => some .makeDecision
  | .safeMode _ _ _ => none

/-- The error in which the answer to a question of a stage consists, if it
does. -/
def failure? : Exchange σ → Option PhaseError
  | .context _ (.error m) => some (.collaborator .updateContext m)
  | .bios _ (.error m) => some (.collaborator .biosCheck m)
  | .write _ _ _ (.error e) => some (.store e)
  | .proposals _ _ (.error m) => some (.collaborator .evaluateProposals m)
  | .decision _ _ (.error m) => some (.collaborator .makeDecision m)
  | _ => none

/-- The snapshot that a write committed. -/
def committed? : Exchange σ → Option Snapshot
  | .write _ _ _ (.ok x) => some x
  | _ => none

/-- The snapshot that a collaborator is given. -/
def given? : Exchange σ → Option Snapshot
  | .proposals x _ _ => some x
  | .decision x _ _ => some x
  | _ => none

/-- A write is asked for under a policy, and what is noted as its answer is
the answer of the way to the store. -/
def Faithful (policy : VersionPolicy) (env : Environment σ) : Exchange σ → Prop
  | .write w p candidate answer => p = policy ∧ (env.set p candidate w).1 = answer
  | _ => True

/-- What fails fails in its stage. -/
theorem phase_of_failure {e : Exchange σ} {error : PhaseError} (failed : e.failure? = some error) :
    e.phase? = some error.phase := by
  rcases e with ⟨_, _ | _⟩ | ⟨_, _ | _⟩ | ⟨_, _, _, _ | _⟩ | ⟨_, _, _ | _⟩ | ⟨_, _, _ | _⟩ |
    ⟨_, _, _ | _⟩ <;> cases failed <;> rfl

/-- Nothing is committed but in the stage that moves the machine. -/
theorem length_committed_le (es : List (Exchange σ)) :
    (es.filterMap committed?).length ≤ (es.filterMap phase?).count .fsm := by
  induction es with
  | nil => simp
  | cons e es ih =>
    rcases e with ⟨_, _⟩ | ⟨_, _⟩ | ⟨_, _, _, _ | _⟩ | ⟨_, _, _⟩ | ⟨_, _, _⟩ | ⟨_, _, _⟩ <;>
      simp [List.filterMap_cons, committed?, phase?] <;> omega

end Exchange

/-- Asks, and notes the question with its answer. -/
def minuted {ε α : Type} (note : σ → Except ε α → Exchange σ) (ask : σ → Except ε α × σ) :
    σ × List (Exchange σ) → Except ε α × (σ × List (Exchange σ)) := fun w =>
  let (answer, v) := ask w.1
  (answer, (v, w.2 ++ [note w.1 answer]))

/-- The same collaborators, with minutes taken. -/
def Collaborators.minuted (who : Collaborators σ) : Collaborators (σ × List (Exchange σ)) where
  updateContext tickId := AgentState.minuted (fun _ => .context tickId) (who.updateContext tickId)
  checkBios context := AgentState.minuted (fun _ => .bios context) (who.checkBios context)
  evaluate x context := AgentState.minuted (fun _ => .proposals x context) (who.evaluate x context)
  decide x ranked := AgentState.minuted (fun _ => .decision x ranked) (who.decide x ranked)
  engageSafeMode tickId e :=
    AgentState.minuted (fun _ => .safeMode tickId e) (who.engageSafeMode tickId e)

/-- The same way to the store and to the clocks, with minutes taken of the
writes. -/
def Environment.minuted (env : Environment σ) : Environment (σ × List (Exchange σ)) :=
  { env.beside with
    set := fun policy candidate =>
      AgentState.minuted (fun w => .write w policy candidate) (env.set policy candidate) }

/-! ## Stages in turn -/

/-- Minutes of stages that come in turn, one question for each.  The first
failure is the last question.  Whoever is given a snapshot is given the one
that was committed before, `x?` if it was committed before all of them. -/
inductive InTurn (policy : VersionPolicy) (env : Environment σ) :
    List Phase → Option Snapshot → List (Exchange σ) → Except PhaseError (Option Snapshot) →
      Prop where
  | done (x? : Option Snapshot) : InTurn policy env [] x? [] (.ok x?)
  | failed {p : Phase} {rest : List Phase} {x? : Option Snapshot} {e : Exchange σ}
      {error : PhaseError} (phase : e.phase? = some p) (failure : e.failure? = some error)
      (given : ∀ x, e.given? = some x → x? = some x) (faithful : e.Faithful policy env) :
      InTurn policy env (p :: rest) x? [e] (.error error)
  | passed {p : Phase} {rest : List Phase} {x? : Option Snapshot} {e : Exchange σ}
      {es : List (Exchange σ)} {r : Except PhaseError (Option Snapshot)}
      (phase : e.phase? = some p) (passes : e.failure? = none)
      (given : ∀ x, e.given? = some x → x? = some x) (faithful : e.Faithful policy env)
      (more : InTurn policy env rest (e.committed?.or x?) es r) :
      InTurn policy env (p :: rest) x? (e :: es) r

namespace InTurn

variable {policy : VersionPolicy} {env : Environment σ} {phases : List Phase}
  {x? : Option Snapshot} {es : List (Exchange σ)} {r : Except PhaseError (Option Snapshot)}

/-- Every question belongs to a stage. -/
theorem staged (h : InTurn policy env phases x? es r) : ∀ e ∈ es, e.phase?.isSome = true := by
  induction h with
  | done => simp
  | failed phase => simp [phase]
  | passed phase _ _ _ _ ih => simpa [phase] using ih

/-- What is noted as the answer to a write is the answer to it. -/
theorem faithful (h : InTurn policy env phases x? es r) : ∀ e ∈ es, e.Faithful policy env := by
  induction h with
  | done => simp
  | failed _ _ _ faithful => simpa using faithful
  | passed _ _ _ faithful _ ih => simpa using ⟨faithful, ih⟩

/-- The stages are a part of those that were to come, from the first one on,
and all of them if none failed. -/
theorem phases_prefix (h : InTurn policy env phases x? es r) :
    es.filterMap Exchange.phase? <+: phases ∧
      ∀ y?, r = .ok y? → es.filterMap Exchange.phase? = phases := by
  induction h with
  | done => simp
  | failed phase => simp [phase]
  | passed phase _ _ _ _ ih => simpa [phase] using ih

/-- Whoever is asked is asked after everybody before succeeded. -/
theorem pairwise (h : InTurn policy env phases x? es r) :
    es.Pairwise fun d _ => d.failure? = none := by
  induction h with
  | done => exact .nil
  | failed => exact List.pairwise_singleton _ _
  | passed _ passes _ _ _ ih => exact .cons (fun _ _ => passes) ih

/-- Where the end is no error, nobody failed. -/
theorem passed_of_ok (h : InTurn policy env phases x? es r) {y? : Option Snapshot}
    (ok : r = .ok y?) : ∀ e ∈ es, e.failure? = none := by
  induction h with
  | done => simp
  | failed => cases ok
  | passed _ passes _ _ _ ih => simpa using ⟨passes, ih ok⟩

/-- Where the end is an error, the last one failed with it, and nobody before
did. -/
theorem last_of_error (h : InTurn policy env phases x? es r) {error : PhaseError}
    (failed : r = .error error) :
    ∃ before e, es = before ++ [e] ∧ e.failure? = some error ∧
      ∀ d ∈ before, d.failure? = none := by
  induction h with
  | done => cases failed
  | @failed _ _ _ e _ _ failure =>
    cases failed
    exact ⟨[], e, rfl, failure, by simp⟩
  | @passed _ _ _ e _ _ _ passes _ _ _ ih =>
    obtain ⟨before, last, rfl, failure, fine⟩ := ih failed
    exact ⟨e :: before, last, rfl, failure, by simpa using ⟨passes, fine⟩⟩

/-- A snapshot that somebody is given, or that is left in the end, was
committed before. -/
theorem committed (h : InTurn policy env phases x? es r) {x : Snapshot}
    (given : (∃ e ∈ es, e.given? = some x) ∨ r = .ok (some x)) :
    x? = some x ∨ ∃ e ∈ es, e.committed? = some x := by
  induction h with
  | done => simpa using given
  | failed _ _ told =>
    rcases given with ⟨d, mem, given⟩ | left
    · cases List.mem_singleton.1 mem
      exact .inl (told x given)
    · cases left
  | @passed _ _ x? e es _ _ _ told _ _ ih =>
    -- what the later ones are given was committed here, or before
    have later : e.committed?.or x? = some x ∨ (∃ d ∈ es, d.committed? = some x) →
        x? = some x ∨ ∃ d ∈ e :: es, d.committed? = some x := by
      rintro (here | ⟨d, mem, committed⟩)
      · cases committed : e.committed? with
        | none => exact .inl (by simpa [committed] using here)
        | some y => exact .inr ⟨e, List.mem_cons_self, by simpa [committed] using here⟩
      · exact .inr ⟨d, List.mem_cons_of_mem e mem, committed⟩
    rcases given with ⟨d, mem, given⟩ | left
    · rcases List.mem_cons.1 mem with rfl | mem
      · exact .inl (told x given)
      · exact later (ih (.inl ⟨d, mem, given⟩))
    · exact later (ih (.inr left))

end InTurn

namespace Cycle

/-! ## Stages with minutes -/

/-- A computation of stages, and the same with minutes taken: both end alike,
and what is noted comes in turn.  `left` is the snapshot that an answer
stands for. -/
def Noted {α : Type} (policy : VersionPolicy) (env : Environment σ) (phases : List Phase)
    (x? : Option Snapshot) (left : α → Option Snapshot) (plain : Stage σ α)
    (minuted : Stage (σ × List (Exchange σ)) α) : Prop :=
  ∀ (g : Progress σ) (noted : List (Exchange σ)), ∃ es,
    minuted.run ⟨(g.world, noted), g.timings⟩ =
        ((plain.run g).1, ⟨((plain.run g).2.world, noted ++ es), (plain.run g).2.timings⟩) ∧
      (plain.run g).2.timings.phases = g.timings.phases ++ es.filterMap Exchange.phase? ∧
      InTurn policy env phases x? es ((plain.run g).1.map left)

/-- Work, and the same work with one question noted, which belongs to the
stage and fails if the work does.  `next` is the snapshot that is committed
then. -/
def NotedOnce {α : Type} (policy : VersionPolicy) (env : Environment σ) (p : Phase)
    (x? : Option Snapshot) (next : α → Option Snapshot) (plain : Work σ α)
    (minuted : Work (σ × List (Exchange σ)) α) : Prop :=
  ∀ (w : σ) (noted : List (Exchange σ)), ∃ e : Exchange σ,
    minuted (w, noted) = ((plain w).1, ((plain w).2, noted ++ [e])) ∧
      e.phase? = some p ∧ e.Faithful policy env ∧ (∀ x, e.given? = some x → x? = some x) ∧
      (∀ error, (plain w).1 = .error error → e.failure? = some error) ∧
      ∀ a, (plain w).1 = .ok a → e.failure? = none ∧ e.committed?.or x? = next a

/-- A stage before others is noted before them. -/
theorem Noted.bind {α β : Type} {policy : VersionPolicy} {env : Environment σ} {p : Phase}
    {phases : List Phase} {x? : Option Snapshot} {next : α → Option Snapshot}
    {left : β → Option Snapshot} {work : Work σ α} {work' : Work (σ × List (Exchange σ)) α}
    {rest : α → Stage σ β} {rest' : α → Stage (σ × List (Exchange σ)) β}
    (first : NotedOnce policy env p x? next work work')
    (more : ∀ a, Noted policy env phases (next a) left (rest a) (rest' a)) :
    Noted policy env (p :: phases) x? left (stage env p work >>= rest)
      (stage env.minuted p work' >>= rest') := by
  intro g noted
  obtain ⟨e, worked', phase, faithful, given, failure, passes⟩ := first g.world noted
  rw [run_stage_bind, run_stage_bind, worked']
  have clock : recorded env.minuted p ⟨(g.world, noted), g.timings⟩
      ((work g.world).2, noted ++ [e]) =
        ⟨((work g.world).2, noted ++ [e]), (recorded env p g (work g.world).2).timings⟩ := rfl
  have entered : (recorded env p g (work g.world).2).timings.phases = g.timings.phases ++ [p] := by
    simp [recorded, Timings.record, Timings.phases]
  rcases worked : work g.world with ⟨error | a, w⟩
  · simp only [worked] at clock entered failure ⊢
    refine ⟨[e], by rw [clock]; rfl, by simpa [phase] using entered, ?_⟩
    exact .failed phase (failure error rfl) given faithful
  · simp only [worked] at clock entered passes ⊢
    obtain ⟨passed, committed⟩ := passes a rfl
    obtain ⟨es, same, phases, turn⟩ := more a (recorded env p g w) (noted ++ [e])
    refine ⟨e :: es, ?_, ?_, ?_⟩
    · rw [clock, List.append_cons noted e es]
      exact same
    · rw [phases, entered]
      simp [phase]
    · exact .passed phase passed given faithful (committed ▸ turn)

/-- A collaborator is asked one question. -/
theorem notedOnce_asked {α : Type} {policy : VersionPolicy} {env : Environment σ} {p : Phase}
    {x? : Option Snapshot} {ask : σ → Except String α × σ}
    (note : Except String α → Exchange σ) (phase : ∀ r, (note r).phase? = some p)
    (faithful : ∀ r, (note r).Faithful policy env)
    (given : ∀ r x, (note r).given? = some x → x? = some x)
    (failure : ∀ m, (note (.error m)).failure? = some (.collaborator p m))
    (passes : ∀ a, (note (.ok a)).failure? = none ∧ (note (.ok a)).committed? = none) :
    NotedOnce policy env p x? (fun _ => x?) (asked p ask)
      (asked p (minuted (fun _ => note) ask)) := by
  intro w noted
  rcases answered : ask w with ⟨m | a, v⟩
  · refine ⟨note (.error m), by simp [asked, minuted, answered], phase _, faithful _, given _,
      ?_, ?_⟩
    · intro error h
      simp only [asked, answered, Except.mapError, Except.error.injEq] at h
      rw [← h, failure]
    · intro a h
      simp [asked, answered, Except.mapError] at h
  · refine ⟨note (.ok a), by simp [asked, minuted, answered], phase _, faithful _, given _, ?_, ?_⟩
    · intro error h
      simp [asked, answered, Except.mapError] at h
    · intro a' _
      simp [passes a]

/-- The stage that moves the machine asks for one write. -/
theorem notedOnce_advance (c : Cycle) (env : Environment σ) (k : Conditions)
    (x? : Option Snapshot) :
    NotedOnce c.config.versionPolicy env .fsm x? (fun a => some a.1) (c.advance env k)
      (c.advance env.minuted k) := by
  intro w noted
  have found : read env.minuted (w, noted) = ((read env w).1, ((read env w).2, noted)) := by
    have got : env.minuted.get (w, noted) = ((env.get w).1, ((env.get w).2, noted)) := rfl
    unfold read
    rw [got]
    rcases env.get w with ⟨_ | x, v⟩ <;> rfl
  let v := (env.mark (read env w).2).2
  let next := c.table.step (env.mark (read env w).2).1 (read env w).1 k
  let answer := (env.set c.config.versionPolicy next.1 v).1
  have plain : (c.advance env k w).1 = (answer.map fun x => (x, next.2)).mapError .store := rfl
  refine ⟨.write v c.config.versionPolicy next.1 answer, ?_, rfl, ⟨rfl, rfl⟩,
    fun x given => (by cases given), ?_, ?_⟩
  · simp only [advance, found]
    rfl
  · intro error failed
    rw [plain] at failed
    cases answered : answer with
    | error e =>
      rw [answered] at failed
      cases failed
      rfl
    | ok x =>
      rw [answered] at failed
      cases failed
  · intro a passed
    rw [plain] at passed
    cases answered : answer with
    | error e =>
      rw [answered] at passed
      cases passed
    | ok x =>
      rw [answered] at passed
      cases passed
      exact ⟨rfl, rfl⟩

/-- The stages of a tick are noted in turn. -/
theorem stages_minuted (c : Cycle) (env : Environment σ) (who : Collaborators σ) (tickId : Nat) :
    Noted c.config.versionPolicy env Phase.all none (fun f => some f.snapshot)
      (c.stages env who tickId) (c.stages env.minuted who.minuted tickId) := by
  unfold stages
  refine .bind (notedOnce_asked (.context tickId) (fun _ => rfl) (fun _ => trivial)
    (by rintro _ _ ⟨⟩) (fun _ => rfl) fun _ => ⟨rfl, rfl⟩) fun context => ?_
  refine .bind (notedOnce_asked (.bios context) (fun _ => rfl) (fun _ => trivial)
    (by rintro _ _ ⟨⟩) (fun _ => rfl) fun _ => ⟨rfl, rfl⟩) fun biosOk => ?_
  refine .bind (notedOnce_advance c env _ none) fun moved => ?_
  refine .bind (notedOnce_asked (.proposals moved.1 context) (fun _ => rfl) (fun _ => trivial)
    (fun _ _ given => given) (fun _ => rfl) fun _ => ⟨rfl, rfl⟩) fun ranked => ?_
  refine .bind (notedOnce_asked (.decision moved.1 ranked) (fun _ => rfl) (fun _ => trivial)
    (fun _ _ given => given) (fun _ => rfl) fun _ => ⟨rfl, rfl⟩) fun decision => ?_
  intro g noted
  exact ⟨[], by rw [List.append_nil]; rfl, (List.append_nil _).symm, .done _⟩

end Cycle

/-! ## Ticks with minutes -/

namespace Outcome

/-- The stages that ran. -/
def timings : Outcome → Timings
  | .completed r => r.timings
  | .recovered f => f.timings

/-- The same end, with another word about safe mode. -/
def engaging (engaged : Bool) : Outcome → Outcome
  | .completed r => .completed r
  | .recovered f => .recovered { f with safeModeEngaged := engaged }

end Outcome

/-- What the minutes of a tick say, which ended with an outcome. -/
structure Cycle.Minutes (c : Cycle) (env : Environment σ) (outcome : Outcome)
    (es : List (Exchange σ)) : Prop where
  id : outcome.tickId = c.stats.ticks + 1
  /-- One question for each of the stages that ran, in their order. -/
  timed : es.filterMap Exchange.phase? = outcome.timings.phases
  stages : outcome.timings.phases <+: Phase.all
  /-- Whoever is asked in a stage is asked after the stages before succeeded. -/
  turns : es.Pairwise fun d e => e.phase?.isSome = true →
    d.phase?.isSome = true ∧ d.failure? = none
  faithful : ∀ e ∈ es, e.Faithful c.config.versionPolicy env
  /-- Whoever is given a snapshot is given the one and only that was committed. -/
  given : ∀ e ∈ es, ∀ x, e.given? = some x → es.filterMap Exchange.committed? = [x]
  /-- Nobody failed, and safe mode was not asked for. -/
  completed : ∀ r, outcome = .completed r → r.timings.phases = Phase.all ∧
    es.filterMap Exchange.committed? = [r.snapshot] ∧
    ∀ e ∈ es, e.phase?.isSome = true ∧ e.failure? = none
  /-- The first failure is followed by the request for safe mode. -/
  recovered : ∀ f, outcome = .recovered f → ∃ before e answer,
    es = before ++ [e, .safeMode f.tickId f.error answer] ∧
    (∀ d ∈ before, d.phase?.isSome = true ∧ d.failure? = none) ∧
    e.failure? = some f.error ∧ e.phase? = some f.phase ∧
    f.timings.phases.getLast? = some f.phase ∧ f.safeModeEngaged = Cycle.succeeded answer

/-- Whoever fails ends the tick, in his stage. -/
theorem Cycle.Minutes.failed {c : Cycle} {env : Environment σ} {outcome : Outcome}
    {es : List (Exchange σ)} (h : c.Minutes env outcome es) {e : Exchange σ} (mem : e ∈ es)
    {error : PhaseError} (failure : e.failure? = some error) :
    ∃ f, outcome = .recovered f ∧ f.error = error ∧ e.phase? = some f.phase := by
  cases outcome with
  | completed r =>
    have fine := ((h.completed r rfl).2.2 e mem).2
    rw [failure] at fine
    cases fine
  | recovered f =>
    obtain ⟨before, last, answer, rfl, fine, failed, phase, -⟩ := h.recovered f rfl
    simp only [List.mem_append, List.mem_cons, List.not_mem_nil, or_false] at mem
    rcases mem with mem | rfl | rfl
    · rw [(fine e mem).2] at failure
      cases failure
    · exact ⟨f, rfl, Option.some.inj (failed.symm.trans failure), phase⟩
    · cases failure

namespace InTurn

variable {c : Cycle} {env : Environment σ} {es : List (Exchange σ)}
  {r : Except PhaseError (Option Snapshot)}

/-- In the stages of a tick the snapshot that somebody is given, or that is
left in the end, is all that was committed. -/
theorem committed_once {policy : VersionPolicy} (h : InTurn policy env Phase.all none es r)
    {x : Snapshot} (given : (∃ e ∈ es, e.given? = some x) ∨ r = .ok (some x)) :
    es.filterMap Exchange.committed? = [x] := by
  obtain ⟨e, mem, committed⟩ := (h.committed given).resolve_left (by simp)
  have mem : x ∈ es.filterMap Exchange.committed? := List.mem_filterMap.2 ⟨e, mem, committed⟩
  have one : (es.filterMap Exchange.committed?).length ≤ 1 :=
    Nat.le_trans (Exchange.length_committed_le es) (h.phases_prefix.1.sublist.count_le Phase.fsm)
  obtain ⟨y, ys⟩ := List.length_eq_one_iff.1 (Nat.le_antisymm one (List.length_pos_of_mem mem))
  rw [ys, List.mem_singleton] at mem
  rw [ys, mem]

/-- The minutes of a tick that goes through all stages. -/
theorem minutes_of_completed (h : InTurn c.config.versionPolicy env Phase.all none es r)
    {report : TickReport} (left : r = .ok (some report.snapshot))
    (id : report.tickId = c.stats.ticks + 1)
    (timed : es.filterMap Exchange.phase? = report.timings.phases) :
    c.Minutes env (.completed report) es := by
  have fine : ∀ e ∈ es, e.phase?.isSome = true ∧ e.failure? = none := fun e mem =>
    ⟨h.staged e mem, h.passed_of_ok left e mem⟩
  refine ⟨id, timed, timed ▸ h.phases_prefix.1, ?_, h.faithful,
    fun e mem x given => h.committed_once (.inl ⟨e, mem, given⟩), ?_, fun f h => (by cases h)⟩
  · exact List.pairwise_of_forall_mem_list fun d mem _ _ _ => fine d mem
  · rintro _ ⟨⟩
    exact ⟨timed ▸ h.phases_prefix.2 _ left, h.committed_once (.inr left), fine⟩

/-- The minutes of a tick that ends early. -/
theorem minutes_of_recovered (h : InTurn c.config.versionPolicy env Phase.all none es r)
    {failure : TickFailure} (failed : r = .error failure.error)
    (id : failure.tickId = c.stats.ticks + 1) (phase : failure.phase = failure.error.phase)
    (timed : es.filterMap Exchange.phase? = failure.timings.phases)
    {answer : Except String Unit} (engaged : failure.safeModeEngaged = Cycle.succeeded answer) :
    c.Minutes env (.recovered failure)
      (es ++ [.safeMode failure.tickId failure.error answer]) := by
  have same : (es ++ [Exchange.safeMode failure.tickId failure.error answer]).filterMap
      Exchange.phase? = es.filterMap Exchange.phase? := by
    simp [List.filterMap_append, Exchange.phase?]
  have commits : (es ++ [Exchange.safeMode failure.tickId failure.error answer]).filterMap
      Exchange.committed? = es.filterMap Exchange.committed? := by
    simp [List.filterMap_append, Exchange.committed?]
  refine ⟨id, same.trans timed, timed ▸ h.phases_prefix.1, ?_, ?_, ?_,
    fun r h => (by cases h), ?_⟩
  · -- nobody is asked in a stage after safe mode was asked for
    refine List.pairwise_append.2 ⟨?_, List.pairwise_singleton _ _, ?_⟩
    · exact h.pairwise.imp_of_mem fun mem _ passed _ => ⟨h.staged _ mem, passed⟩
    · rintro d - e mem staged
      cases List.mem_singleton.1 mem
      cases staged
  · intro e mem
    rcases List.mem_append.1 mem with mem | mem
    · exact h.faithful e mem
    · cases List.mem_singleton.1 mem
      trivial
  · intro e mem x given
    rw [commits]
    rcases List.mem_append.1 mem with mem | mem
    · exact h.committed_once (.inl ⟨e, mem, given⟩)
    · cases List.mem_singleton.1 mem
      cases given
  · rintro _ ⟨⟩
    obtain ⟨before, e, rfl, error, fine⟩ := h.last_of_error failed
    have staged : e.phase? = some failure.phase := by
      rw [phase]
      exact Exchange.phase_of_failure error
    refine ⟨before, e, answer, by simp, fun d mem => ⟨h.staged d (by simp [mem]), fine d mem⟩,
      error, staged, ?_, engaged⟩
    rw [← timed, List.filterMap_append]
    simp [staged]

end InTurn

namespace Cycle

/-- Taking minutes of a tick changes nothing but that there are some. -/
theorem tick_minuted (c : Cycle) (env : Environment σ) (who : Collaborators σ) (w : σ) :
    ∃ es, c.tick env.minuted who.minuted (w, []) =
        ((c.tick env who w).1, (c.tick env who w).2.1, ((c.tick env who w).2.2, es)) ∧
      c.Minutes env (c.tick env who w).1 es := by
  obtain ⟨es, same, timed, turn⟩ :=
    c.stages_minuted env who (c.stats.ticks + 1) ⟨w, .empty⟩ []
  rcases ran : (c.stages env who (c.stats.ticks + 1)).run ⟨w, .empty⟩ with ⟨error | f, g⟩
  · rw [ran] at same timed turn
    have timed : es.filterMap Exchange.phase? = g.timings.phases := by
      simpa [Timings.empty, Timings.phases] using timed.symm
    refine ⟨es ++ [.safeMode (c.stats.ticks + 1) error
      (who.engageSafeMode (c.stats.ticks + 1) error g.world).1], ?_, ?_⟩
    · simp only [tick, ran]
      rw [same]
      rfl
    · simp only [tick, ran]
      exact turn.minutes_of_recovered rfl rfl rfl timed rfl
  · rw [ran] at same timed turn
    have timed : es.filterMap Exchange.phase? = g.timings.phases := by
      simpa [Timings.empty, Timings.phases] using timed.symm
    refine ⟨es, ?_, ?_⟩
    · simp only [tick, ran]
      rw [same]
      rfl
    · simp only [tick, ran]
      exact turn.minutes_of_completed rfl rfl timed

/-- What safe mode answers changes nothing but the word about it. -/
theorem tick_engaging (c : Cycle) (env : Environment σ) (who : Collaborators σ)
    (answer : Nat → PhaseError → σ → Except String Unit) (w : σ) :
    let other := { who with
      engageSafeMode := fun tickId e v => (answer tickId e v, (who.engageSafeMode tickId e v).2) }
    (c.tick env other w).2 = (c.tick env who w).2 ∧
      (c.tick env other w).1.engaging false = (c.tick env who w).1.engaging false := by
  intro other
  have stages : c.stages env other (c.stats.ticks + 1) = c.stages env who (c.stats.ticks + 1) := rfl
  rcases ran : (c.stages env who (c.stats.ticks + 1)).run ⟨w, .empty⟩ with ⟨error | f, g⟩
  · simp only [tick, stages, ran]
    exact ⟨rfl, rfl⟩
  · simp only [tick, stages, ran, and_self]

end Cycle

/-- A tick among other writers, with collaborators who do as they please.

Its minutes say who was asked, in the order of the stages, each after the ones
before succeeded; what was committed, which is what those who are given a
snapshot are given and what is reported; and that safe mode was asked for once
if the tick failed, and else not.  What was committed is current when the tick
has its turn, and follows everything committed before; a refusal of the store
ends the tick in the stage that moves the machine.  What safe mode answers
changes nothing but the word about it. -/
theorem tick_asks_in_turn {τ : Type} (c : Cycle) (who : Collaborators (Contest × τ))
    (w : Contest × τ) :
    let tick := c.tick Contest.environment.beside who w
    (∃ es, c.tick Contest.environment.beside.minuted who.minuted (w, []) =
        (tick.1, tick.2.1, (tick.2.2, es)) ∧
      c.Minutes Contest.environment.beside tick.1 es ∧
      (∀ v policy candidate x, Exchange.write v policy candidate (.ok x) ∈ es →
        let entered := v.1.gate.run.step (.write v.1.gate.supply.stamp.1 policy candidate)
        entered.store.current = some x ∧
          Log.commits entered.log = Log.commits v.1.gate.run.log ++ [x]) ∧
      ∀ v policy candidate why, Exchange.write v policy candidate (.error why) ∈ es →
        ∃ f, tick.1 = .recovered f ∧ f.error = .store why ∧ f.phase = .fsm) ∧
    ∀ answer : Nat → PhaseError → Contest × τ → Except String Unit,
      let other := { who with
        engageSafeMode := fun tickId e v => (answer tickId e v, (who.engageSafeMode tickId e v).2) }
      (c.tick Contest.environment.beside other w).2 = tick.2 ∧
        (c.tick Contest.environment.beside other w).1.engaging false = tick.1.engaging false := by
  intro tick
  obtain ⟨es, same, minutes⟩ := c.tick_minuted Contest.environment.beside who w
  refine ⟨⟨es, same, minutes, fun v policy candidate x mem => ?_,
    fun v policy candidate why mem => ?_⟩,
    fun answer => c.tick_engaging Contest.environment.beside who answer w⟩
  · obtain ⟨current, commits, -⟩ := Contest.set_holds (minutes.faithful _ mem).2
    exact ⟨current, commits⟩
  · obtain ⟨f, ended, error, phase⟩ := minutes.failed mem rfl
    exact ⟨f, ended, error, (Option.some.inj phase).symm⟩

/-- The write of a tick that is overtaken is refused, and safe mode is asked
for. -/
example : ((Cycle.under .strict).tick Contest.environment.minuted agreeable.minuted
    (contested, [])).2.2.2.map Exchange.phase? =
      [some .updateContext, some .biosCheck, some .fsm, none] := by decide

end AgentState
