/-
AgentState.Proofs.Store.Quiet — what happens at a store while nobody writes.

Readers, subscribers and receivers may act at any time, and a fan-out may
go on.  None of this changes what is current, or counts a conflict.

* `Act.isAside` — the acts of others than the writer.
* `Run.Later` — a later moment of the same run.
* `Run.Quiet` — from one moment to a later one without a writer's turn
  between them.
* `Run.quiet_aside`, `Run.quiet_tell`, `Run.quiet_settle` — the steps that
  are quiet.
-/
import AgentState.Proofs.Store.Run

namespace AgentState

/-- Whether an act is none of the writer's: a reader's, a subscriber's or a
receiver's. -/
def Act.isAside : Act → Bool
  | .write _ _ _ | .begin _ | .tell | .settle => false
  | .read | .subscribe _ _ | .unsubscribe _ | .receive _ | .drain _ | .detach _ => true

namespace Event

/-- Whether an event is no writer's turn. -/
def isQuiet : Event → Bool
  | .written _ _ _ | .begun _ _ => false
  | _ => true

/-- Whether an event is no writer's turn and no offer. -/
def isMute : Event → Bool
  | .written _ _ _ | .begun _ _ | .told _ _ _ => false
  | _ => true

theorem isQuiet_of_isMute {e : Event} (h : e.isMute = true) : e.isQuiet = true := by
  cases e <;> first | rfl | cases h

theorem published?_of_isQuiet {e : Event} (h : e.isQuiet = true) : e.published? = none := by
  cases e <;> first | rfl | cases h

theorem committed?_of_isQuiet {e : Event} (h : e.isQuiet = true) : e.committed? = none := by
  cases e <;> first | rfl | cases h

/-- What commits nothing publishes nothing. -/
theorem published?_of_idle {e : Event} (h : e.committed? = none) : e.published? = none := by
  cases e with
  | written policy x v => cases v <;> first | rfl | cases h
  | _ => exact h

end Event

namespace Log

/-- Quiet events commit nothing. -/
theorem commits_of_quiet {later : Log} (quiet : ∀ e ∈ later, e.isQuiet = true) (past : Log) :
    commits (later ++ past) = commits past := by
  induction later with
  | nil => rfl
  | cons e later ih =>
    have none := Event.committed?_of_isQuiet (quiet e List.mem_cons_self)
    rw [List.cons_append, commits_cons_quiet none]
    exact ih fun e' mem => quiet e' (List.mem_cons_of_mem e mem)

/-- What holds of every event held before the latest ones. -/
theorem Each.past {P : Event → Log → Prop} {past : Log} :
    ∀ {later : Log}, Each P (later ++ past) → Each P past
  | [], h => h
  | _ :: _, h => Each.past h.2

/-- What holds of every writer's turn holds after quiet events as before. -/
theorem Each.of_quiet {P : Event → Log → Prop}
    (idle : ∀ e past, e.isQuiet = true → P e past) {later : Log}
    (quiet : ∀ e ∈ later, e.isQuiet = true) {past : Log} (h : Each P past) :
    Each P (later ++ past) := by
  induction later with
  | nil => exact h
  | cons e later ih =>
    exact ⟨idle e _ (quiet e List.mem_cons_self),
      ih fun e' mem => quiet e' (List.mem_cons_of_mem e mem)⟩

end Log

namespace Run

/-- `r'` is a later moment of the same run, or the same moment. -/
def Later (r r' : Run) : Prop := ∃ acts, r' = r.after acts

namespace Later

variable {r r' r'' : Run}

theorem refl (r : Run) : Later r r := ⟨[], rfl⟩

theorem trans (h : Later r r') (h' : Later r' r'') : Later r r'' := by
  obtain ⟨acts, rfl⟩ := h
  obtain ⟨more, rfl⟩ := h'
  exact ⟨acts ++ more, (after_append r acts more).symm⟩

theorem step (r : Run) (a : Act) : Later r (r.step a) := ⟨[a], rfl⟩

end Later

/-- Nobody had a writer's turn between two moments, and all that happened
between them is of a kind. -/
structure Quiet (kind : Event → Bool) (r r' : Run) : Prop where
  current : r'.store.current = r.store.current
  instanceId : r'.store.instanceId = r.store.instanceId
  conflicts : r'.store.counters.versionConflicts = r.store.counters.versionConflicts
  rejected : r'.store.counters.rejectedSets = r.store.counters.rejectedSets
  log : ∃ later, r'.log = later ++ r.log ∧ ∀ e ∈ later, kind e = true

namespace Quiet

variable {kind : Event → Bool} {r r' r'' : Run}

theorem refl (kind : Event → Bool) (r : Run) : Quiet kind r r :=
  ⟨rfl, rfl, rfl, rfl, [], rfl, fun _ mem => by cases mem⟩

theorem trans (h : Quiet kind r r') (h' : Quiet kind r' r'') : Quiet kind r r'' := by
  obtain ⟨later, log, quiet⟩ := h.log
  obtain ⟨later', log', quiet'⟩ := h'.log
  refine ⟨h'.current.trans h.current, h'.instanceId.trans h.instanceId,
    h'.conflicts.trans h.conflicts, h'.rejected.trans h.rejected, later' ++ later, ?_, ?_⟩
  · rw [log', log, List.append_assoc]
  · intro e mem
    rcases List.mem_append.1 mem with mem | mem
    · exact quiet' e mem
    · exact quiet e mem

theorem mono {wider : Event → Bool} (le : ∀ e, kind e = true → wider e = true)
    (h : Quiet kind r r') : Quiet wider r r' := by
  obtain ⟨later, log, quiet⟩ := h.log
  exact ⟨h.current, h.instanceId, h.conflicts, h.rejected, later, log,
    fun e mem => le e (quiet e mem)⟩

/-- Where nobody was told anything either. -/
theorem of_mute (h : Quiet Event.isMute r r') : Quiet Event.isQuiet r r' :=
  h.mono fun _ => Event.isQuiet_of_isMute

/-- One event of the kind. -/
theorem of_event {e : Event} (log : r'.log = e :: r.log) (quiet : kind e = true)
    (current : r'.store.current = r.store.current)
    (instanceId : r'.store.instanceId = r.store.instanceId)
    (conflicts : r'.store.counters.versionConflicts = r.store.counters.versionConflicts)
    (rejected : r'.store.counters.rejectedSets = r.store.counters.rejectedSets) :
    Quiet kind r r' := by
  refine ⟨current, instanceId, conflicts, rejected, [e], log, fun e' mem => ?_⟩
  rw [List.mem_singleton.1 mem]
  exact quiet

end Quiet

/-- Others' acts are quiet, tell nobody and leave the fan-out alone. -/
theorem quiet_aside (r : Run) {a : Act} (aside : a.isAside = true) :
    Quiet Event.isMute r (r.step a) ∧ (r.step a).flight = r.flight := by
  cases a with
  | write | begin | tell | settle => cases aside
  | read => exact ⟨.of_event rfl rfl rfl rfl rfl rfl, rfl⟩
  | unsubscribe id => exact ⟨.of_event rfl rfl rfl rfl rfl rfl, rfl⟩
  | receive id => exact ⟨.of_event rfl rfl rfl rfl rfl rfl, rfl⟩
  | drain id => exact ⟨.of_event rfl rfl rfl rfl rfl rfl, rfl⟩
  | detach id => exact ⟨.of_event rfl rfl rfl rfl rfl rfl, rfl⟩
  | subscribe label capacity =>
    obtain ⟨current, conflicts, rejected⟩ := Store.subscribe_versions r.store label capacity
    have instanceId := Store.subscribe_instanceId r.store label capacity
    simp only [step]
    revert current conflicts rejected instanceId
    rcases r.store.subscribe label capacity with ⟨why | id, store⟩ <;>
      intro current conflicts rejected instanceId <;>
      exact ⟨.of_event rfl rfl current instanceId conflicts rejected, rfl⟩

theorem quiet_asides :
    ∀ (acts : List Act) (r : Run), (∀ a ∈ acts, a.isAside = true) →
      Quiet Event.isMute r (r.after acts) ∧ (r.after acts).flight = r.flight
  | [], r, _ => ⟨.refl _ r, rfl⟩
  | a :: rest, r, asides => by
      obtain ⟨quiet, flight⟩ := quiet_aside r (asides a List.mem_cons_self)
      obtain ⟨quiet', flight'⟩ :=
        quiet_asides rest (r.step a) fun b mem => asides b (List.mem_cons_of_mem a mem)
      exact ⟨quiet.trans quiet', flight'.trans flight⟩

/-- An offer is quiet. -/
theorem quiet_tell (r : Run) : Quiet Event.isQuiet r (r.step .tell) := by
  simp only [step]
  split
  · exact .refl _ r
  · split
    · exact .refl _ r
    · exact .of_event rfl rfl rfl rfl rfl rfl

/-- The accounting is quiet and tells nobody. -/
theorem quiet_settle (r : Run) : Quiet Event.isMute r (r.step .settle) := by
  simp only [step]
  split
  · exact .refl _ r
  · split
    · exact .of_event rfl rfl rfl rfl rfl rfl
    · exact .refl _ r

end Run

end AgentState
