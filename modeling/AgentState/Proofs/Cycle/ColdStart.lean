/-
AgentState.Proofs.Cycle.ColdStart — who begins a store.

A cold start looks whether there is a snapshot while it has the gate, and
commits one before it gives the gate back.  So it makes no difference how
many come, in which order, and what they read before they came.

* `Run.commits_before_cold` — a cold start is the first commit.
* `Run.cold_once` — there is no other one.
* `one_cold_start` — the statement over every run, with calls that wait at the
  gate among others.
-/
import AgentState.Proofs.Cycle.Contest
import AgentState.Proofs.Store.Soundness

namespace AgentState

namespace Run

variable {config : StoreConfig} {instanceId : String} {started : Stamp} {acts : List Act}

/-- Nothing is committed before a cold start. -/
theorem commits_before_cold {x : Snapshot} {later past : Log}
    (split : ((start config instanceId started).after acts).log =
      later ++ .begun x true :: past) :
    Log.commits past = [] ∧ ∃ mark, x = .coldStart mark instanceId := by
  have mem : Event.begun x true ∈ ((start config instanceId started).after acts).log := by
    rw [split]
    exact List.mem_append_right _ List.mem_cons_self
  obtain ⟨mark, cold⟩ := (sound_after config instanceId started acts).own x mem
  refine ⟨?_, mark, cold⟩
  rcases (ordered_after config instanceId started acts).events.at split x rfl with
    ⟨-, older⟩ | ⟨unpublished, -⟩
  · -- nothing is older than version 0
    refine List.eq_nil_iff_forall_not_mem.2 fun y stored => ?_
    have before := older y stored
    rw [cold, UInt64.lt_iff_toNat_lt] at before
    exact Nat.not_lt_zero _ before
  · cases unpublished

/-- There is one cold start at most. -/
theorem cold_once {x : Snapshot} {later past : Log}
    (split : ((start config instanceId started).after acts).log =
      later ++ .begun x true :: past) (y : Snapshot) :
    Event.begun y true ∉ later ++ past := by
  intro mem
  rcases List.mem_append.1 mem with mem | mem
  · obtain ⟨newer, between, rfl⟩ := List.append_of_mem mem
    rw [List.append_assoc, List.cons_append] at split
    have first := (commits_before_cold split).1
    obtain ⟨more, commits⟩ := Log.commits_append between (.begun x true :: past)
    rw [commits, Log.commits_cons (x := x) rfl] at first
    simp at first
  · obtain ⟨between, before, rfl⟩ := List.append_of_mem mem
    have first := (commits_before_cold split).1
    obtain ⟨more, commits⟩ := Log.commits_append between (.begun y true :: before)
    rw [commits, Log.commits_cons (x := y) rfl] at first
    simp at first

/-- To begin a store that is begun changes nothing about it. -/
theorem step_begin_of_begun {r : Run} {c : Snapshot} (begun : r.store.current = some c)
    (mark : Mark) : (r.step (.begin mark)).store = r.store := by
  cases flight : r.flight with
  | some f => simp only [step, flight]
  | none => simp only [step, flight, Store.coldStart, begun]

end Run

/-- Who begins a store, over every run of a new store and every call among
others.

A cold start is the first commit, in the starting state, with version 0 and
the identifier of the instance, and there is no other one.  Once there is a
snapshot, to begin the store changes nothing about it.

A call that finds others at the gate waits for it; `w.gate` is the moment at
which it has it, whatever others did before.  Only if the store is empty then,
the call commits a cold start; if not, it answers what is current, leaves the
store as it is, and all that changes before it ends is the others' doing.
What is answered is current from that moment until the call ends, and nobody
else has a turn in between.  The same holds of a write that is not refused,
and a tick starts from what is current as it reads, also if it found the store
empty and somebody else wrote before it had the gate. -/
theorem one_cold_start (config : StoreConfig) (instanceId : String) (started : Stamp)
    (acts : List Act) :
    let r := (Run.start config instanceId started).after acts
    (∀ x later past, r.log = later ++ .begun x true :: past →
      Log.commits past = [] ∧ (∀ y, Event.begun y true ∉ later ++ past) ∧
      (∃ mark, x = .coldStart mark instanceId) ∧
      x.version = 0 ∧ x.state = .booting ∧ x.instanceId = instanceId) ∧
    (∀ c mark, r.store.current = some c → (r.step (.begin mark)).store = r.store) ∧
    ∀ (supply : Supply) (now : Nat) (pauses : List Pause) (others : List (List Act)),
      let w : Contest := ⟨⟨r, supply, now, pauses⟩, others⟩
      let held := w.gate.run
      let begun := held.step (.begin w.gate.supply.mark.1)
      (Run.Later r held ∧ held.flight = none) ∧
      (begun.store.current = some w.begin.1 ∧
        Run.Quiet Event.isQuiet begun w.begin.2.scene.run) ∧
      (held.store.current = none →
        Log.commits held.log = [] ∧ w.begin.1 = .coldStart w.gate.supply.mark.1 instanceId) ∧
      (∀ c, held.store.current = some c →
        w.begin.1 = c ∧ begun.store = held.store ∧
        ∃ aside, (∀ a ∈ aside, a.isAside = true) ∧
          w.begin.2.scene.run.store = (begun.after aside).store) ∧
      (∀ policy x y, (w.set policy x).1 = .ok y →
        let written := held.step (.write w.gate.supply.stamp.1 policy x)
        written.store.current = some y ∧
        Log.commits written.log = Log.commits held.log ++ [y] ∧
        Run.Quiet Event.isQuiet written (w.set policy x).2.scene.run) ∧
      w.reading.store.current = some (Cycle.read Contest.environment w).1 := by
  intro r
  refine ⟨fun x later past split => ?_, fun c mark begun => Run.step_begin_of_begun begun mark,
    fun supply now pauses others => ?_⟩
  · obtain ⟨first, mark, cold⟩ := Run.commits_before_cold split
    exact ⟨first, Run.cold_once split, ⟨mark, cold⟩, by rw [cold]; rfl, by rw [cold]; rfl,
      by rw [cold]; rfl⟩
  intro w held begun
  refine ⟨w.gate_free, w.begin_holds, fun empty => ?_,
    fun c filled => Contest.begin_of_begun filled,
    fun policy x y answered => Contest.set_holds answered, w.read_reading.1⟩
  · -- what has the gate is a moment of a run of the same store
    obtain ⟨⟨more, moment⟩, -⟩ := w.gate_free
    have moment : w.gate.run = (Run.start config instanceId started).after (acts ++ more) := by
      rw [moment, Run.after_append]
    refine ⟨?_, ?_⟩
    · rw [show held = _ from moment] at empty ⊢
      exact (Run.ordered_after config instanceId started _).commits_nil empty
    · have home : held.store.instanceId = instanceId := by
        rw [show held = _ from moment]
        exact (Run.sound_after config instanceId started _).instanceId
      have answer : w.begin.1 = (held.store.coldStart w.gate.supply.mark.1).1.snapshot := rfl
      rw [answer, ← home]
      simp [Store.coldStart, empty]

end AgentState
