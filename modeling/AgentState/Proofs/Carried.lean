/-
AgentState.Proofs.Carried — records whose points of time are carried over.

No text names a leap second inside a minute.  A record that holds one is
written like another record, which has the ordinary second behind it in that
place and is the same everywhere else.

* `carried` — that other record, of steps, histories and snapshots, as they
  are and as peers exchange them.
* `walls` — the points of time in a record; `carried_eq_self_iff` — the record
  is its own other exactly when each of them is regular.
* `WireSnapshot.ofSnapshot_carried`, `WireSnapshot.toSnapshot_carried` — what
  peers exchange is carried over with what they keep.
-/
import AgentState.Wire.Record
import AgentState.Proofs.Text.Timestamp

namespace AgentState

theorem WallTime.carried_epoch : WallTime.epoch.carried = .epoch := by decide

namespace Transition

/-- The step with its time carried over. -/
def carried (t : Transition) : Transition := { t with wall := t.wall.carried }

theorem carried_eq_self_iff {t : Transition} : t.carried = t ↔ t.wall.IsRegular := by
  rw [← WallTime.carried_eq_self_iff]
  constructor
  · exact congrArg Transition.wall
  · intro same
    rw [carried, same]

end Transition

namespace History

/-- The times of the steps. -/
def walls (h : History) : List WallTime := h.transitions.map Transition.wall

/-- The history with all times carried over. -/
def carried (h : History) : History := ⟨h.transitions.map Transition.carried⟩

theorem carried_eq_self_iff {h : History} : h.carried = h ↔ ∀ t ∈ h.walls, t.IsRegular := by
  have steps : h.transitions.map Transition.carried = h.transitions ↔
      ∀ t ∈ h.transitions, t.carried = t := by
    simpa using List.map_inj_left (l := h.transitions) (f := Transition.carried) (g := id)
  calc h.carried = h
    _ ↔ h.transitions.map Transition.carried = h.transitions :=
      ⟨congrArg History.transitions, fun same => by rw [carried, same]⟩
    _ ↔ ∀ t ∈ h.transitions, t.wall.IsRegular := by
      simp only [steps, Transition.carried_eq_self_iff]
    _ ↔ ∀ t ∈ h.walls, t.IsRegular := List.forall_mem_map.symm

end History

namespace Snapshot

/-- The times in a snapshot: its own and those of its history. -/
def walls (s : Snapshot) : List WallTime := s.wall :: s.history.walls

/-- The snapshot with all times carried over. -/
def carried (s : Snapshot) : Snapshot :=
  { s with wall := s.wall.carried, history := s.history.carried }

theorem carried_eq_self_iff {s : Snapshot} : s.carried = s ↔ ∀ t ∈ s.walls, t.IsRegular := by
  rw [walls, List.forall_mem_cons, ← History.carried_eq_self_iff, ← WallTime.carried_eq_self_iff]
  constructor
  · intro same
    exact ⟨congrArg Snapshot.wall same, congrArg Snapshot.history same⟩
  · rintro ⟨wall, history⟩
    rw [carried, wall, history]

/-- Nothing is left to carry over. -/
theorem isRegular_of_mem_carried (s : Snapshot) : ∀ t ∈ s.carried.walls, t.IsRegular := by
  simp [walls, carried, History.walls, History.carried, Transition.carried,
    WallTime.isRegular_carried]

/-- An answer that is carried over is the snapshot itself exactly if every leap
second in it ends a minute. -/
theorem ok_carried_iff {ε : Type} {s : Snapshot} :
    (.ok s.carried : Except ε Snapshot) = .ok s ↔ ∀ t ∈ s.walls, t.IsRegular := by
  rw [Except.ok.injEq, carried_eq_self_iff]

end Snapshot

/-! ## What peers exchange -/

/-- The step with its time carried over. -/
def WireTransition.carried (w : WireTransition) : WireTransition :=
  { w with wall := w.wall.carried }

namespace WireSnapshot

/-- The record with all times carried over. -/
def carried (w : WireSnapshot) : WireSnapshot :=
  { w with wall := w.wall.carried, history := w.history.map WireTransition.carried }

theorem ofSnapshot_carried (s : Snapshot) : ofSnapshot s.carried = (ofSnapshot s).carried := by
  simp [ofSnapshot, Snapshot.carried, carried, History.carried, WireTransition.ofTransition,
    WireTransition.carried, Transition.carried]

theorem toSnapshot_carried (ids : FreshIds) (w : WireSnapshot) :
    w.carried.toSnapshot ids = (w.toSnapshot ids).carried := by
  simp [toSnapshot, Snapshot.carried, carried, History.carried, WireTransition.toTransition,
    WireTransition.carried, Transition.carried]

end WireSnapshot

end AgentState
