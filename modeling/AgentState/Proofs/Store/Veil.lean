/-
AgentState.Proofs.Store.Veil — snapshots without their clocks, under other
identifiers.

Identifiers are made up as they are needed, and clocks are read.  A store
compares identifiers with each other and with the empty one, and looks at no
clock; so what becomes of a candidate stays the same when the identifiers are
replaced by others and the clocks are struck out.

* `Veil` — a replacement of identifiers that keeps them apart.
* `Snapshot.veiled` — the snapshot as it is seen through a veil.
* `judge_veiled` — the verdict on a candidate that is seen so is the verdict
  on it, seen so.
-/
import AgentState.Proofs.Store.Verdict

namespace AgentState

/-- A replacement of identifiers that keeps different ones apart, and the
empty one as it is. -/
structure Veil where
  name : String → String
  apart : ∀ a b, name a = name b → a = b
  empty : name "" = ""

/-- The veil that replaces nothing. -/
def Veil.plain : Veil := ⟨id, fun _ _ same => same, rfl⟩

/-- The stamp that stands for all stamps. -/
def Stamp.blank : Stamp := ⟨0, .epoch⟩

/-- A recorded step without its clocks. -/
def Transition.timeless (t : Transition) : Transition :=
  { t with monotonic := 0, wall := .epoch }

/-- Recorded steps without their clocks. -/
def History.timeless (h : History) : History := ⟨h.transitions.map Transition.timeless⟩

namespace Snapshot

/-- A snapshot without its clocks, under the identifiers of a veil. -/
def veiled (v : Veil) (x : Snapshot) : Snapshot :=
  { x with
    monotonic := 0
    wall := .epoch
    id := v.name x.id
    parentId := x.parentId.map v.name
    instanceId := v.name x.instanceId
    history := x.history.timeless }

variable (v : Veil) (x c : Snapshot)

@[simp] theorem veiled_version : (x.veiled v).version = x.version := rfl

/-- No other identifier takes the place of the empty one. -/
theorem name_eq_empty (id : String) : v.name id = "" ↔ id = "" := by
  constructor
  · intro empty
    exact v.apart id "" (empty.trans v.empty.symm)
  · rintro rfl
    exact v.empty

@[simp] theorem veiled_defect : (x.veiled v).defect? = x.defect? := by
  simp [defect?, veiled, name_eq_empty]

/-- A child names its parent through a veil as without it. -/
theorem veiled_isDerivedFrom : (x.veiled v).isDerivedFrom (c.veiled v) = x.isDerivedFrom c := by
  have injective : Function.Injective v.name := fun a b => v.apart a b
  rw [Bool.eq_iff_iff]
  simp only [isDerivedFrom, veiled, beq_iff_eq]
  rw [← Option.map_some, (Option.map_injective injective).eq_iff]

@[simp] theorem veiled_refreshes : (x.veiled v).refreshes (c.veiled v) = x.refreshes c := by
  unfold refreshes
  rw [veiled_isDerivedFrom]
  rfl

end Snapshot

/-- A verdict as it is seen through a veil. -/
def Verdict.veiled (v : Veil) : Verdict → Verdict
  | .refuse why => .refuse why
  | .refresh x => .refresh (x.veiled v)
  | .publish x repaired => .publish (x.veiled v) repaired

/-- What becomes of a candidate does not depend on the identifiers, as long as
they are kept apart, nor on the clocks. -/
theorem judge_veiled (v : Veil) (current : Option Snapshot) (policy : VersionPolicy)
    (x : Snapshot) :
    judge (current.map (·.veiled v)) policy (x.veiled v) = (judge current policy x).veiled v := by
  simp only [judge, Snapshot.veiled_defect]
  cases x.defect? with
  | some d => rfl
  | none =>
    cases current with
    | none => rfl
    | some c =>
      simp only [Option.map_some, Snapshot.veiled_refreshes, Snapshot.veiled_version,
        apply_ite (Verdict.veiled v)]
      rfl

end AgentState
