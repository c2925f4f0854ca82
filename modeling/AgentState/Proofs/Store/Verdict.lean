/-
AgentState.Proofs.Store.Verdict — what becomes of a candidate, case by case.

* `Verdict.answer` — what a writer is told.
* `Judged` — the verdicts with the conditions under which they fall;
  `judge_judged` says that `judge` gives one of them.
* `refreshes_iff` — a refresh in plain terms.
* `lt_of_publish` — what is published is newer than what it replaces.
* `version_ne_iff_of_publish`, `eq_of_refresh` — when a candidate is committed
  as it is.
-/
import AgentState.Store.Basic

namespace AgentState

/-- The answer to a write with this verdict. -/
def Verdict.answer : Verdict → Except StoreError Snapshot
  | .refuse why => .error why
  | .refresh x | .publish x _ => .ok x

theorem refreshes_iff (x c : Snapshot) :
    x.refreshes c = true ↔ x.version = c.version ∧ x.state = c.state ∧ x.parentId = some c.id := by
  simp [Snapshot.refreshes, Snapshot.isDerivedFrom, and_assoc]

/-- The verdicts on a candidate, with the conditions for each. -/
inductive Judged (current : Option Snapshot) (policy : VersionPolicy) (x : Snapshot) :
    Verdict → Prop where
  | defective (d : Defect) (bad : x.defect? = some d) :
      Judged current policy x (.refuse (.defective d))
  | first (sound : x.defect? = none) (empty : current = none) :
      Judged current policy x (.publish x false)
  | refreshed (c : Snapshot) (sound : x.defect? = none) (filled : current = some c)
      (same : x.refreshes c = true) : Judged current policy x (.refresh x)
  | advanced (c : Snapshot) (sound : x.defect? = none) (filled : current = some c)
      (other : x.refreshes c = false) (newer : c.version < x.version) :
      Judged current policy x (.publish x false)
  | repaired (c : Snapshot) (sound : x.defect? = none) (filled : current = some c)
      (other : x.refreshes c = false) (stale : x.version ≤ c.version) (lenient : policy = .repair)
      (room : c.version.toNat + 1 < UInt64.size) :
      Judged current policy x (.publish (x.withVersion (c.version + 1)) true)
  | conflicting (c : Snapshot) (sound : x.defect? = none) (filled : current = some c)
      (other : x.refreshes c = false) (stale : x.version ≤ c.version)
      (final : policy = .strict ∨ UInt64.size ≤ c.version.toNat + 1) :
      Judged current policy x (.refuse (.versionConflict x.version c.version))

theorem judge_judged (current : Option Snapshot) (policy : VersionPolicy) (x : Snapshot) :
    Judged current policy x (judge current policy x) := by
  unfold judge
  cases sound : x.defect? with
  | some d => exact .defective d sound
  | none =>
    cases current with
    | none => exact .first sound rfl
    | some c =>
      cases same : x.refreshes c with
      | true => simpa [same] using Judged.refreshed c sound rfl same
      | false =>
        simp only [same, Bool.false_eq_true, if_false]
        by_cases newer : c.version < x.version
        · rw [if_pos newer]
          exact .advanced c sound rfl same newer
        · rw [if_neg newer]
          have stale : x.version ≤ c.version := UInt64.not_lt.1 newer
          split
          · next h => exact .repaired c sound rfl same stale h.1 h.2
          · next h =>
            refine .conflicting c sound rfl same stale ?_
            cases policy with
            | strict => exact .inl rfl
            | repair => exact .inr (Nat.le_of_not_lt fun room => h ⟨rfl, room⟩)

/-- The verdict that the conditions name is the one that falls. -/
theorem judged_of_eq {current : Option Snapshot} {policy : VersionPolicy} {x : Snapshot}
    {v : Verdict} (h : judge current policy x = v) : Judged current policy x v :=
  h ▸ judge_judged current policy x

/-- The version after a version is greater, while there is one. -/
theorem lt_next {v : UInt64} (room : v.toNat + 1 < UInt64.size) : v < v + 1 := by
  rw [UInt64.lt_iff_toNat_lt, UInt64.toNat_add]
  have : v.toNat + 1 < 2 ^ 64 := room
  rw [UInt64.toNat_one, Nat.mod_eq_of_lt this]
  exact Nat.lt_succ_self _

/-- What is published is newer than what it replaces. -/
theorem lt_of_publish {c candidate x : Snapshot} {policy : VersionPolicy} {repaired : Bool}
    (h : judge (some c) policy candidate = .publish x repaired) : c.version < x.version := by
  cases judged_of_eq h with
  | first _ empty => cases empty
  | advanced c' _ filled _ newer =>
    cases filled
    exact newer
  | repaired c' _ filled _ _ _ room =>
    cases filled
    exact lt_next room

/-- What is published has another version than its candidate exactly when
it was repaired. -/
theorem version_ne_iff_of_publish {current : Option Snapshot} {candidate x : Snapshot}
    {policy : VersionPolicy} {repaired : Bool}
    (h : judge current policy candidate = .publish x repaired) :
    x.version ≠ candidate.version ↔ repaired = true := by
  cases judged_of_eq h with
  | first | advanced => simp
  | repaired c _ _ _ stale _ room =>
    have newer : candidate.version < c.version + 1 := UInt64.lt_of_le_of_lt stale (lt_next room)
    have other : c.version + 1 ≠ candidate.version := fun same => UInt64.ne_of_lt newer same.symm
    exact iff_of_true other rfl

/-- A refresh is the candidate as it is. -/
theorem eq_of_refresh {current : Option Snapshot} {candidate x : Snapshot}
    {policy : VersionPolicy} (h : judge current policy candidate = .refresh x) :
    x = candidate := by
  cases judged_of_eq h with
  | refreshed => rfl

/-- A refresh takes the place of a snapshot with its version and its
state, and names it as its parent. -/
theorem refreshes_of_refresh {current : Option Snapshot} {candidate x : Snapshot}
    {policy : VersionPolicy} (h : judge current policy candidate = .refresh x) :
    ∃ c, current = some c ∧ x.refreshes c = true := by
  cases judged_of_eq h with
  | refreshed c _ filled same => exact ⟨c, filled, same⟩

end AgentState
