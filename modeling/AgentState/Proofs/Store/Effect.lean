/-
AgentState.Proofs.Store.Effect — what a write does to a store.

A candidate is refused for what it lacks, or for what is current, and is
committed otherwise.  Of a store that refuses nothing changes but the two
numbers of conflicts; of a candidate that is committed nothing changes but
the version.

* `Snapshot.Unfit` — what a candidate can lack.
* `Snapshot.Stale` — a candidate that neither advances nor refreshes.
* `VersionPolicy.Refuses` — when a stale candidate gets no other version.
* `set_effect` — the answer to a write and the store after it, in terms of
  these three.
-/
import AgentState.Proofs.Store.Soundness

namespace AgentState

/-- Whether a snapshot has no state, or lacks one of its identifiers. -/
def Snapshot.Unfit (x : Snapshot) : Prop :=
  x.state = .unspecified ∨ x.id = "" ∨ x.instanceId = ""

/-- Whether a candidate is not newer than the current snapshot, and no
refresh of it. -/
def Snapshot.Stale (x c : Snapshot) : Prop :=
  x.version ≤ c.version ∧
    ¬(x.version = c.version ∧ x.state = c.state ∧ x.parentId = some c.id)

/-- Whether a stale candidate is refused over a current snapshot: by the
policy, or because no version is left. -/
def VersionPolicy.Refuses (policy : VersionPolicy) (c : Snapshot) : Prop :=
  policy = .strict ∨ c.version.toNat = UInt64.size - 1

theorem Snapshot.unfit_iff (x : Snapshot) : x.Unfit ↔ ∃ d, x.defect? = some d := by
  rw [← Option.ne_none_iff_exists', ne_eq, defect?_eq_none_iff]
  unfold Unfit
  tauto

theorem Snapshot.stale_iff (x c : Snapshot) :
    x.Stale c ↔ x.version ≤ c.version ∧ x.refreshes c = false := by
  rw [Stale, ← refreshes_iff, Bool.not_eq_true]

theorem VersionPolicy.refuses_iff (policy : VersionPolicy) (c : Snapshot) :
    policy.Refuses c ↔ policy = .strict ∨ UInt64.size ≤ c.version.toNat + 1 := by
  have bound : c.version.toNat < UInt64.size := c.version.toNat_lt_size
  unfold Refuses
  refine or_congr_right ⟨fun last => ?_, fun last => ?_⟩ <;> omega

namespace Store

/-- A candidate that is not refused is committed: it is answered and becomes
current as the verdict has it, and the commit is counted and dated. -/
theorem set_of_answer {s : Store} {policy : VersionPolicy} {x y : Snapshot}
    (answer : (judge s.current policy x).answer = .ok y) (now : Stamp) :
    (s.set now policy x).result = .ok y ∧
      (s.set now policy x).store.current = some y ∧
      (s.set now policy x).store.lastUpdate = some now ∧
      (s.set now policy x).store.counters.totalSets = s.counters.totalSets + 1 := by
  refine ⟨(s.set_answer now policy x).trans answer, ?_⟩
  cases judged : judge s.current policy x with
  | refuse why =>
    rw [judged] at answer
    cases answer
  | refresh z =>
    rw [judged] at answer
    cases answer
    obtain ⟨ms, rs, spread, -⟩ :=
      ((s.tally (.refresh y)).install now y).spread_eq ⟨y, [], []⟩
    rw [set_eq_of_refresh judged, spread]
    refine ⟨rfl, rfl, ?_⟩
    simp [settle, install]
  | publish z repaired =>
    rw [judged] at answer
    cases answer
    obtain ⟨ms, rs, spread, -⟩ :=
      ((s.tally (.publish y repaired)).install now y).spread_eq (s.announce y)
    rw [set_eq_of_publish judged, spread]
    refine ⟨rfl, rfl, ?_⟩
    simp [settle, install]

end Store

/-- What is answered to a fit candidate that is not refused: the candidate, with
the version after the current one if it is stale. -/
theorem answer_of_fit {current : Option Snapshot} {policy : VersionPolicy} {x : Snapshot}
    (fit : ¬x.Unfit) (lets : ∀ c, current = some c → x.Stale c → ¬policy.Refuses c) :
    ∃ y, (judge current policy x).answer = .ok y ∧ y = x.withVersion y.version ∧
      (∀ c, current = some c → x.Stale c → y.version.toNat = c.version.toNat + 1) ∧
      ((∀ c, current = some c → ¬x.Stale c) → y = x) := by
  have asIs : (∀ c, current = some c → ¬x.Stale c) → ∀ c, current = some c → x.Stale c →
      x.version.toNat = c.version.toNat + 1 :=
    fun fresh c filled stale => absurd stale (fresh c filled)
  have judged := judge_judged current policy x
  generalize judge current policy x = v at judged
  cases judged with
  | defective d bad => exact absurd (x.unfit_iff.2 ⟨d, bad⟩) fit
  | first sound empty =>
    have fresh : ∀ c, current = some c → ¬x.Stale c := by simp [empty]
    exact ⟨x, rfl, rfl, asIs fresh, fun _ => rfl⟩
  | refreshed c sound filled same =>
    have fresh : ∀ c, current = some c → ¬x.Stale c := by simp [filled, Snapshot.stale_iff, same]
    exact ⟨x, rfl, rfl, asIs fresh, fun _ => rfl⟩
  | advanced c sound filled other newer =>
    have fresh : ∀ c, current = some c → ¬x.Stale c := by
      simp [filled, Snapshot.stale_iff, UInt64.not_le.2 newer]
    exact ⟨x, rfl, rfl, asIs fresh, fun _ => rfl⟩
  | repaired c sound filled other stale lenient room =>
    refine ⟨_, rfl, rfl, fun c' filled' _ => ?_, fun fresh => ?_⟩
    · obtain rfl := Option.some.inj (filled.symm.trans filled')
      show (c.version + 1).toNat = _
      rw [UInt64.toNat_add, UInt64.toNat_one, Nat.mod_eq_of_lt room]
    · exact absurd ((x.stale_iff c).2 ⟨stale, other⟩) (fresh c filled)
  | conflicting c sound filled other stale final =>
    exact absurd ((policy.refuses_iff c).2 final)
      (lets c filled ((x.stale_iff c).2 ⟨stale, other⟩))

/-- What a store is after a commit of `y` for a candidate `x` at a moment. -/
structure Store.Takes (s : Store) (now : Stamp) (x y : Snapshot) (after : Store) : Prop where
  current : after.current = some y
  dated : after.lastUpdate = some now
  counted : after.counters.totalSets = s.counters.totalSets + 1
  same : y = x.withVersion y.version
  next : ∀ c, s.current = some c → x.Stale c → y.version.toNat = c.version.toNat + 1
  kept : (∀ c, s.current = some c → ¬x.Stale c) → y = x

namespace Store

variable {s : Store} {policy : VersionPolicy} {x : Snapshot}

theorem set_of_unfit (unfit : x.Unfit) (s : Store) (now : Stamp) (policy : VersionPolicy) :
    ∃ d, s.set now policy x = ⟨.error (.defective d), s, 0⟩ := by
  obtain ⟨d, bad⟩ := x.unfit_iff.1 unfit
  exact ⟨d, set_of_defect bad s now policy⟩

/-- A fit candidate that is stale is refused by a policy that refuses it, and
counted. -/
theorem set_of_stale {c : Snapshot} (fit : ¬x.Unfit) (filled : s.current = some c)
    (stale : x.Stale c) (refuses : policy.Refuses c) (now : Stamp) :
    s.set now policy x = ⟨.error (.versionConflict x.version c.version), s.rejecting 1, 0⟩ := by
  refine set_eq_of_refuse ?_ now
  have sound : x.defect? = none := Option.eq_none_iff_forall_ne_some.2 fun d bad =>
    fit (x.unfit_iff.2 ⟨d, bad⟩)
  obtain ⟨older, other⟩ := (x.stale_iff c).1 stale
  have final : ¬(policy = .repair ∧ c.version.toNat + 1 < UInt64.size) := by
    rintro ⟨rfl, room⟩
    rcases (VersionPolicy.refuses_iff .repair c).1 refuses with strict | last
    · cases strict
    · exact absurd room (Nat.not_lt.2 last)
  simp only [judge, sound, filled, other, UInt64.not_lt.2 older, final, Bool.false_eq_true,
    if_false]

/-- A fit candidate that is not refused is committed. -/
theorem set_of_fit (fit : ¬x.Unfit)
    (lets : ∀ c, s.current = some c → x.Stale c → ¬policy.Refuses c) (now : Stamp) :
    ∃ y, (s.set now policy x).result = .ok y ∧ s.Takes now x y (s.set now policy x).store := by
  obtain ⟨y, answer, same, next, kept⟩ := answer_of_fit fit lets
  obtain ⟨result, current, dated, counted⟩ := set_of_answer answer now
  exact ⟨y, result, current, dated, counted, same, next, kept⟩

end Store

/-- What a write does, for every store, candidate and policy.

It is refused exactly when the candidate is unfit, or stale over the current
snapshot where the policy refuses that.  An unfit candidate leaves the store
as it was.  A stale one that is refused leaves all of it but the numbers of
conflicts and of rejections, which are greater by one each.

Otherwise the candidate is committed: what is answered is current then, and
is the candidate in all but the version.  The version is the one after the
current one, and greater as a number, if the candidate is stale, and its own
if not. -/
theorem set_effect (s : Store) (now : Stamp) (policy : VersionPolicy) (x : Snapshot) :
    let w := s.set now policy x
    ((∃ e, w.result = .error e) ↔
      x.Unfit ∨ ∃ c, s.current = some c ∧ x.Stale c ∧ policy.Refuses c) ∧
    (x.Unfit → ∃ d, w = ⟨.error (.defective d), s, 0⟩) ∧
    (¬x.Unfit → ∀ c, s.current = some c → x.Stale c → policy.Refuses c →
      w = ⟨.error (.versionConflict x.version c.version),
        { s with counters := { s.counters with
            versionConflicts := s.counters.versionConflicts + 1
            rejectedSets := s.counters.rejectedSets + 1 } }, 0⟩) ∧
    (∀ y, w.result = .ok y → s.Takes now x y w.store) := by
  intro w
  have unfit : x.Unfit → ∃ d, w = ⟨.error (.defective d), s, 0⟩ :=
    fun h => Store.set_of_unfit h s now policy
  have stale : ¬x.Unfit → ∀ c, s.current = some c → x.Stale c → policy.Refuses c →
      w = ⟨.error (.versionConflict x.version c.version), s.rejecting 1, 0⟩ :=
    fun fit c filled stale refuses => Store.set_of_stale fit filled stale refuses now
  have refused : (x.Unfit ∨ ∃ c, s.current = some c ∧ x.Stale c ∧ policy.Refuses c) →
      ∃ e, w.result = .error e := by
    intro reason
    by_cases h : x.Unfit
    · obtain ⟨d, all⟩ := unfit h
      exact ⟨_, by rw [all]⟩
    · obtain ⟨c, filled, old, refuses⟩ := reason.resolve_left h
      exact ⟨_, by rw [stale h c filled old refuses]⟩
  have committed : ¬(x.Unfit ∨ ∃ c, s.current = some c ∧ x.Stale c ∧ policy.Refuses c) →
      ∃ y, w.result = .ok y ∧ s.Takes now x y w.store :=
    fun none => Store.set_of_fit (fun h => none (.inl h))
      (fun c filled old refuses => none (.inr ⟨c, filled, old, refuses⟩)) now
  refine ⟨⟨?_, refused⟩, unfit, stale, fun y ok => ?_⟩
  · rintro ⟨e, error⟩
    by_contra none
    obtain ⟨y, ok, -⟩ := committed none
    rw [error] at ok
    cases ok
  · obtain ⟨y', ok', takes⟩ := committed fun reason => by
      obtain ⟨e, error⟩ := refused reason
      rw [error] at ok
      cases ok
    rw [ok] at ok'
    cases ok'
    exact takes

/-- A stale candidate over the last version is refused under either policy. -/
example : VersionPolicy.Refuses .repair (firstFact.withVersion (.ofNat (2 ^ 64 - 1))) ∧
    ¬VersionPolicy.Refuses .repair (firstFact.withVersion (.ofNat (2 ^ 64 - 2))) := by
  unfold VersionPolicy.Refuses
  decide

end AgentState
