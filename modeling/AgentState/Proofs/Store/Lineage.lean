/-
AgentState.Proofs.Store.Lineage — strict writes of successors.

A candidate that was derived from a snapshot `c` of the store is meant to
take the place of `c` and of nothing else.  Under the strict policy it does,
with one exception: a candidate that changes the state is told apart by its
version alone, and a refresh in the place of `c` has the version of `c`.

* `Successor` — what was derived from a snapshot, by hand or by a table.
* `judge_successor` — the strict verdict on a successor, for every current
  snapshot that is not older; `judge_overtaken` — the verdict over a newer one.
* `strict_write_of_successor` — the answers to strict writes of successors
  over whole runs, and which of them are committed.
* `refresh_is_overwritten` — the exception, on the shortest run.
-/
import Mathlib.Data.List.Nodup
import AgentState.Rule
import AgentState.Proofs.Store.Order
import AgentState.Proofs.Store.Whole

namespace AgentState

/-! ## Successors -/

/-- `x` was derived from `c`. -/
def Successor (c x : Snapshot) : Prop :=
  ∃ mark next reason step, x = c.derive mark next reason step

/-- The step of a table derives a successor. -/
theorem successor_of_step (t : RuleTable) (mark : StepMark) (c : Snapshot)
    (conditions : Conditions) :
    Successor c (t.step mark c conditions).1 :=
  ⟨mark.toMark, _, _, _, rfl⟩

theorem Successor.parentId {c x : Snapshot} (h : Successor c x) : x.parentId = some c.id := by
  obtain ⟨mark, next, reason, step, rfl⟩ := h
  rfl

theorem Successor.version_of_kept {c x : Snapshot} (h : Successor c x)
    (kept : x.state = c.state) : x.version = c.version := by
  obtain ⟨mark, next, reason, step, rfl⟩ := h
  have same : next = c.state := kept
  simp [Snapshot.derive, same]

theorem Successor.version_of_changed {c x : Snapshot} (h : Successor c x)
    (changed : x.state ≠ c.state) : x.version = Snapshot.bumpVersion c.version := by
  obtain ⟨mark, next, reason, step, rfl⟩ := h
  have other : next ≠ c.state := changed
  simp [Snapshot.derive, other]

theorem bumpVersion_of_room {v : UInt64} (room : v.toNat + 1 < UInt64.size) :
    Snapshot.bumpVersion v = v + 1 :=
  if_pos room

theorem bumpVersion_of_full {v : UInt64} (full : ¬v.toNat + 1 < UInt64.size) :
    Snapshot.bumpVersion v = v :=
  if_neg full

/-- The version after a version is the least that is greater. -/
theorem bumpVersion_le {v w : UInt64} (h : v < w) : Snapshot.bumpVersion v ≤ w := by
  by_cases room : v.toNat + 1 < UInt64.size
  · rw [bumpVersion_of_room room, UInt64.le_iff_toNat_le, UInt64.toNat_add, UInt64.toNat_one,
      Nat.mod_eq_of_lt room]
    exact UInt64.lt_iff_toNat_lt.1 h
  · rw [bumpVersion_of_full room]
    exact UInt64.le_of_lt h

/-! ## The verdict on a successor -/

/-- Whether a strict write of a successor of `c` is committed over
`current`. -/
def Admitted (c current x : Snapshot) : Prop :=
  x.state = c.state ∧ current = c ∨
    x.state ≠ c.state ∧ current.version = c.version ∧ c.version.toNat + 1 < UInt64.size

/-- A stale candidate that is no refresh is in conflict under the strict
policy. -/
theorem judge_strict_stale {c x : Snapshot} (sound : x.defect? = none)
    (other : x.refreshes c = false) (stale : x.version ≤ c.version) :
    judge (some c) .strict x = .refuse (.versionConflict x.version c.version) := by
  simp [judge, sound, other, UInt64.not_lt.2 stale]

/-- The strict verdict on a successor of `c` over a snapshot that is not
older than `c` and has an identifier of its own. -/
theorem judge_successor {c current x : Snapshot} (succ : Successor c x)
    (sound : x.defect? = none) (older : c.version ≤ current.version)
    (own : current.id = c.id → current = c) :
    (Admitted c current x → ∃ v, judge (some current) .strict x = v ∧
      (v = .refresh x ∨ v = .publish x false)) ∧
    (¬Admitted c current x →
      judge (some current) .strict x = .refuse (.versionConflict x.version current.version)) := by
  -- a refresh of `current` names it as its parent, and the parent is `c`
  have parent : x.refreshes current = true → current = c ∧ x.state = c.state := by
    intro same
    obtain ⟨-, state, parent⟩ := (refreshes_iff x current).1 same
    rw [succ.parentId, Option.some.injEq] at parent
    have this := own parent.symm
    exact ⟨this, this ▸ state⟩
  by_cases kept : x.state = c.state
  · have version := succ.version_of_kept kept
    refine ⟨fun admitted => ?_, fun refused => ?_⟩
    · obtain rfl : current = c := by
        rcases admitted with ⟨-, same⟩ | ⟨changed, -⟩
        · exact same
        · exact absurd kept changed
      have same : x.refreshes current = true :=
        (refreshes_iff x current).2 ⟨version, kept, succ.parentId⟩
      exact ⟨_, by simp [judge, sound, same], .inl rfl⟩
    · have other : x.refreshes current = false := by
        rw [Bool.eq_false_iff]
        exact fun same => refused (.inl ⟨kept, (parent same).1⟩)
      exact judge_strict_stale sound other (by rw [version]; exact older)
  · have other : x.refreshes current = false := by
      rw [Bool.eq_false_iff]
      exact fun same => kept (parent same).2
    have version := succ.version_of_changed kept
    refine ⟨fun admitted => ?_, fun refused => ?_⟩
    · obtain ⟨same, room⟩ : current.version = c.version ∧ c.version.toNat + 1 < UInt64.size := by
        rcases admitted with ⟨same, -⟩ | ⟨-, admitted⟩
        · exact absurd same kept
        · exact admitted
      rw [bumpVersion_of_room room] at version
      have newer : current.version < x.version := by
        rw [same, version]
        exact lt_next room
      exact ⟨_, by simp [judge, sound, other, newer], .inr rfl⟩
    · refine judge_strict_stale sound other ?_
      rw [version]
      by_cases same : current.version = c.version
      · have full : ¬c.version.toNat + 1 < UInt64.size :=
          fun room => refused (.inr ⟨kept, same, room⟩)
        rw [bumpVersion_of_full full]
        exact older
      · exact bumpVersion_le (UInt64.lt_of_le_of_ne older (Ne.symm same))

/-- The verdict on a successor of `c` over a newer snapshot with another
identifier: it is stale, whether it keeps the state or changes it. -/
theorem judge_overtaken {c current x : Snapshot} (succ : Successor c x)
    (sound : x.defect? = none) (newer : c.version < current.version) (other : current.id ≠ c.id)
    (policy : VersionPolicy) :
    judge (some current) policy x =
      if policy = .repair ∧ current.version.toNat + 1 < UInt64.size then
        .publish (x.withVersion (current.version + 1)) true
      else .refuse (.versionConflict x.version current.version) := by
  have noRefresh : x.refreshes current = false := by
    rw [Bool.eq_false_iff]
    intro same
    obtain ⟨-, -, parent⟩ := (refreshes_iff x current).1 same
    rw [succ.parentId, Option.some.injEq] at parent
    exact other parent.symm
  have stale : ¬current.version < x.version := by
    by_cases kept : x.state = c.state
    · rw [succ.version_of_kept kept]
      exact UInt64.not_lt.2 (UInt64.le_of_lt newer)
    · rw [succ.version_of_changed kept]
      exact UInt64.not_lt.2 (bumpVersion_le newer)
  simp only [judge, sound, noRefresh, Bool.false_eq_true, if_false, stale]

/-! ## Successors along a run -/

namespace Run

/-- What an event says of a verdict is the verdict on the snapshot that was
current. -/
def WasJudged (e : Event) (past : Log) : Prop :=
  ∀ policy x v, e = .written policy x v → judge (Log.latest past) policy x = v

theorem WasJudged.move {r r' : Run} (move : Move r r') (ordered : Ordered r)
    (h : Log.Each WasJudged r.log) : Log.Each WasJudged r'.log := by
  cases move with
  | refused policy candidate why free judged =>
    refine ⟨?_, h⟩
    rintro _ _ _ ⟨⟩
    rw [ordered.latest, judged]
  | refreshed now policy candidate x free judged =>
    refine ⟨?_, h⟩
    rintro _ _ _ ⟨⟩
    rw [ordered.latest, judged]
  | published now policy candidate x repaired free judged =>
    refine ⟨?_, h⟩
    rintro _ _ _ ⟨⟩
    rw [ordered.latest, judged]
  | coldStarted | begunBefore | told | settled | read | subscribed | turnedAway | unsubscribed
  | took | detached =>
    refine ⟨?_, h⟩
    rintro _ _ _ ⟨⟩

theorem wasJudged_after (config : StoreConfig) (instanceId : String) (started : Stamp)
    (acts : List Act) :
    Log.Each WasJudged ((start config instanceId started).after acts).log := by
  refine (after_of_move (P := fun r => Ordered r ∧ Log.Each WasJudged r.log) ?_ acts
    ⟨Ordered.start config instanceId started, trivial⟩).2
  intro r r' move before
  obtain ⟨ordered, judged⟩ := before
  exact ⟨ordered.move move, WasJudged.move move ordered judged⟩

/-- The strict verdict on a successor of a snapshot that was current at some
time, when no two commits share an identifier. -/
theorem verdict_of_stored {r : Run} (ordered : Ordered r)
    (own : ((Log.commits r.log).map Snapshot.id).Nodup) {c x : Snapshot}
    (stored : c ∈ Log.commits r.log) (succ : Successor c x) (sound : x.defect? = none) :
    ∃ current, r.store.current = some current ∧
      (Admitted c current x → ∃ v, judge (some current) .strict x = v ∧
        (v = .refresh x ∨ v = .publish x false)) ∧
      (¬Admitted c current x →
        judge (some current) .strict x =
          .refuse (.versionConflict x.version current.version)) := by
  obtain ⟨current, filled, older⟩ := ordered.commits c stored c rfl
  refine ⟨current, filled, judge_successor succ sound older fun same => ?_⟩
  have latest := ordered.latest.trans filled
  exact List.inj_on_of_nodup_map own (List.mem_of_getLast? latest) stored same

/-- A strict write that committed a successor of a stored snapshot was
admitted, and committed it as it was. -/
theorem admitted_of_committed {r : Run} (ordered : Ordered r)
    (own : ((Log.commits r.log).map Snapshot.id).Nodup) {c x y : Snapshot} {v : Verdict}
    (stored : c ∈ Log.commits r.log) (succ : Successor c x)
    (judged : judge (Log.latest r.log) .strict x = v)
    (committed : (Event.written .strict x v).committed? = some y) :
    ∃ current, Log.latest r.log = some current ∧ Admitted c current x ∧ y = x := by
  have sound : x.defect? = none := by
    cases bad : x.defect? with
    | none => rfl
    | some d =>
      simp only [judge, bad] at judged
      rw [← judged] at committed
      cases committed
  obtain ⟨current, filled, yes, no⟩ := verdict_of_stored ordered own stored succ sound
  have latest := ordered.latest.trans filled
  rw [latest] at judged
  by_cases admitted : Admitted c current x
  · refine ⟨current, latest, admitted, ?_⟩
    obtain ⟨v', judged', as⟩ := yes admitted
    rw [judged] at judged'
    rcases as with rfl | rfl <;> subst judged' <;> cases committed <;> rfl
  · rw [no admitted] at judged
    rw [← judged] at committed
    cases committed

/-- Of the successors of one stored snapshot, a strict write can commit one
that keeps the state and after it one that changes the state, and no
more. -/
theorem strict_siblings {config : StoreConfig} {instanceId : String} {started : Stamp}
    {acts : List Act}
    (own : ((Log.commits ((start config instanceId started).after acts).log).map
      Snapshot.id).Nodup)
    {c x₁ x₂ : Snapshot} {v₁ v₂ : Verdict} {after between before : Log}
    (split : ((start config instanceId started).after acts).log =
      after ++ .written .strict x₂ v₂ :: (between ++ .written .strict x₁ v₁ :: before))
    (stored : c ∈ Log.commits before) (succ₁ : Successor c x₁) (succ₂ : Successor c x₂)
    (committed₁ : (Event.written .strict x₁ v₁).committed?.isSome)
    (committed₂ : (Event.written .strict x₂ v₂).committed?.isSome) :
    x₁.state = c.state ∧ x₂.state ≠ c.state := by
  obtain ⟨y₁, committed₁⟩ := Option.isSome_iff_exists.1 committed₁
  obtain ⟨y₂, committed₂⟩ := Option.isSome_iff_exists.1 committed₂
  have judged := wasJudged_after config instanceId started acts
  -- the moments just before the two writes
  have split₁ : ((start config instanceId started).after acts).log =
      (after ++ .written .strict x₂ v₂ :: between) ++ .written .strict x₁ v₁ :: before := by
    rw [split, List.append_assoc, List.cons_append]
  have judged₁ := judged.at split₁ _ _ _ rfl
  have judged₂ := judged.at split _ _ _ rfl
  obtain ⟨acts₁, log₁⟩ := exists_moment rfl (split₁.trans (List.append_cons _ _ _))
  obtain ⟨acts₂, log₂⟩ := exists_moment rfl (split.trans (List.append_cons _ _ _))
  have ordered₁ := ordered_after config instanceId started acts₁
  have ordered₂ := ordered_after config instanceId started acts₂
  -- their commits stand in front of all commits
  obtain ⟨more, commits₂⟩ := Log.commits_append between (.written .strict x₁ v₁ :: before)
  rw [Log.commits_cons committed₁] at commits₂
  obtain ⟨rest, commits⟩ := Log.commits_append
    (after ++ [.written .strict x₂ v₂]) (between ++ .written .strict x₁ v₁ :: before)
  rw [← List.append_cons, ← split] at commits
  rw [commits, List.map_append] at own
  have own₂ := (List.nodup_append.1 own).1
  have own₁ := own₂
  rw [commits₂, List.map_append, List.map_append, List.append_assoc] at own₁
  have apart := (List.nodup_append.1 own₁).2.2
  have own₁ := (List.nodup_append.1 own₁).1
  obtain ⟨current₁, latest₁, admitted₁, rfl⟩ := admitted_of_committed ordered₁
    (by rw [log₁]; exact own₁) (by rw [log₁]; exact stored) succ₁ (by rw [log₁]; exact judged₁)
    committed₁
  have stored₂ : c ∈ Log.commits (between ++ .written .strict y₁ v₁ :: before) := by
    rw [commits₂, List.append_assoc]
    exact List.mem_append_left _ stored
  obtain ⟨current₂, latest₂, admitted₂, rfl⟩ := admitted_of_committed ordered₂
    (by rw [log₂]; exact own₂) (by rw [log₂]; exact stored₂) succ₂ (by rw [log₂]; exact judged₂)
    committed₂
  -- `c` cannot be current again after `y₁`
  have replaced : current₂ ≠ c := by
    rintro rfl
    have last : (Log.commits (between ++ .written .strict y₁ v₁ :: before)).getLast? =
        some current₂ := by
      rw [← log₂]
      exact latest₂
    rw [commits₂, List.append_assoc, List.getLast?_append_of_ne_nil _ (by simp)] at last
    have again := List.mem_map_of_mem (f := Snapshot.id) (List.mem_of_getLast? last)
    rw [List.map_append] at again
    exact apart _ (List.mem_map_of_mem stored) _ again rfl
  have changed₂ : y₂.state ≠ c.state ∧ current₂.version = c.version ∧
      c.version.toNat + 1 < UInt64.size := by
    rcases admitted₂ with ⟨-, same⟩ | changed
    · exact absurd same replaced
    · exact changed
  refine ⟨?_, changed₂.1⟩
  rcases admitted₁ with ⟨kept, -⟩ | ⟨changed, -, room⟩
  · exact kept
  · -- `y₁` raised the version, and it cannot have gone back since
    have mem : y₁ ∈ Log.commits ((start config instanceId started).after acts₂).log := by
      rw [log₂, commits₂]
      simp
    obtain ⟨current, filled, newer⟩ := ordered₂.commits y₁ mem y₁ rfl
    rw [← ordered₂.latest, latest₂, Option.some.injEq] at filled
    subst filled
    rw [succ₁.version_of_changed changed, bumpVersion_of_room room, changed₂.2.1] at newer
    exact absurd (lt_next room) (UInt64.not_lt.2 newer)

end Run

/-- Strict writes of successors, over every run of a new store in which no
two commits share an identifier.

A strict write of a successor of a snapshot `c` that was current at some time
is committed as it is when it is admitted, and is otherwise refused as a
conflict, which leaves the current snapshot.  It is admitted if it keeps the
state and `c` is still current, or if it changes the state, the current
snapshot has the version of `c`, and that is not the last version.  So a
published commit after `c` always brings it into conflict, and a refresh in
the place of `c` does so only if it keeps the state.

Of the successors of one stored snapshot, strict writes commit at most one
that keeps the state and, after it, one that changes the state. -/
theorem strict_write_of_successor (config : StoreConfig) (instanceId : String) (started : Stamp)
    (acts : List Act)
    (own : ((Log.commits ((Run.start config instanceId started).after acts).log).map
      Snapshot.id).Nodup)
    (c : Snapshot) :
    let r := (Run.start config instanceId started).after acts
    (c ∈ Log.commits r.log → ∀ x, Successor c x → x.defect? = none → ∀ now,
      ∃ current, r.store.current = some current ∧
        (Admitted c current x →
          (r.store.set now .strict x).result = .ok x ∧
          (r.store.set now .strict x).store.current = some x) ∧
        (¬Admitted c current x →
          (r.store.set now .strict x).result =
            .error (.versionConflict x.version current.version) ∧
          (r.store.set now .strict x).store.current = some current)) ∧
    (∀ later between before x₁ v₁ x₂ v₂,
      r.log = later ++ .written .strict x₂ v₂ :: (between ++ .written .strict x₁ v₁ :: before) →
      c ∈ Log.commits before → Successor c x₁ → Successor c x₂ →
      (Event.written .strict x₁ v₁).committed?.isSome →
      (Event.written .strict x₂ v₂).committed?.isSome →
      x₁.state = c.state ∧ x₂.state ≠ c.state) := by
  intro r
  refine ⟨fun stored x succ sound now => ?_, ?_⟩
  · have ordered := Run.ordered_after config instanceId started acts
    obtain ⟨current, filled, yes, no⟩ := Run.verdict_of_stored ordered own stored succ sound
    refine ⟨current, filled, fun admitted => ?_, fun refused => ?_⟩
    · obtain ⟨v, judged, as⟩ := yes admitted
      rw [← filled] at judged
      rcases as with rfl | rfl
      · exact Store.set_of_refresh judged now
      · exact Store.set_of_publish judged now
    · rw [← filled]
      refine Store.set_of_refuse ?_ now
      rw [filled]
      exact no refused
  · intro later between before x₁ v₁ x₂ v₂ split stored succ₁ succ₂ committed₁ committed₂
    exact Run.strict_siblings own split stored succ₁ succ₂ committed₁ committed₂

/-! ## The exception -/

/-- A mark with an identifier, at the start of the civil count. -/
def markOf (id : String) : Mark := ⟨id, ⟨1, .epoch⟩⟩

/-- The first snapshot of a run. -/
def firstFact : Snapshot := .coldStart (markOf "a") "run"

/-- A successor of the first snapshot that keeps its state. -/
def keptFact : Snapshot := firstFact.derive (markOf "b") .booting "no change" none

/-- A successor of the first snapshot that changes its state. -/
def movedFact : Snapshot := firstFact.derive (markOf "c") .idle "change" none

/-- A cold start, and a refresh in its place. -/
def refreshedRun : Run :=
  (Run.start .standard "run" ⟨1, .epoch⟩).after
    [.begin (markOf "a"), .settle, .write ⟨1, .epoch⟩ .strict keptFact, .settle]

theorem strict_write_after_refresh :
    ((Log.commits refreshedRun.log).map Snapshot.id).Nodup ∧
      firstFact ∈ Log.commits refreshedRun.log ∧ movedFact.defect? = none ∧
      (refreshedRun.store.set ⟨1, .epoch⟩ .strict movedFact).result = .ok movedFact := by
  refine ⟨by decide, by decide, by decide, ?_⟩
  obtain ⟨current, filled, yes, -⟩ := (strict_write_of_successor .standard "run" ⟨1, .epoch⟩
    [.begin (markOf "a"), .settle, .write ⟨1, .epoch⟩ .strict keptFact, .settle] (by decide)
    firstFact).1 (by decide) movedFact ⟨markOf "c", .idle, "change", none, rfl⟩ (by decide)
    ⟨1, .epoch⟩
  have kept : current = keptFact := by
    have : some keptFact = some current := filled
    exact (Option.some.inj this).symm
  subst kept
  exact (yes (.inr ⟨by decide, by decide, by decide⟩)).1

/-- A strict write can take the place of a refresh that its author never
saw: the first snapshot is no longer current, and its successor is
committed all the same. -/
theorem refresh_is_overwritten :
    ((Log.commits refreshedRun.log).map Snapshot.id).Nodup ∧
      firstFact ∈ Log.commits refreshedRun.log ∧ Successor firstFact movedFact ∧
      movedFact.defect? = none ∧ refreshedRun.store.current = some keptFact ∧
      keptFact ≠ firstFact ∧
      (refreshedRun.store.set ⟨1, .epoch⟩ .strict movedFact).result = .ok movedFact ∧
      (refreshedRun.store.set ⟨1, .epoch⟩ .strict movedFact).store.current = some movedFact := by
  have judged : judge refreshedRun.store.current .strict movedFact = .publish movedFact false := by
    decide
  refine ⟨by decide, by decide, ⟨markOf "c", .idle, "change", none, rfl⟩, by decide, by decide,
    by decide, ?_⟩
  exact Store.set_of_publish judged ⟨1, .epoch⟩

end AgentState
