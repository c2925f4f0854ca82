/-
AgentState.Proofs.Store.Balance — what the numbers about writes say.

A conflict is counted before it is known whether it can be repaired, a
commit where the snapshot is put in its place, and a refresh between the two.
Over whole runs the numbers are counts of what happened all the same, and so
the ratios that are shown are those of a part and its whole.

* `Event.isConflict`, `Event.isRepair`, `Event.isRefresh` — what is counted.
* `Event.Counts` — the numbers before an event and after it;
  `Run.Move.counts` — so it is at every step.
* `Run.answer_of_write` — the event of a write has the answer of the write.
* `Run.Tallied` — the numbers of a store are those of its log.
* `Run.Limited` — there are no more subscribers than there may be.
* `sets_are_balanced` — the balances of every run, and of the metrics.
-/
import AgentState.Proofs.Store.Outline
import AgentState.Proofs.Store.Chronicle

namespace AgentState

/-! ## What is counted -/

namespace Event

/-- Whether a write was answered with a version conflict. -/
def isConflict (e : Event) : Bool :=
  match e.answer? with
  | some (.error (.versionConflict _ _)) => true
  | _ => false

/-- Whether a write was answered with another version than that of its
candidate. -/
def isRepair : Event → Bool
  | .written _ candidate v =>
      match v.answer with
      | .ok x => x.version ≠ candidate.version
      | .error _ => false
  | _ => false

/-- Whether something became current and nobody was told. -/
def isRefresh (e : Event) : Bool := e.committed?.isSome && e.published?.isNone

/-- The numbers about writes, before an event and after it. -/
structure Counts (e : Event) (before after : Counters) : Prop where
  rejected : after.rejectedSets = before.rejectedSets + if e.isConflict then 1 else 0
  conflicts : after.versionConflicts =
    before.versionConflicts + ((if e.isConflict then 1 else 0) + if e.isRepair then 1 else 0)
  sets : after.totalSets =
    before.totalSets + (e.published?.toList.length + if e.isRefresh then 1 else 0)
  refreshes : after.refreshes = before.refreshes + if e.isRefresh then 1 else 0
  repaired : (if e.isRepair then 1 else 0) ≤ e.published?.toList.length

/-- An event that answers no write and commits nothing counts nothing. -/
theorem Counts.idle {e : Event} {before after : Counters} (conflict : e.isConflict = false)
    (repair : e.isRepair = false) (refresh : e.isRefresh = false) (silent : e.published? = none)
    (rejected : after.rejectedSets = before.rejectedSets)
    (conflicts : after.versionConflicts = before.versionConflicts)
    (sets : after.totalSets = before.totalSets) (refreshes : after.refreshes = before.refreshes) :
    Counts e before after := by
  constructor <;> simp [*]

end Event

namespace Run

/-- Every step changes the numbers about writes as its event says. -/
theorem Move.counts {r r' : Run} (move : Move r r') :
    ∃ e, r'.log = e :: r.log ∧ e.Counts r.store.counters r'.store.counters := by
  cases move with
  | refused policy candidate why =>
    refine ⟨_, rfl, ?_⟩
    cases why <;> exact ⟨rfl, rfl, rfl, rfl, Nat.le_refl 0⟩
  | refreshed now policy candidate x free judged =>
    obtain rfl := eq_of_refresh judged
    have kept : (Event.written policy x (.refresh x)).isRepair = false := by
      simp [Event.isRepair, Verdict.answer]
    exact ⟨_, rfl, rfl, by rw [kept]; rfl, rfl, rfl, by simp [kept]⟩
  | published now policy candidate x repaired free judged =>
    have repair : (Event.written policy candidate (.publish x repaired)).isRepair = repaired := by
      rw [Bool.eq_iff_iff, ← version_ne_iff_of_publish judged]
      exact decide_eq_true_iff
    cases repaired <;>
      exact ⟨_, rfl, rfl, by rw [repair]; rfl, rfl, rfl, by simp [repair, Event.published?]⟩
  | coldStarted mark => exact ⟨_, rfl, rfl, rfl, rfl, rfl, Nat.zero_le _⟩
  | begunBefore | told | settled | read | unsubscribed | took | detached =>
    exact ⟨_, rfl, .idle rfl rfl rfl rfl rfl rfl rfl rfl⟩
  | subscribed label capacity id ok =>
    obtain ⟨-, counters⟩ := Store.subscribe_ok_numbers ok
    refine ⟨_, rfl, ?_⟩
    rw [counters]
    exact .idle rfl rfl rfl rfl rfl rfl rfl rfl
  | turnedAway label capacity why error =>
    obtain ⟨-, counters⟩ := Store.subscribe_error_numbers error
    refine ⟨_, rfl, ?_⟩
    rw [counters]
    exact .idle rfl rfl rfl rfl rfl rfl rfl rfl

/-- A write that finds the gate free is one event, with the answer that the
writer gets when the write is over. -/
theorem answer_of_write {r : Run} (free : r.flight = none) (now : Stamp) (policy : VersionPolicy)
    (x : Snapshot) :
    ∃ e, (r.step (.write now policy x)).log = e :: r.log ∧
      e.answer? = some (r.store.set now policy x).result := by
  refine ⟨.written policy x (judge r.store.current policy x), by simp [step, free], ?_⟩
  rw [Store.set_answer]
  rfl

/-- The numbers about writes are those of the log. -/
structure Tallied (r : Run) : Prop where
  rejected : r.store.counters.rejectedSets = r.log.countP Event.isConflict
  conflicts : r.store.counters.versionConflicts =
    r.log.countP Event.isConflict + r.log.countP Event.isRepair
  sets : r.store.counters.totalSets =
    (Log.published r.log).length + r.log.countP Event.isRefresh
  refreshes : r.store.counters.refreshes = r.log.countP Event.isRefresh
  repaired : r.log.countP Event.isRepair ≤ (Log.published r.log).length

theorem Tallied.move {r r' : Run} (move : Move r r') (h : Tallied r) : Tallied r' := by
  obtain ⟨e, log, counts⟩ := move.counts
  obtain ⟨rejected, conflicts, sets, refreshes, repaired⟩ := h
  obtain ⟨rejected', conflicts', sets', refreshes', repaired'⟩ := counts
  constructor <;> simp only [log, List.countP_cons, Log.published, List.length_append] <;> omega

/-- The numbers about writes along every run of a new store. -/
theorem tallied_after (config : StoreConfig) (instanceId : String) (started : Stamp)
    (acts : List Act) : Tallied ((start config instanceId started).after acts) :=
  after_of_move (fun _ _ => Tallied.move) acts ⟨rfl, rfl, rfl, rfl, Nat.le_refl _⟩

/-- No commit is both repaired and a refresh. -/
theorem Tallied.repairs_le {r : Run} (h : Tallied r) :
    r.store.counters.refreshes + r.log.countP Event.isRepair ≤ r.store.counters.totalSets := by
  have sets := h.sets
  have refreshes := h.refreshes
  have repaired := h.repaired
  omega

/-- A conflict is rejected, or is a set. -/
theorem Tallied.conflicts_le {r : Run} (h : Tallied r) :
    r.store.counters.versionConflicts ≤
      r.store.counters.totalSets + r.store.counters.rejectedSets := by
  have rejected := h.rejected
  have conflicts := h.conflicts
  have repairs := h.repairs_le
  omega

/-- There are no more subscribers than there may be. -/
def Limited (r : Run) : Prop := r.store.subscribers.length ≤ r.store.config.maxSubscribers.toNat

theorem Limited.move {r r' : Run} (move : Move r r') (h : Limited r) : Limited r' := by
  unfold Limited at h ⊢
  cases move with
  | refused | refreshed | published => simpa using h
  | coldStarted | begunBefore | told | read | took | detached => exact h
  | settled f =>
    have kept : (r.store.settle f).subscribers.length ≤ r.store.subscribers.length :=
      Nat.le_trans (List.length_filter_le _ _) (Nat.le_of_eq (List.length_map _))
    exact Nat.le_trans kept h
  | unsubscribed id => exact Nat.le_trans (List.length_filter_le _ _) h
  | subscribed label capacity id ok =>
    rw [(Store.subscribe_ok_numbers ok).1, Store.subscribe_config, List.length_append]
    exact Store.length_of_subscribe_ok ok
  | turnedAway label capacity why error =>
    rw [(Store.subscribe_error_numbers error).1, Store.subscribe_config]
    exact h

theorem limited_after (config : StoreConfig) (instanceId : String) (started : Stamp)
    (acts : List Act) : Limited ((start config instanceId started).after acts) :=
  after_of_move (fun _ _ => Limited.move) acts (Nat.zero_le _)

end Run

/-! ## Metrics -/

theorem toNat_ofNat_le (n : Nat) : (UInt64.ofNat n).toNat ≤ n := by
  rw [UInt64.toNat_ofNat']
  exact Nat.mod_le _ _

/-- A balance of numbers that fit is one of the metrics. -/
theorem Store.metrics_conflicts_le {s : Store}
    (balance : s.counters.versionConflicts ≤ s.counters.totalSets + s.counters.rejectedSets)
    (sets : s.counters.totalSets < UInt64.size) (rejected : s.counters.rejectedSets < UInt64.size)
    (now : Stamp) :
    (s.metrics now).versionConflicts.toNat ≤
      (s.metrics now).totalSets.toNat + (s.metrics now).rejectedSets.toNat := by
  have part := toNat_ofNat_le s.counters.versionConflicts
  have whole₁ : (UInt64.ofNat s.counters.totalSets).toNat = s.counters.totalSets :=
    UInt64.toNat_ofNat_of_lt sets
  have whole₂ : (UInt64.ofNat s.counters.rejectedSets).toNat = s.counters.rejectedSets :=
    UInt64.toNat_ofNat_of_lt rejected
  show (UInt64.ofNat s.counters.versionConflicts).toNat ≤
    (UInt64.ofNat s.counters.totalSets).toNat + (UInt64.ofNat s.counters.rejectedSets).toNat
  omega

theorem Run.Limited.metrics {r : Run} (h : Limited r) (now : Stamp) :
    (r.store.metrics now).activeSubscribers ≤ (r.store.metrics now).maxSubscribers :=
  UInt64.le_iff_toNat_le.2 (Nat.le_trans (toNat_ofNat_le _) h)

/-- The numbers about writes, and the number of subscribers, at every moment
of every run of a new store.

The rejected writes are those that were answered with a version conflict.
The conflicts are these and the commits whose version was repaired.  The sets
are what was published, a cold start among it, and what was refreshed, and no
commit is both repaired and a refresh.  So there are no more conflicts than
sets and rejected writes together, and no more subscribers than there may be.
The metrics show the same while their counters last: the parts that
`Metrics.conflictRatio` and `Metrics.saturation` divide are not greater than
the wholes. -/
theorem sets_are_balanced (config : StoreConfig) (instanceId : String) (started : Stamp)
    (acts : List Act) :
    let r := (Run.start config instanceId started).after acts
    let c := r.store.counters
    c.rejectedSets = r.log.countP Event.isConflict ∧
    c.versionConflicts = c.rejectedSets + r.log.countP Event.isRepair ∧
    c.totalSets = (Log.published r.log).length + r.log.countP Event.isRefresh ∧
    c.refreshes = r.log.countP Event.isRefresh ∧
    c.refreshes + r.log.countP Event.isRepair ≤ c.totalSets ∧
    c.versionConflicts ≤ c.totalSets + c.rejectedSets ∧
    r.store.subscribers.length ≤ config.maxSubscribers.toNat ∧
    ∀ now, let m := r.store.metrics now
      m.activeSubscribers ≤ m.maxSubscribers ∧
      (c.totalSets < UInt64.size → c.rejectedSets < UInt64.size →
        m.versionConflicts.toNat ≤ m.totalSets.toNat + m.rejectedSets.toNat ∧
        (m.totalSets.toNat + m.rejectedSets.toNat < UInt64.size →
          m.versionConflicts ≤ m.totalSets + m.rejectedSets)) := by
  intro r c
  have tallied : Run.Tallied r := Run.tallied_after config instanceId started acts
  have limited : Run.Limited r := Run.limited_after config instanceId started acts
  refine ⟨tallied.rejected, ?_, tallied.sets, tallied.refreshes, tallied.repairs_le,
    tallied.conflicts_le, ?_, fun now => ⟨limited.metrics now, fun fits₁ fits₂ => ?_⟩⟩
  · exact tallied.conflicts.trans (congrArg (· + _) tallied.rejected.symm)
  · rw [← Run.config_after config instanceId started acts]
    exact limited
  · have shown := Store.metrics_conflicts_le tallied.conflicts_le fits₁ fits₂ now
    refine ⟨shown, fun fits => ?_⟩
    rwa [UInt64.le_iff_toNat_le, UInt64.toNat_add, Nat.mod_eq_of_lt fits]

end AgentState
