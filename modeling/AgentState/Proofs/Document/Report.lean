/-
AgentState.Proofs.Document.Report — metrics and health reports are read back
from their documents.

* `Span.ofParts?_self` — a span is made again of its seconds and nanoseconds.
* Spans and health reports are `Lossless`; spans are also `Solid`, so that an
  age may be absent.  Metrics are `Carrying`.
-/
import AgentState.Document.Report
import AgentState.Proofs.Document.Snapshot

namespace AgentState

open Json

/-! ## Spans -/

namespace Span

/-- A span is made again of its seconds and nanoseconds. -/
theorem ofParts?_self (s : Span) : ofParts? s.seconds s.nanos = some s := by
  have short := s.nanos_lt
  have seconds : (s.seconds.toNat * 1000000000 + s.nanos) / 1000000000 = s.seconds.toNat := by
    omega
  have nanos : (s.seconds.toNat * 1000000000 + s.nanos) % 1000000000 = s.nanos := by omega
  have fits : s.seconds.toNat < UInt64.size := s.seconds.toNat_lt
  simp only [ofParts?, ofNanos, seconds, nanos, fits, if_true, UInt64.ofNat_toNat]

/-- The members of a written span. -/
def members (s : Span) : List (String × Value) :=
  [("secs", write s.seconds), ("nanos", write (UInt32.ofNat s.nanos))]

theorem nodup_members (s : Span) : (s.members.map Prod.fst).Nodup :=
  show ["secs", "nanos"].Nodup by decide

instance : Lossless Span where
  spelled s := by
    have spelled : ∀ m ∈ s.members, m.2.Spelled := by simp [members, Lossless.spelled]
    exact spelled_objectValue spelled
  read?_write s := by
    have nodup := s.nodup_members
    have small : s.nanos < UInt32.size := Nat.lt_trans s.nanos_lt (by decide)
    have nanos : (UInt32.ofNat s.nanos).toNat = s.nanos := UInt32.toNat_ofNat_of_lt' small
    have all : (write s).members? = some s.members := members?_objectValue s.members
    show (Value.record? ["secs", "nanos"] (objectValue s.members) >>= _) = some s
    refine bind_of_some (record?_objectValue nodup _) ?_
    refine bind_required? nodup "secs" s.seconds (by simp [members]) ?_
    refine bind_required? nodup "nanos" (UInt32.ofNat s.nanos) (by simp [members]) ?_
    -- A span has no members but these two.
    rw [all, carried_of_lossless, carried_of_lossless, nanos, ofParts?_self]
    rfl
instance : Solid Span := ⟨fun _ => by simp [write, objectValue]⟩

end Span

/-! ## Metrics -/

namespace Metrics

/-- The metrics with the time of the latest update carried over. -/
def carried (m : Metrics) : Metrics :=
  { m with lastUpdateWall := m.lastUpdateWall.map WallTime.carried }

theorem carried_eq_self_iff {m : Metrics} :
    m.carried = m ↔ ∀ t ∈ m.lastUpdateWall, t.IsRegular := by
  have wall : m.carried = m ↔ m.lastUpdateWall.map WallTime.carried = m.lastUpdateWall :=
    ⟨congrArg Metrics.lastUpdateWall, fun same => by rw [carried, same]⟩
  rw [wall]
  cases m.lastUpdateWall with
  | none => simp
  | some t => simp [WallTime.carried_eq_self_iff]

/-- The members of written metrics. -/
def members (m : Metrics) : List (String × Value) :=
  [("total_sets", write m.totalSets), ("total_gets", write m.totalGets),
   ("version_conflicts", write m.versionConflicts), ("rejected_sets", write m.rejectedSets),
   ("refreshes", write m.refreshes), ("notifications_delivered", write m.notificationsDelivered),
   ("notifications_missed", write m.notificationsMissed),
   ("subscribers_pruned", write m.subscribersPruned),
   ("active_subscribers", write m.activeSubscribers), ("max_subscribers", write m.maxSubscribers),
   ("uptime", write m.uptime), ("last_update_age", write m.lastUpdateAge),
   ("last_update_wall", write m.lastUpdateWall), ("current_version", write m.currentVersion),
   ("current_state", write m.currentState)]

theorem nodup_members (m : Metrics) : (m.members.map Prod.fst).Nodup :=
  show names.Nodup by decide

instance : Carrying Metrics where
  carried := carried
  spelled m := by
    have spelled : ∀ n ∈ m.members, n.2.Spelled := by simp [members, Carrying.spelled]
    exact spelled_objectValue spelled
  read?_write m := by
    have nodup := m.nodup_members
    show (Value.record? names (objectValue m.members) >>= _) = some m.carried
    refine bind_of_some (record?_objectValue nodup names) ?_
    refine bind_required? nodup "total_sets" m.totalSets (by simp [members]) ?_
    refine bind_required? nodup "total_gets" m.totalGets (by simp [members]) ?_
    refine bind_required? nodup "version_conflicts" m.versionConflicts (by simp [members]) ?_
    refine bind_required? nodup "rejected_sets" m.rejectedSets (by simp [members]) ?_
    refine bind_required? nodup "refreshes" m.refreshes (by simp [members]) ?_
    refine bind_required? nodup "notifications_delivered" m.notificationsDelivered
      (by simp [members]) ?_
    refine bind_required? nodup "notifications_missed" m.notificationsMissed
      (by simp [members]) ?_
    refine bind_required? nodup "subscribers_pruned" m.subscribersPruned (by simp [members]) ?_
    refine bind_required? nodup "active_subscribers" m.activeSubscribers (by simp [members]) ?_
    refine bind_required? nodup "max_subscribers" m.maxSubscribers (by simp [members]) ?_
    refine bind_required? nodup "uptime" m.uptime (by simp [members]) ?_
    refine bind_optional? nodup "last_update_age" m.lastUpdateAge (by simp [members]) ?_
    refine bind_optional? nodup "last_update_wall" m.lastUpdateWall (by simp [members]) ?_
    refine bind_optional? nodup "current_version" m.currentVersion (by simp [members]) ?_
    refine bind_optional? nodup "current_state" m.currentState (by simp [members]) ?_
    rfl

end Metrics

/-! ## Health reports -/

namespace HealthReport

/-- The members of a written report. -/
def members (r : HealthReport) : List (String × Value) :=
  [("healthy", write r.healthy), ("issues", write r.issues), ("warnings", write r.warnings)]

theorem nodup_members (r : HealthReport) : (r.members.map Prod.fst).Nodup :=
  show names.Nodup by decide

instance : Lossless HealthReport where
  spelled r := by
    have spelled : ∀ m ∈ r.members, m.2.Spelled := by simp [members, Lossless.spelled]
    exact spelled_objectValue spelled
  read?_write r := by
    have nodup := r.nodup_members
    show (Value.record? names (objectValue r.members) >>= _) = some r
    refine bind_of_some (record?_objectValue nodup names) ?_
    refine bind_required? nodup "healthy" r.healthy (by simp [members]) ?_
    refine bind_required? nodup "issues" r.issues (by simp [members]) ?_
    refine bind_required? nodup "warnings" r.warnings (by simp [members]) ?_
    rfl

end HealthReport

end AgentState
