/-
AgentState.Document.Report — metrics and health reports as documents.
-/
import AgentState.Store.Health
import AgentState.Document.Snapshot

namespace AgentState

open Json

namespace Metrics

/-- The members of metrics, in order. -/
def names : List String :=
  ["total_sets", "total_gets", "version_conflicts", "rejected_sets", "refreshes",
   "notifications_delivered", "notifications_missed", "subscribers_pruned",
   "active_subscribers", "max_subscribers", "uptime", "last_update_age", "last_update_wall",
   "current_version", "current_state"]

instance : Writable Metrics where
  write m := objectValue [
    ("total_sets", write m.totalSets), ("total_gets", write m.totalGets),
    ("version_conflicts", write m.versionConflicts), ("rejected_sets", write m.rejectedSets),
    ("refreshes", write m.refreshes),
    ("notifications_delivered", write m.notificationsDelivered),
    ("notifications_missed", write m.notificationsMissed),
    ("subscribers_pruned", write m.subscribersPruned),
    ("active_subscribers", write m.activeSubscribers),
    ("max_subscribers", write m.maxSubscribers), ("uptime", write m.uptime),
    ("last_update_age", write m.lastUpdateAge), ("last_update_wall", write m.lastUpdateWall),
    ("current_version", write m.currentVersion), ("current_state", write m.currentState)]

instance : Readable Metrics where
  read? v := do
    let r ← v.record? names
    some {
      totalSets := ← r.required? read? "total_sets"
      totalGets := ← r.required? read? "total_gets"
      versionConflicts := ← r.required? read? "version_conflicts"
      rejectedSets := ← r.required? read? "rejected_sets"
      refreshes := ← r.required? read? "refreshes"
      notificationsDelivered := ← r.required? read? "notifications_delivered"
      notificationsMissed := ← r.required? read? "notifications_missed"
      subscribersPruned := ← r.required? read? "subscribers_pruned"
      activeSubscribers := ← r.required? read? "active_subscribers"
      maxSubscribers := ← r.required? read? "max_subscribers"
      uptime := ← r.required? read? "uptime"
      lastUpdateAge := ← r.optional? read? "last_update_age"
      lastUpdateWall := ← r.optional? read? "last_update_wall"
      currentVersion := ← r.optional? read? "current_version"
      currentState := ← r.optional? read? "current_state" }

end Metrics

namespace HealthReport

/-- The members of a report, in order. -/
def names : List String := ["healthy", "issues", "warnings"]

instance : Writable HealthReport where
  write r := objectValue [
    ("healthy", write r.healthy), ("issues", write r.issues), ("warnings", write r.warnings)]

instance : Readable HealthReport where
  read? v := do
    let r ← v.record? names
    some {
      healthy := ← r.required? read? "healthy"
      issues := ← r.required? read? "issues"
      warnings := ← r.required? read? "warnings" }

end HealthReport

end AgentState
