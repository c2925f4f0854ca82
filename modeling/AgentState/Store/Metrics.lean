/-
AgentState.Store.Metrics — what a store has done so far, in numbers.

* `Metrics` — the counters and the present facts of a store.
* `Metrics.conflictRatio`, `Metrics.missedRatio`, `Metrics.saturation` —
  the ratios that a health check looks at; each is zero without activity.
-/
import AgentState.State
import AgentState.Clock

namespace AgentState

/-- A view of a store's activity at one moment.  A conflict is counted
whether it was repaired or rejected, and a refresh is also a set. -/
structure Metrics where
  totalSets : UInt64
  totalGets : UInt64
  versionConflicts : UInt64
  rejectedSets : UInt64
  refreshes : UInt64
  notificationsDelivered : UInt64
  notificationsMissed : UInt64
  subscribersPruned : UInt64
  activeSubscribers : UInt64
  maxSubscribers : UInt64
  uptime : Span
  lastUpdateAge : Option Span
  lastUpdateWall : Option WallTime
  currentVersion : Option UInt64
  currentState : Option State
  deriving DecidableEq

/-- A part of a whole as a number; nothing of nothing is zero. -/
def ratio (part whole : UInt64) : Float :=
  if whole = 0 then 0.0 else part.toFloat / whole.toFloat

namespace Metrics

/-- How many of the attempted sets did not advance. -/
def conflictRatio (m : Metrics) : Float :=
  ratio m.versionConflicts (m.totalSets + m.rejectedSets)

/-- How many of the notifications came too late. -/
def missedRatio (m : Metrics) : Float :=
  ratio m.notificationsMissed (m.notificationsDelivered + m.notificationsMissed)

/-- How much of the room for subscribers is taken. -/
def saturation (m : Metrics) : Float := ratio m.activeSubscribers m.maxSubscribers

end Metrics

end AgentState
