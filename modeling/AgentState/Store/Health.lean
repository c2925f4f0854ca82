/-
AgentState.Store.Health — what the numbers of a store say about it.

`HealthReport.of` compares metrics with thresholds.  Every threshold is
looked at whatever the others say, and the findings come in a fixed order:
those that make a store unhealthy under `issues`, those worth a look under
`warnings`.
-/
import AgentState.Config
import AgentState.Store.Metrics
import AgentState.Text.Places
import AgentState.Text.SpanText

namespace AgentState

/-- The outcome of a health check. -/
structure HealthReport where
  healthy : Bool
  issues : List String
  warnings : List String
  deriving DecidableEq

namespace HealthReport

/-- A ratio as it stands in a finding. -/
def ratioText (x : Float) : String := Places.text 3 x

/-- The findings that make a store unhealthy. -/
def issuesOf (m : Metrics) (h : HealthThresholds) : List String :=
  [finding? (m.conflictRatio ≤ h.maxConflictRatio)
     ("version conflict ratio " ++ ratioText m.conflictRatio ++ " exceeds " ++
       ratioText h.maxConflictRatio),
   finding? (m.maxSubscribers == 0 || m.activeSubscribers < m.maxSubscribers)
     ("subscriber capacity exhausted (" ++ Decimal.write m.activeSubscribers.toNat ++ "/" ++
       Decimal.write m.maxSubscribers.toNat ++ ")")
  ].filterMap id

/-- The findings that are worth a look. -/
def warningsOf (m : Metrics) (h : HealthThresholds) : List String :=
  [finding? (m.conflictRatio ≤ h.warnConflictRatio || m.conflictRatio > h.maxConflictRatio)
     ("version conflict ratio elevated at " ++ ratioText m.conflictRatio),
   finding? (m.saturation < h.subscriberWarnFraction || m.activeSubscribers ≥ m.maxSubscribers)
     ("subscriber usage at " ++ Places.text 0 (m.saturation * 100.0) ++ "% of capacity"),
   finding? (m.missedRatio ≤ h.maxMissedRatio)
     ("missed notification ratio " ++ ratioText m.missedRatio ++ " exceeds " ++
       ratioText h.maxMissedRatio),
   finding? m.currentVersion.isSome "store has not been initialized",
   m.lastUpdateAge.bind (fun age =>
     finding? (age.toNanos ≤ h.staleAfter.toNanos)
       ("no update for " ++ age.text ++ " (stale after " ++ h.staleAfter.text ++ ")"))
  ].filterMap id

/-- The findings of metrics under thresholds. -/
def of (m : Metrics) (h : HealthThresholds) : HealthReport :=
  { healthy := (issuesOf m h).isEmpty, issues := issuesOf m h, warnings := warningsOf m h }

end HealthReport

end AgentState
