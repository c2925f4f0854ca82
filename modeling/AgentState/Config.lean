/-
AgentState.Config — the settings of an agent's core.

* `VersionPolicy` — what becomes of a write that does not advance.
* `StoreConfig`, `HealthThresholds`, `CycleConfig` — settings by part,
  each with a `standard` value; `CoreConfig` holds them all.
* `CoreConfig.problems` — everything that is wrong with the settings, in a
  fixed order; `CoreConfig.validate` accepts those without problems.
-/
import AgentState.Clock

namespace AgentState

/-- What becomes of a write that does not advance the version: it is
refused, or it is given the next version. -/
inductive VersionPolicy where
  | strict
  | repair
  deriving DecidableEq, Inhabited

namespace VersionPolicy

/-- Both policies, in declaration order. -/
def all : List VersionPolicy := [.strict, .repair]

/-- The stable name of a policy. -/
def name : VersionPolicy → String
  | .strict => "strict"
  | .repair => "repair"

/-- The policy of a name; any other text names none. -/
def ofName? (s : String) : Option VersionPolicy := all.find? (fun p => p.name == s)

theorem ofName?_name (p : VersionPolicy) : ofName? p.name = some p := by
  cases p <;> decide

end VersionPolicy

/-- The limits that a health check compares with. -/
structure HealthThresholds where
  maxConflictRatio : Float
  warnConflictRatio : Float
  subscriberWarnFraction : Float
  maxMissedRatio : Float
  staleAfterMs : UInt64

namespace HealthThresholds

def standard : HealthThresholds :=
  { maxConflictRatio := 0.10, warnConflictRatio := 0.01, subscriberWarnFraction := 0.80
    maxMissedRatio := 0.10, staleAfterMs := 60000 }

/-- The age from which the last write is stale. -/
def staleAfter (h : HealthThresholds) : Span := .ofMillis h.staleAfterMs

end HealthThresholds

/-- The settings of a store. -/
structure StoreConfig where
  queueCapacity : UInt64
  notifyTimeoutMs : UInt64
  maxSubscribers : UInt64
  health : HealthThresholds

namespace StoreConfig

def standard : StoreConfig :=
  { queueCapacity := 64, notifyTimeoutMs := 25, maxSubscribers := 32, health := .standard }

/-- How long one notification may wait. -/
def notifyTimeout (c : StoreConfig) : Span := .ofMillis c.notifyTimeoutMs

end StoreConfig

/-- The settings of the decision cycle. -/
structure CycleConfig where
  tickIntervalMs : UInt64
  recoveryDelayMs : UInt64
  versionPolicy : VersionPolicy

namespace CycleConfig

def standard : CycleConfig :=
  { tickIntervalMs := 1000, recoveryDelayMs := 1000, versionPolicy := .repair }

/-- The time from one tick to the next. -/
def tickInterval (c : CycleConfig) : Span := .ofMillis c.tickIntervalMs

/-- The pause after a failed tick. -/
def recoveryDelay (c : CycleConfig) : Span := .ofMillis c.recoveryDelayMs

end CycleConfig

/-- All settings. -/
structure CoreConfig where
  store : StoreConfig
  cycle : CycleConfig

/-- Why settings were not accepted. -/
inductive ConfigError where
  | unreadable
  | invalid (problems : List String)

namespace ConfigError

/-- The text of the error. -/
def message : ConfigError → String
  | .unreadable => "Failed to parse configuration"
  | .invalid problems => "Invalid configuration: " ++ "; ".intercalate problems

end ConfigError

/-- Whether a number lies between zero and one, both included. -/
def isFraction (x : Float) : Bool := 0.0 ≤ x && x ≤ 1.0

/-- A finding, unless the condition holds. -/
def finding? (holds : Bool) (text : String) : Option String :=
  if holds then none else some text

namespace CoreConfig

def standard : CoreConfig := ⟨.standard, .standard⟩

/-- Everything that is wrong with the settings.  No check depends on the
outcome of another. -/
def problems (c : CoreConfig) : List String :=
  let health := c.store.health
  [finding? (0 < c.store.queueCapacity) "store.queue_capacity must be at least 1",
   finding? (0 < c.store.maxSubscribers) "store.max_subscribers must be at least 1",
   finding? (0 < c.store.notifyTimeoutMs) "store.notify_timeout_ms must be greater than 0",
   finding? (isFraction health.maxConflictRatio)
     "store.health.max_conflict_ratio must be within 0.0..=1.0",
   finding? (isFraction health.warnConflictRatio)
     "store.health.warn_conflict_ratio must be within 0.0..=1.0",
   finding? (health.warnConflictRatio ≤ health.maxConflictRatio)
     "store.health.warn_conflict_ratio must not exceed max_conflict_ratio",
   finding? (isFraction health.subscriberWarnFraction)
     "store.health.subscriber_warn_fraction must be within 0.0..=1.0",
   finding? (isFraction health.maxMissedRatio)
     "store.health.max_missed_ratio must be within 0.0..=1.0",
   finding? (0 < c.cycle.tickIntervalMs) "cycle.tick_interval_ms must be greater than 0"
  ].filterMap id

/-- Accepts settings without problems. -/
def validate (c : CoreConfig) : Except ConfigError Unit :=
  match c.problems with
  | [] => .ok ()
  | ps => .error (.invalid ps)

end CoreConfig

end AgentState
