/-
AgentState.Config.Document — settings in documents.

* `Document` — what is asked of a kind of document that settings are read
  from: records, natural numbers, real numbers and names of choices.
* `CoreConfig.read?` and its parts — settings of a document.  What the
  document leaves out has its standard value, on every level.
-/
import AgentState.Config
import AgentState.Record
import AgentState.Json.Form

namespace AgentState

/-- A kind of document that settings are read from. -/
class Document (β : Type) where
  /-- A record with the given fields. -/
  record? : List String → β → Option (Record β)
  /-- A number below 2^64. -/
  word? : β → Option UInt64
  /-- A real number. -/
  real? : β → Option Float
  /-- The name of a choice. -/
  choice? : β → Option String

instance : Document Json.Value where
  record? := Json.Value.record?
  word? := Json.read?
  real? := Json.Value.real?
  choice? := Json.Value.choice?

variable {β : Type} [Document β]

open Document

namespace VersionPolicy

def read? (d : β) : Option VersionPolicy := (choice? d).bind ofName?

end VersionPolicy

namespace HealthThresholds

/-- The fields of the record, in order. -/
def names : List String :=
  ["max_conflict_ratio", "warn_conflict_ratio", "subscriber_warn_fraction",
   "max_missed_ratio", "stale_after_ms"]

def read? (d : β) : Option HealthThresholds := do
  let r ← record? names d
  some {
    maxConflictRatio := ← r.orElse? real? "max_conflict_ratio" standard.maxConflictRatio
    warnConflictRatio := ← r.orElse? real? "warn_conflict_ratio" standard.warnConflictRatio
    subscriberWarnFraction :=
      ← r.orElse? real? "subscriber_warn_fraction" standard.subscriberWarnFraction
    maxMissedRatio := ← r.orElse? real? "max_missed_ratio" standard.maxMissedRatio
    staleAfterMs := ← r.orElse? word? "stale_after_ms" standard.staleAfterMs }

end HealthThresholds

namespace StoreConfig

/-- The fields of the record, in order. -/
def names : List String := ["queue_capacity", "notify_timeout_ms", "max_subscribers", "health"]

def read? (d : β) : Option StoreConfig := do
  let r ← record? names d
  some {
    queueCapacity := ← r.orElse? word? "queue_capacity" standard.queueCapacity
    notifyTimeoutMs := ← r.orElse? word? "notify_timeout_ms" standard.notifyTimeoutMs
    maxSubscribers := ← r.orElse? word? "max_subscribers" standard.maxSubscribers
    health := ← r.orElse? HealthThresholds.read? "health" standard.health }

end StoreConfig

namespace CycleConfig

/-- The fields of the record, in order. -/
def names : List String := ["tick_interval_ms", "recovery_delay_ms", "version_policy"]

def read? (d : β) : Option CycleConfig := do
  let r ← record? names d
  some {
    tickIntervalMs := ← r.orElse? word? "tick_interval_ms" standard.tickIntervalMs
    recoveryDelayMs := ← r.orElse? word? "recovery_delay_ms" standard.recoveryDelayMs
    versionPolicy := ← r.orElse? VersionPolicy.read? "version_policy" standard.versionPolicy }

end CycleConfig

namespace CoreConfig

/-- The fields of the record, in order. -/
def names : List String := ["store", "cycle"]

def read? (d : β) : Option CoreConfig := do
  let r ← record? names d
  some {
    store := ← r.orElse? StoreConfig.read? "store" standard.store
    cycle := ← r.orElse? CycleConfig.read? "cycle" standard.cycle }

end CoreConfig

end AgentState
