/-
AgentState.Store.Basic — the store of the current snapshot.

* `Store` — the current snapshot, the registered subscribers, their
  mailboxes and the counters.
* `Snapshot.refreshes` — a successor in the same state: it takes the place
  of the current snapshot and keeps the version.
* `judge` — what becomes of a candidate.  It is the only rule by which a
  snapshot gets into a store that is not empty.
* `Store.get`, `Store.subscribe`, `Store.unsubscribe` and the operations of
  receivers.  Each is one step that nothing can come between.
-/
import AgentState.Config
import AgentState.Store.Error
import AgentState.Store.Mailbox
import AgentState.Store.Health

namespace AgentState

/-- What a store has done so far. -/
structure Counters where
  totalSets : Nat
  totalGets : Nat
  versionConflicts : Nat
  rejectedSets : Nat
  refreshes : Nat
  delivered : Nat
  missed : Nat
  pruned : Nat
  deriving DecidableEq

/-- Before anything was done. -/
def Counters.zero : Counters := ⟨0, 0, 0, 0, 0, 0, 0, 0⟩

/-- A registered subscriber. -/
structure Subscriber where
  id : SubscriberId
  label : String
  capacity : UInt64
  delivered : Nat
  missed : Nat
  deriving DecidableEq

/-- The identifier of a subscriber as it is shown. -/
def SubscriberId.text (id : SubscriberId) : String :=
  "sub-" ++ Decimal.write id.number

/-- The holder of the current snapshot.  Subscribers stand in the order of
their registration; mailboxes outlive it. -/
structure Store where
  config : StoreConfig
  instanceId : String
  started : Stamp
  current : Option Snapshot
  subscribers : List Subscriber
  mailboxes : Mailboxes
  counters : Counters
  lastUpdate : Option Stamp
  nextSubscriber : Nat

/-- Whether a candidate is the successor of the current snapshot in the same
state. -/
def Snapshot.refreshes (candidate current : Snapshot) : Bool :=
  candidate.version == current.version && candidate.state == current.state &&
    candidate.isDerivedFrom current

/-- What becomes of a candidate. -/
inductive Verdict where
  | refuse (why : StoreError)
  | refresh (snapshot : Snapshot)
  | publish (snapshot : Snapshot) (repaired : Bool)
  deriving DecidableEq

/-- Judges a candidate.  A version that does not advance is refused, or
replaced by the next one while there is one. -/
def judge (current : Option Snapshot) (policy : VersionPolicy) (candidate : Snapshot) :
    Verdict :=
  match candidate.defect?, current with
  | some d, _ => .refuse (.defective d)
  | none, none => .publish candidate false
  | none, some c =>
      if candidate.refreshes c then .refresh candidate
      else if c.version < candidate.version then .publish candidate false
      else if policy = .repair ∧ c.version.toNat + 1 < UInt64.size then
        .publish (candidate.withVersion (c.version + 1)) true
      else .refuse (.versionConflict candidate.version c.version)

/-- What a receiver finds who is ready to wait: a snapshot, the end of all
snapshots, or nothing yet. -/
inductive Arrival where
  | snapshot (s : Snapshot)
  | ended
  | pending
  deriving DecidableEq

/-- What a store shows of itself. -/
structure Diagnostics where
  instanceId : String
  metrics : Metrics
  config : StoreConfig
  subscribers : List Subscriber

namespace Store

/-- An empty store. -/
def empty (config : StoreConfig) (instanceId : String) (started : Stamp) : Store :=
  { config, instanceId, started, current := none, subscribers := [], mailboxes := .empty
    counters := .zero, lastUpdate := none, nextSubscriber := 1 }

/-! ## Reading -/

/-- The current snapshot. -/
def get (s : Store) : Option Snapshot × Store :=
  (s.current, { s with counters := { s.counters with totalGets := s.counters.totalGets + 1 } })

/-- The numbers of the store at a moment. -/
def metrics (s : Store) (now : Stamp) : Metrics :=
  let c := s.counters
  let since (t : Stamp) : Span := .ofNanos (now.monotonic.toNat - t.monotonic.toNat)
  { totalSets := .ofNat c.totalSets
    totalGets := .ofNat c.totalGets
    versionConflicts := .ofNat c.versionConflicts
    rejectedSets := .ofNat c.rejectedSets
    refreshes := .ofNat c.refreshes
    notificationsDelivered := .ofNat c.delivered
    notificationsMissed := .ofNat c.missed
    subscribersPruned := .ofNat c.pruned
    activeSubscribers := .ofNat s.subscribers.length
    maxSubscribers := s.config.maxSubscribers
    uptime := since s.started
    lastUpdateAge := s.lastUpdate.map since
    lastUpdateWall := s.lastUpdate.map Stamp.wall
    currentVersion := s.current.map Snapshot.version
    currentState := s.current.map Snapshot.state }

/-- The findings about the store at a moment. -/
def health (s : Store) (now : Stamp) : HealthReport :=
  .of (s.metrics now) s.config.health

/-- The current snapshot with all that the store shows of itself. -/
def inspect (s : Store) (now : Stamp) : (Option Snapshot × Diagnostics) × Store :=
  let (current, s) := s.get
  ((current, ⟨s.instanceId, s.metrics now, s.config, s.subscribers⟩), s)

/-! ## Subscribers -/

/-- Whether a subscriber is registered. -/
def isRegistered (s : Store) (id : SubscriberId) : Bool := s.subscribers.any (fun e => e.id == id)

/-- Registers a subscriber.  Its mailbox begins with the current snapshot.
A refusal uses no number up, except that of a queue too large to be made. -/
def subscribe (s : Store) (label : String) (capacity : UInt64) :
    Except StoreError SubscriberId × Store :=
  let id : SubscriberId := ⟨s.nextSubscriber⟩
  if capacity = 0 then (.error .emptyQueue, s)
  else if s.config.maxSubscribers.toNat ≤ s.subscribers.length then
    (.error (.subscriberLimit s.config.maxSubscribers), s)
  else if Mailbox.largest < capacity.toNat then
    (.error .hugeQueue, { s with nextSubscriber := s.nextSubscriber + 1 })
  else
    let waiting := s.current.toList
    (.ok id,
     { s with
       subscribers := s.subscribers ++ [⟨id, label, capacity, waiting.length, 0⟩]
       mailboxes := s.mailboxes.put id { Mailbox.empty capacity.toNat with queue := waiting }
       counters := { s.counters with delivered := s.counters.delivered + waiting.length }
       nextSubscriber := s.nextSubscriber + 1 })

/-- Registers a subscriber with the queue of the settings. -/
def subscribeDefault (s : Store) (label : String) : Except StoreError SubscriberId × Store :=
  s.subscribe label s.config.queueCapacity

/-- Removes a subscriber; whether it was there.  Its mailbox stays. -/
def unsubscribe (s : Store) (id : SubscriberId) : Bool × Store :=
  (s.isRegistered id, { s with subscribers := s.subscribers.filter (fun e => e.id ≠ id) })

/-! ## Receivers -/

/-- The mailbox of a subscriber. -/
def box (s : Store) (id : SubscriberId) : Mailbox := s.mailboxes.box id

/-- Changes the mailbox of a subscriber. -/
def putBox (s : Store) (id : SubscriberId) (m : Mailbox) : Store :=
  { s with mailboxes := s.mailboxes.put id m }

/-- Takes the oldest snapshot out of a mailbox. -/
def receive (s : Store) (id : SubscriberId) : Option Snapshot × Store :=
  let (found, m) := (s.box id).receive
  (found, s.putBox id m)

/-- Takes the oldest snapshot out of a mailbox, or tells whether one can
still come. -/
def await (s : Store) (id : SubscriberId) : Arrival × Store :=
  match s.receive id with
  | (some x, s) => (.snapshot x, s)
  | (none, s) => (if s.isRegistered id then .pending else .ended, s)

/-- Takes all snapshots out of a mailbox. -/
def drain (s : Store) (id : SubscriberId) : List Snapshot × Store :=
  let (found, m) := (s.box id).drain
  (found, s.putBox id m)

/-- Gives the receiving end of a mailbox up.  The subscriber stays
registered until a notification finds the mailbox closed. -/
def detach (s : Store) (id : SubscriberId) : Store := s.putBox id (s.box id).detach

/-- Ends the store's own part: nobody is registered any more, and what is in
the mailboxes can still be received. -/
def close (s : Store) : Store := { s with subscribers := [] }

end Store

end AgentState
