/-
AgentState.Store.FanOut — writing to a store and telling its subscribers.

A write is three kinds of steps: the commit, which also fixes whom to tell;
one offer for each of those, in order; and the accounting.  Between them
subscribers may come and go and receivers may act.

* `Store.commit`, `Store.coldStart` — the two kinds of commits.
* `FanOut` — a commit on its way to the subscribers.
* `Store.offer`, `Store.settle` — an offer and the accounting.
-/
import AgentState.Store.Basic

namespace AgentState

/-- A committed snapshot on its way: the subscribers that were registered
when it was published, and what became of the offers so far. -/
structure FanOut where
  snapshot : Snapshot
  targets : List SubscriberId
  receipts : List (SubscriberId × Receipt)
  deriving DecidableEq

namespace FanOut

/-- The subscribers with a given receipt. -/
def having (f : FanOut) (r : Receipt) : List SubscriberId :=
  (f.receipts.filter (fun e => e.2 == r)).map Prod.fst

/-- The fan-out with one more receipt. -/
def note (f : FanOut) (id : SubscriberId) (r : Receipt) : FanOut :=
  { f with receipts := f.receipts ++ [(id, r)] }

end FanOut

namespace Store

/-- Puts a snapshot in the place of the current one. -/
def install (s : Store) (now : Stamp) (snapshot : Snapshot) : Store :=
  { s with
    current := some snapshot
    counters := { s.counters with totalSets := s.counters.totalSets + 1 }
    lastUpdate := some now }

/-- The fan-out of a snapshot to everybody who is registered. -/
def announce (s : Store) (snapshot : Snapshot) : FanOut :=
  ⟨snapshot, s.subscribers.map Subscriber.id, []⟩

/-- Counts what a verdict says about versions. -/
def tally (s : Store) (v : Verdict) : Store :=
  let c := s.counters
  match v with
  | .refuse (.versionConflict _ _) =>
      { s with
        counters := { c with
          versionConflicts := c.versionConflicts + 1, rejectedSets := c.rejectedSets + 1 } }
  | .refuse _ => s
  | .refresh _ => { s with counters := { c with refreshes := c.refreshes + 1 } }
  | .publish _ true => { s with counters := { c with versionConflicts := c.versionConflicts + 1 } }
  | .publish _ false => s

/-- Commits a candidate or refuses it.  A refresh is announced to nobody. -/
def commit (s : Store) (now : Stamp) (policy : VersionPolicy) (candidate : Snapshot) :
    Except StoreError FanOut × Store :=
  let verdict := judge s.current policy candidate
  let counted := s.tally verdict
  match verdict with
  | .refuse e => (.error e, counted)
  | .refresh x => (.ok ⟨x, [], []⟩, counted.install now x)
  | .publish x _ => (.ok (s.announce x), counted.install now x)

/-- Commits the first snapshot of a run if there is none yet. -/
def coldStart (s : Store) (mark : Mark) : FanOut × Store :=
  match s.current with
  | some c => (⟨c, [], []⟩, s)
  | none =>
      let x := Snapshot.coldStart mark s.instanceId
      (s.announce x, s.install mark.stamp x)

/-- Offers a snapshot to a subscriber. -/
def offer (s : Store) (id : SubscriberId) (snapshot : Snapshot) : Receipt × Store :=
  let (r, m) := (s.box id).offer snapshot
  (r, s.putBox id m)

/-- A subscriber's own numbers after a fan-out. -/
def credit (f : FanOut) (e : Subscriber) : Subscriber :=
  if e.id ∈ f.having .taken then { e with delivered := e.delivered + 1 }
  else if e.id ∈ f.having .full then { e with missed := e.missed + 1 }
  else e

/-- The accounting of a fan-out.  Subscribers that were found closed are
removed. -/
def settle (s : Store) (f : FanOut) : Store :=
  let kept := (s.subscribers.map (credit f)).filter (fun e => e.id ∉ f.having .closed)
  { s with
    subscribers := kept
    counters := { s.counters with
      delivered := s.counters.delivered + (f.having .taken).length
      missed := s.counters.missed + (f.having .full).length
      pruned := s.counters.pruned + (s.subscribers.length - kept.length) } }

end Store

end AgentState
