/-
AgentState.Store.Write — whole writes, with the time that they take.

An offer to a full mailbox waits for room, at most for the time that the
settings give it; all else takes no time.

* `Delivery` — a fan-out under way on the clock.
* `Visitor` — one other actor, who comes to the store at a given time.
* `Store.set`, `Store.begin` — a write and a cold start that nobody
  disturbs, `Store.setVisited` — a write with a visitor.
-/
import AgentState.Store.FanOut

namespace AgentState

/-- One other actor: not there, still to come after some milliseconds, or
gone and what it found. -/
inductive Visitor (α : Type) where
  | absent
  | coming (after : Nat) (act : Store → α × Store)
  | gone (found : α)

/-- A fan-out under way, and the milliseconds since the commit. -/
structure Delivery (α : Type) where
  store : Store
  fanOut : FanOut
  elapsed : Nat
  visitor : Visitor α

namespace Delivery

variable {α : Type}

/-- Records what became of an offer, and when. -/
def record (d : Delivery α) (id : SubscriberId) (r : Receipt) (elapsed : Nat) : Delivery α :=
  { d with fanOut := d.fanOut.note id r, elapsed }

/-- Lets a visitor act who comes before a deadline.  One who could have come
before the waiting began comes as it begins. -/
def visitBefore (d : Delivery α) (deadline : Nat) : Delivery α :=
  match d.visitor with
  | .coming after act =>
      if after < deadline then
        let (found, store) := act d.store
        { d with store, elapsed := max d.elapsed after, visitor := .gone found }
      else d
  | _ => d

/-- Offers the snapshot to one subscriber.  If the mailbox is full and
nobody comes who changes that, the offer fails at its deadline. -/
def tell (timeout : Nat) (d : Delivery α) (id : SubscriberId) : Delivery α :=
  let deadline := d.elapsed + timeout
  match d.store.offer id d.fanOut.snapshot with
  | (.full, _) =>
      let d := d.visitBefore deadline
      match d.store.offer id d.fanOut.snapshot with
      | (.full, _) => d.record id .full deadline
      | (r, store) => { d with store }.record id r d.elapsed
  | (r, store) => { d with store }.record id r d.elapsed

/-- Offers the snapshot to all subscribers in turn, and settles. -/
def run (timeout : Nat) (d : Delivery α) : Delivery α :=
  let d := d.fanOut.targets.foldl (tell timeout) d
  { d with store := d.store.settle d.fanOut }

/-- Lets a visitor act who has not come so far. -/
def conclude (d : Delivery α) : Delivery α :=
  match d.visitor with
  | .coming after act =>
      let (found, store) := act d.store
      { d with store, elapsed := max d.elapsed after, visitor := .gone found }
  | _ => d

end Delivery

/-- A write that is over: its answer, the store, and the milliseconds that it
took. -/
structure Written (α : Type) where
  result : α
  store : Store
  elapsed : Nat

namespace Store

/-- How long one offer may wait, in milliseconds. -/
def timeout (s : Store) : Nat := waitOf s.config.notifyTimeoutMs.toNat

/-- Tells the subscribers about a commit. -/
def spread (s : Store) (f : FanOut) : Written Snapshot :=
  let d := Delivery.run s.timeout (⟨s, f, 0, .absent⟩ : Delivery Empty)
  ⟨f.snapshot, d.store, d.elapsed⟩

/-- Writes a candidate. -/
def set (s : Store) (now : Stamp) (policy : VersionPolicy) (candidate : Snapshot) :
    Written (Except StoreError Snapshot) :=
  match s.commit now policy candidate with
  | (.error e, s) => ⟨.error e, s, 0⟩
  | (.ok f, s) =>
      let w := s.spread f
      ⟨.ok w.result, w.store, w.elapsed⟩

/-- The current snapshot, after a cold start if there was none. -/
def begin (s : Store) (mark : Mark) : Written Snapshot :=
  let (f, s) := s.coldStart mark
  s.spread f

/-- Writes a candidate while a visitor is on the way. -/
def setVisited {α : Type} (s : Store) (now : Stamp) (policy : VersionPolicy)
    (candidate : Snapshot) (after : Nat) (act : Store → α × Store) :
    Written (Except StoreError Snapshot × Visitor α) :=
  match s.commit now policy candidate with
  | (.error e, s) =>
      let (found, store) := act s
      ⟨(.error e, .gone found), store, waitOf after⟩
  | (.ok f, s) =>
      let d := (Delivery.run s.timeout ⟨s, f, 0, .coming (waitOf after) act⟩).conclude
      ⟨(.ok f.snapshot, d.visitor), d.store, d.elapsed⟩

end Store

end AgentState
