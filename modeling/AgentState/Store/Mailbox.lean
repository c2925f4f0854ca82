/-
AgentState.Store.Mailbox — bounded queues between a store and its
subscribers.

* `Mailbox` — snapshots in the order in which they were put in, and whether
  somebody still holds the receiving end.
* `Mailbox.offer` — puts a snapshot in if there is room, `Mailbox.receive`
  — takes the oldest one out, `Mailbox.detach` — gives the receiving end up.
* `Mailboxes` — the mailboxes of subscribers; `Mailboxes.box` is the view
  and `box_put` says what a change does to it.
-/
import AgentState.Snapshot

namespace AgentState

/-- A subscriber's number; numbers are given once, in order. -/
structure SubscriberId where
  number : Nat
  deriving DecidableEq

/-- A bounded queue of snapshots, oldest first. -/
structure Mailbox where
  capacity : Nat
  queue : List Snapshot
  attached : Bool
  deriving DecidableEq

/-- What became of an offer. -/
inductive Receipt where
  | taken
  | full
  | closed
  deriving DecidableEq

namespace Mailbox

/-- The largest queue that can be made. -/
def largest : Nat := 2305843009213693951

/-- A mailbox that nobody receives from. -/
def abandoned : Mailbox := ⟨0, [], false⟩

/-- An empty mailbox. -/
def empty (capacity : Nat) : Mailbox := ⟨capacity, [], true⟩

/-- Whether one more snapshot fits. -/
def hasRoom (m : Mailbox) : Bool := m.queue.length < m.capacity

/-- Puts a snapshot in if somebody receives and there is room. -/
def offer (m : Mailbox) (s : Snapshot) : Receipt × Mailbox :=
  if !m.attached then (.closed, m)
  else if m.hasRoom then (.taken, { m with queue := m.queue ++ [s] })
  else (.full, m)

/-- Takes the oldest snapshot out. -/
def receive (m : Mailbox) : Option Snapshot × Mailbox :=
  match m.queue with
  | [] => (none, m)
  | s :: rest => (some s, { m with queue := rest })

/-- Takes all snapshots out. -/
def drain (m : Mailbox) : List Snapshot × Mailbox := (m.queue, { m with queue := [] })

/-- Gives the receiving end up, and what is in the queue with it. -/
def detach (m : Mailbox) : Mailbox := { m with queue := [], attached := false }

end Mailbox

/-- The mailboxes of subscribers, in the order in which they were made. -/
structure Mailboxes where
  entries : List (SubscriberId × Mailbox)
  deriving DecidableEq

namespace Mailboxes

def empty : Mailboxes := ⟨[]⟩

/-- The mailbox of a subscriber. -/
def box (ms : Mailboxes) (id : SubscriberId) : Mailbox :=
  (ms.entries.lookup id).getD .abandoned

/-- Sets the mailbox of a subscriber in a list. -/
def putIn (id : SubscriberId) (m : Mailbox) :
    List (SubscriberId × Mailbox) → List (SubscriberId × Mailbox)
  | [] => [(id, m)]
  | e :: rest => if e.1 = id then (id, m) :: rest else e :: putIn id m rest

/-- Sets the mailbox of a subscriber. -/
def put (ms : Mailboxes) (id : SubscriberId) (m : Mailbox) : Mailboxes :=
  ⟨putIn id m ms.entries⟩

theorem lookup_putIn (id other : SubscriberId) (m : Mailbox) :
    ∀ es : List (SubscriberId × Mailbox),
      (putIn id m es).lookup other = if other = id then some m else es.lookup other
  | [] => by
      by_cases h : other = id
      · simp [putIn, h]
      · have hb : (other == id) = false := by simp [h]
        simp [putIn, List.lookup_cons, h, hb]
  | (key, old) :: rest => by
      have ih := lookup_putIn id other m rest
      by_cases hk : key = id
      · by_cases h : other = id
        · simp [putIn, hk, h]
        · have hb : (other == id) = false := by simp [h]
          simp [putIn, List.lookup_cons, hk, h, hb]
      · by_cases ho : other = key
        · simp [putIn, hk, ho]
        · have hb : (other == key) = false := by simp [ho]
          simp [putIn, List.lookup_cons, hk, hb, ih]

/-- A change is seen by the subscriber that it is made for, and by nobody
else. -/
theorem box_put (ms : Mailboxes) (id other : SubscriberId) (m : Mailbox) :
    (ms.put id m).box other = if other = id then m else ms.box other := by
  unfold box put
  rw [lookup_putIn]
  split <;> rfl

@[simp] theorem box_put_self (ms : Mailboxes) (id : SubscriberId) (m : Mailbox) :
    (ms.put id m).box id = m := by
  rw [box_put, if_pos rfl]

theorem box_put_ne (ms : Mailboxes) {id other : SubscriberId} (m : Mailbox) (h : other ≠ id) :
    (ms.put id m).box other = ms.box other := by
  rw [box_put, if_neg h]

end Mailboxes

end AgentState
