/-
AgentState.Proofs.Store.Frame — what each operation of a store changes and
what it leaves alone.

Four views of a store carry its invariants: the current snapshot, the
roster of registered subscribers, the mailboxes and the next number for a
subscriber.  For each operation there is one lemma for each view, so that
no proof about runs opens an operation.

* `Store.roster` — the registered subscribers, in order.
* `Store.Registers` — all that a registration can come to;
  `Store.subscribe_registers` is the inversion that `Store.subscribe_ok`,
  `Store.subscribe_error` and their like rest on.
-/
import AgentState.Store.FanOut

namespace AgentState

namespace Mailbox

/-- An offer is taken when somebody receives and there is room. -/
theorem offer_taken {m : Mailbox} {x : Snapshot} (h : (m.offer x).1 = .taken) :
    m.attached = true ∧ (m.offer x).2 = { m with queue := m.queue ++ [x] } := by
  unfold offer at h ⊢
  cases ha : m.attached with
  | false => simp [ha] at h
  | true =>
    cases hr : m.hasRoom with
    | false => simp [ha, hr] at h
    | true => simp

/-- An offer that is not taken leaves the mailbox as it is. -/
theorem offer_not_taken {m : Mailbox} {x : Snapshot} (h : (m.offer x).1 ≠ .taken) :
    (m.offer x).2 = m := by
  unfold offer at h ⊢
  cases ha : m.attached with
  | false => simp
  | true =>
    cases hr : m.hasRoom with
    | false => simp
    | true => simp [ha, hr] at h

/-- Receiving takes the head of the queue, if it has one. -/
theorem receive_eq (m : Mailbox) :
    m.receive = (m.queue.head?, { m with queue := m.queue.tail }) := by
  obtain ⟨capacity, queue, attached⟩ := m
  cases queue <;> rfl

end Mailbox

namespace Store

/-- The registered subscribers, in the order of their registration. -/
def roster (s : Store) : List SubscriberId := s.subscribers.map Subscriber.id

theorem isRegistered_eq (s : Store) (id : SubscriberId) :
    s.isRegistered id = s.roster.contains id := by
  simp only [isRegistered, roster, List.contains_eq_any_beq, List.any_map]
  congr 1
  funext e
  simp [BEq.comm]

/-! ## Commits -/

/-- A verdict changes the numbers and nothing else. -/
theorem tally_eq (s : Store) (v : Verdict) :
    s.tally v = { s with counters := (s.tally v).counters } := by
  rcases v with (_ | _ | _ | _ | _) | _ | ⟨_, _ | _⟩ <;> rfl

@[simp] theorem tally_current (s : Store) (v : Verdict) : (s.tally v).current = s.current := by
  rw [tally_eq]

@[simp] theorem tally_subscribers (s : Store) (v : Verdict) :
    (s.tally v).subscribers = s.subscribers := by
  rw [tally_eq]

@[simp] theorem tally_mailboxes (s : Store) (v : Verdict) :
    (s.tally v).mailboxes = s.mailboxes := by
  rw [tally_eq]

@[simp] theorem tally_nextSubscriber (s : Store) (v : Verdict) :
    (s.tally v).nextSubscriber = s.nextSubscriber := by
  rw [tally_eq]

@[simp] theorem tally_roster (s : Store) (v : Verdict) : (s.tally v).roster = s.roster := by
  simp [roster]

@[simp] theorem tally_box (s : Store) (v : Verdict) (id : SubscriberId) :
    (s.tally v).box id = s.box id := by
  simp [box]

@[simp] theorem install_subscribers (s : Store) (now : Stamp) (x : Snapshot) :
    (s.install now x).subscribers = s.subscribers := rfl

@[simp] theorem install_current (s : Store) (now : Stamp) (x : Snapshot) :
    (s.install now x).current = some x := rfl

@[simp] theorem install_roster (s : Store) (now : Stamp) (x : Snapshot) :
    (s.install now x).roster = s.roster := rfl

@[simp] theorem install_box (s : Store) (now : Stamp) (x : Snapshot) (id : SubscriberId) :
    (s.install now x).box id = s.box id := rfl

@[simp] theorem install_nextSubscriber (s : Store) (now : Stamp) (x : Snapshot) :
    (s.install now x).nextSubscriber = s.nextSubscriber := rfl

@[simp] theorem announce_snapshot (s : Store) (x : Snapshot) : (s.announce x).snapshot = x := rfl

@[simp] theorem announce_targets (s : Store) (x : Snapshot) :
    (s.announce x).targets = s.roster := rfl

@[simp] theorem announce_receipts (s : Store) (x : Snapshot) : (s.announce x).receipts = [] := rfl

@[simp] theorem commit_box (s : Store) (now : Stamp) (policy : VersionPolicy) (x : Snapshot)
    (id : SubscriberId) : (s.commit now policy x).2.box id = s.box id := by
  simp only [commit]
  cases judge s.current policy x <;> simp

@[simp] theorem coldStart_box (s : Store) (mark : Mark) (id : SubscriberId) :
    (s.coldStart mark).2.box id = s.box id := by
  simp only [coldStart]
  cases s.current <;> rfl

/-! ## Reading and receiving -/

@[simp] theorem get_current (s : Store) : s.get.2.current = s.current := rfl

@[simp] theorem get_roster (s : Store) : s.get.2.roster = s.roster := rfl

@[simp] theorem get_box (s : Store) (id : SubscriberId) : s.get.2.box id = s.box id := rfl

@[simp] theorem get_nextSubscriber (s : Store) :
    s.get.2.nextSubscriber = s.nextSubscriber := rfl

@[simp] theorem putBox_current (s : Store) (id : SubscriberId) (m : Mailbox) :
    (s.putBox id m).current = s.current := rfl

@[simp] theorem putBox_roster (s : Store) (id : SubscriberId) (m : Mailbox) :
    (s.putBox id m).roster = s.roster := rfl

@[simp] theorem putBox_nextSubscriber (s : Store) (id : SubscriberId) (m : Mailbox) :
    (s.putBox id m).nextSubscriber = s.nextSubscriber := rfl

theorem putBox_box (s : Store) (id other : SubscriberId) (m : Mailbox) :
    (s.putBox id m).box other = if other = id then m else s.box other :=
  Mailboxes.box_put s.mailboxes id other m

/-! ## Fan-out -/

@[simp] theorem offer_current (s : Store) (id : SubscriberId) (x : Snapshot) :
    (s.offer id x).2.current = s.current := rfl

@[simp] theorem offer_roster (s : Store) (id : SubscriberId) (x : Snapshot) :
    (s.offer id x).2.roster = s.roster := rfl

@[simp] theorem offer_nextSubscriber (s : Store) (id : SubscriberId) (x : Snapshot) :
    (s.offer id x).2.nextSubscriber = s.nextSubscriber := rfl

theorem offer_receipt (s : Store) (id : SubscriberId) (x : Snapshot) :
    (s.offer id x).1 = ((s.box id).offer x).1 := rfl

theorem offer_box (s : Store) (id other : SubscriberId) (x : Snapshot) :
    (s.offer id x).2.box other = if other = id then ((s.box id).offer x).2 else s.box other :=
  Mailboxes.box_put s.mailboxes id other _

@[simp] theorem settle_current (s : Store) (f : FanOut) : (s.settle f).current = s.current := rfl

@[simp] theorem settle_box (s : Store) (f : FanOut) (id : SubscriberId) :
    (s.settle f).box id = s.box id := rfl

@[simp] theorem settle_nextSubscriber (s : Store) (f : FanOut) :
    (s.settle f).nextSubscriber = s.nextSubscriber := rfl

/-- Crediting changes a subscriber's numbers and not who it is. -/
@[simp] theorem credit_id (f : FanOut) (e : Subscriber) : (credit f e).id = e.id := by
  unfold credit
  split
  · rfl
  · split <;> rfl

/-- The accounting removes those who were found closed, and nobody else. -/
theorem settle_roster (s : Store) (f : FanOut) :
    (s.settle f).roster = s.roster.filter (fun id => id ∉ f.having .closed) := by
  have hid : Subscriber.id ∘ credit f = Subscriber.id := by
    funext e
    exact credit_id f e
  simp only [settle, roster]
  rw [List.filter_map, List.map_map, hid, List.filter_map]
  congr 2
  funext e
  simp

/-- The accounting of a fan-out of which nobody was told changes nothing. -/
theorem settle_untold (s : Store) (x : Snapshot) : s.settle ⟨x, [], []⟩ = s := by
  have credits : credit ⟨x, [], []⟩ = id := by
    funext e
    simp [credit, FanOut.having]
  have kept : s.subscribers.filter (fun _ => true) = s.subscribers :=
    List.filter_eq_self.2 fun _ _ => rfl
  simp [settle, FanOut.having, credits, kept]

/-! ## Subscribers -/

/-- The store with one more subscriber, who has the current snapshot. -/
def enrolled (s : Store) (label : String) (capacity : UInt64) : Store :=
  { s with
    subscribers := s.subscribers ++
      [⟨⟨s.nextSubscriber⟩, label, capacity, s.current.toList.length, 0⟩]
    mailboxes := s.mailboxes.put ⟨s.nextSubscriber⟩
      { Mailbox.empty capacity.toNat with queue := s.current.toList }
    counters := { s.counters with delivered := s.counters.delivered + s.current.toList.length }
    nextSubscriber := s.nextSubscriber + 1 }

/-- What a registration can come to: its answer and the store after it. -/
inductive Registers (s : Store) (label : String) (capacity : UInt64) :
    Except StoreError SubscriberId × Store → Prop where
  | empty (empty : capacity = 0) : Registers s label capacity (.error .emptyQueue, s)
  | full (sized : capacity ≠ 0)
      (full : s.config.maxSubscribers.toNat ≤ s.subscribers.length) :
      Registers s label capacity (.error (.subscriberLimit s.config.maxSubscribers), s)
  | huge (sized : capacity ≠ 0)
      (room : s.subscribers.length < s.config.maxSubscribers.toNat)
      (huge : Mailbox.largest < capacity.toNat) :
      Registers s label capacity
        (.error .hugeQueue, { s with nextSubscriber := s.nextSubscriber + 1 })
  | admitted (sized : capacity ≠ 0)
      (room : s.subscribers.length < s.config.maxSubscribers.toNat)
      (fits : capacity.toNat ≤ Mailbox.largest) :
      Registers s label capacity (.ok ⟨s.nextSubscriber⟩, s.enrolled label capacity)

theorem subscribe_registers (s : Store) (label : String) (capacity : UInt64) :
    Registers s label capacity (s.subscribe label capacity) := by
  unfold subscribe
  by_cases sized : capacity = 0
  · rw [if_pos sized]
    exact .empty sized
  rw [if_neg sized]
  by_cases full : s.config.maxSubscribers.toNat ≤ s.subscribers.length
  · rw [if_pos full]
    exact .full sized full
  rw [if_neg full]
  by_cases huge : Mailbox.largest < capacity.toNat
  · rw [if_pos huge]
    exact .huge sized (Nat.lt_of_not_le full) huge
  · rw [if_neg huge]
    exact .admitted sized (Nat.lt_of_not_le full) (Nat.le_of_not_lt huge)

/-- A registration finds fewer subscribers than there may be. -/
theorem length_of_subscribe_ok {s : Store} {label : String} {capacity : UInt64}
    {id : SubscriberId} (h : (s.subscribe label capacity).1 = .ok id) :
    s.subscribers.length < s.config.maxSubscribers.toNat := by
  have ends := s.subscribe_registers label capacity
  generalize s.subscribe label capacity = r at h ends
  cases ends with
  | empty | full | huge => cases h
  | admitted _ room => exact room

/-- A registration gives the next number and an own mailbox with the
current snapshot in it. -/
theorem subscribe_ok {s : Store} {label : String} {capacity : UInt64} {id : SubscriberId}
    (h : (s.subscribe label capacity).1 = .ok id) :
    id = ⟨s.nextSubscriber⟩ ∧
      (s.subscribe label capacity).2.current = s.current ∧
      (s.subscribe label capacity).2.roster = s.roster ++ [id] ∧
      (s.subscribe label capacity).2.nextSubscriber = s.nextSubscriber + 1 ∧
      ∀ other, (s.subscribe label capacity).2.box other =
        if other = id then ⟨capacity.toNat, s.current.toList, true⟩ else s.box other := by
  have ends := s.subscribe_registers label capacity
  generalize s.subscribe label capacity = r at h ends ⊢
  cases ends with
  | empty | full | huge => cases h
  | admitted =>
    cases h
    exact ⟨rfl, rfl, by simp [enrolled, roster], rfl, fun other => Mailboxes.box_put _ _ _ _⟩

/-- Whoever was known before a registration is somebody else. -/
theorem ne_of_subscribe_ok {s : Store} {label : String} {capacity : UInt64}
    {id other : SubscriberId} (ok : (s.subscribe label capacity).1 = .ok id)
    (known : other.number < s.nextSubscriber) : other ≠ id := by
  rintro rfl
  rw [(subscribe_ok ok).1] at known
  exact Nat.lt_irrefl _ known

/-- A refusal to register changes at most the next number. -/
theorem subscribe_error {s : Store} {label : String} {capacity : UInt64} {e : StoreError}
    (h : (s.subscribe label capacity).1 = .error e) :
    (s.subscribe label capacity).2.current = s.current ∧
      (s.subscribe label capacity).2.roster = s.roster ∧
      s.nextSubscriber ≤ (s.subscribe label capacity).2.nextSubscriber ∧
      ∀ other, (s.subscribe label capacity).2.box other = s.box other := by
  have ends := s.subscribe_registers label capacity
  generalize s.subscribe label capacity = r at h ends ⊢
  cases ends with
  | empty | full => exact ⟨rfl, rfl, Nat.le_refl _, fun _ => rfl⟩
  | huge => exact ⟨rfl, rfl, Nat.le_succ _, fun _ => rfl⟩
  | admitted => cases h

@[simp] theorem unsubscribe_current (s : Store) (id : SubscriberId) :
    (s.unsubscribe id).2.current = s.current := rfl

@[simp] theorem unsubscribe_box (s : Store) (id other : SubscriberId) :
    (s.unsubscribe id).2.box other = s.box other := rfl

@[simp] theorem unsubscribe_nextSubscriber (s : Store) (id : SubscriberId) :
    (s.unsubscribe id).2.nextSubscriber = s.nextSubscriber := rfl

theorem unsubscribe_roster (s : Store) (id : SubscriberId) :
    (s.unsubscribe id).2.roster = s.roster.filter (fun other => other ≠ id) := by
  simp only [unsubscribe, roster]
  rw [List.filter_map]
  rfl

/-! ## The instance identifier -/

@[simp] theorem tally_instanceId (s : Store) (v : Verdict) :
    (s.tally v).instanceId = s.instanceId := by
  rw [tally_eq]

@[simp] theorem install_instanceId (s : Store) (now : Stamp) (x : Snapshot) :
    (s.install now x).instanceId = s.instanceId := rfl

@[simp] theorem subscribe_instanceId (s : Store) (label : String) (capacity : UInt64) :
    (s.subscribe label capacity).2.instanceId = s.instanceId := by
  have ends := s.subscribe_registers label capacity
  generalize s.subscribe label capacity = r at ends ⊢
  cases ends <;> rfl

/-! ## The settings -/

@[simp] theorem tally_config (s : Store) (v : Verdict) : (s.tally v).config = s.config := by
  rw [tally_eq]

@[simp] theorem install_config (s : Store) (now : Stamp) (x : Snapshot) :
    (s.install now x).config = s.config := rfl

@[simp] theorem subscribe_config (s : Store) (label : String) (capacity : UInt64) :
    (s.subscribe label capacity).2.config = s.config := by
  have ends := s.subscribe_registers label capacity
  generalize s.subscribe label capacity = r at ends ⊢
  cases ends <;> rfl

/-! ## The numbers of notifications -/

@[simp] theorem tally_delivered (s : Store) (v : Verdict) :
    (s.tally v).counters.delivered = s.counters.delivered := by
  rcases v with (_ | _ | _ | _ | _) | _ | ⟨_, _ | _⟩ <;> rfl

@[simp] theorem tally_missed (s : Store) (v : Verdict) :
    (s.tally v).counters.missed = s.counters.missed := by
  rcases v with (_ | _ | _ | _ | _) | _ | ⟨_, _ | _⟩ <;> rfl

@[simp] theorem tally_pruned (s : Store) (v : Verdict) :
    (s.tally v).counters.pruned = s.counters.pruned := by
  rcases v with (_ | _ | _ | _ | _) | _ | ⟨_, _ | _⟩ <;> rfl

/-- A verdict counts no commit; putting the snapshot in its place does. -/
@[simp] theorem tally_totalSets (s : Store) (v : Verdict) :
    (s.tally v).counters.totalSets = s.counters.totalSets := by
  rcases v with (_ | _ | _ | _ | _) | _ | ⟨_, _ | _⟩ <;> rfl

/-- A registration counts nothing about versions, whether it succeeds or
not. -/
theorem subscribe_versions (s : Store) (label : String) (capacity : UInt64) :
    (s.subscribe label capacity).2.current = s.current ∧
      (s.subscribe label capacity).2.counters.versionConflicts = s.counters.versionConflicts ∧
      (s.subscribe label capacity).2.counters.rejectedSets = s.counters.rejectedSets := by
  have ends := s.subscribe_registers label capacity
  generalize s.subscribe label capacity = r at ends ⊢
  cases ends <;> exact ⟨rfl, rfl, rfl⟩

/-- A registration adds a subscriber, who has been sent what is current. -/
theorem subscribe_ok_numbers {s : Store} {label : String} {capacity : UInt64} {id : SubscriberId}
    (h : (s.subscribe label capacity).1 = .ok id) :
    (s.subscribe label capacity).2.subscribers =
        s.subscribers ++ [⟨id, label, capacity, s.current.toList.length, 0⟩] ∧
      (s.subscribe label capacity).2.counters =
        { s.counters with delivered := s.counters.delivered + s.current.toList.length } := by
  have ends := s.subscribe_registers label capacity
  generalize s.subscribe label capacity = r at h ends ⊢
  cases ends with
  | empty | full | huge => cases h
  | admitted =>
    cases h
    exact ⟨rfl, rfl⟩

/-- A refusal to register changes no number. -/
theorem subscribe_error_numbers {s : Store} {label : String} {capacity : UInt64} {e : StoreError}
    (h : (s.subscribe label capacity).1 = .error e) :
    (s.subscribe label capacity).2.subscribers = s.subscribers ∧
      (s.subscribe label capacity).2.counters = s.counters := by
  have ends := s.subscribe_registers label capacity
  generalize s.subscribe label capacity = r at h ends ⊢
  cases ends with
  | empty | full | huge => exact ⟨rfl, rfl⟩
  | admitted => cases h

end Store

end AgentState
