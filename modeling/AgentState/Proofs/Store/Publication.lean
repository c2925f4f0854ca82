/-
AgentState.Proofs.Store.Publication — what one fan-out does.

While a snapshot is on its way nobody may receive, and then all depends on
what the mailboxes were when it was published.  Who holds a mailbox with room
gets the snapshot, who holds a full one misses it, and who gave the mailbox up
is removed.  The writer waits for the full mailboxes and for nothing else.

* `Store.live`, `Store.roomy` — the two questions about a subscriber.
* `Store.Sized` — a mailbox has the capacity of its subscriber;
  `Run.sized_after` — so it is along a run.
* `Store.Fanned` — a store after a fan-out.
* `Store.fanned_of_told` — the accounting of receipts that are as the
  mailboxes were.
* `Run.Telling` — a fan-out under way, while subscribers come and go.
* `publication_effect` — whole publications, from every moment of a run at
  which no write is under way.
-/
import AgentState.Proofs.Store.Outline
import AgentState.Proofs.Store.Accounts

namespace AgentState

/-! ## Mailboxes -/

namespace Mailbox

/-- What becomes of an offer to a mailbox, whatever is offered. -/
def receipt (m : Mailbox) : Receipt :=
  if m.attached then if m.hasRoom then .taken else .full else .closed

theorem offer_fst (m : Mailbox) (x : Snapshot) : (m.offer x).1 = m.receipt := by
  unfold offer receipt
  cases m.attached <;> cases m.hasRoom <;> rfl

theorem offer_snd (m : Mailbox) (x : Snapshot) :
    (m.offer x).2 =
      if m.attached = true ∧ m.hasRoom = true then { m with queue := m.queue ++ [x] } else m := by
  unfold offer
  cases m.attached <;> cases m.hasRoom <;> rfl

end Mailbox

namespace Store

/-- Whether a subscriber's receiving end is still held. -/
def live (s : Store) (e : Subscriber) : Bool := (s.box e.id).attached

/-- Whether fewer snapshots are waiting for a subscriber than its capacity. -/
def roomy (s : Store) (e : Subscriber) : Bool := (s.box e.id).queue.length < e.capacity.toNat

/-- A subscriber's own numbers after a snapshot was offered to it. -/
def credited (s : Store) (e : Subscriber) : Subscriber :=
  if s.roomy e then { e with delivered := e.delivered + 1 } else { e with missed := e.missed + 1 }

/-- The mailbox of every registered subscriber has the capacity that the
subscriber asked for. -/
def Sized (s : Store) : Prop :=
  ∀ e ∈ s.subscribers, (s.box e.id).capacity = e.capacity.toNat

variable {s : Store} {e : Subscriber}

theorem Sized.hasRoom (sized : s.Sized) (he : e ∈ s.subscribers) :
    (s.box e.id).hasRoom = s.roomy e := by
  simp only [Mailbox.hasRoom, roomy, sized e he]

/-- What becomes of an offer to a registered subscriber. -/
theorem Sized.receipt (sized : s.Sized) (he : e ∈ s.subscribers) :
    (s.box e.id).receipt =
      if s.live e then if s.roomy e then .taken else .full else .closed := by
  rw [Mailbox.receipt, sized.hasRoom he]
  rfl

/-- So it is after a step that keeps the subscribers, but for their numbers,
and the capacities of their mailboxes. -/
theorem Sized.same {t : Store} (sized : s.Sized)
    (subscribers : ∀ e ∈ t.subscribers,
      ∃ e' ∈ s.subscribers, e'.id = e.id ∧ e'.capacity = e.capacity)
    (boxes : ∀ id, (t.box id).capacity = (s.box id).capacity) : t.Sized := by
  intro e he
  obtain ⟨e', he', id, capacity⟩ := subscribers e he
  rw [boxes, ← id, ← capacity]
  exact sized e' he'

end Store

namespace Run

/-- Every step keeps the mailboxes to the size that was asked for. -/
theorem sized_move {r r' : Run} (move : Move r r') (registry : Registry r)
    (sized : r.store.Sized) : r'.store.Sized := by
  have same : ∀ e ∈ r.store.subscribers,
      ∃ e' ∈ r.store.subscribers, e'.id = e.id ∧ e'.capacity = e.capacity :=
    fun e he => ⟨e, he, rfl, rfl⟩
  cases move with
  | refused | refreshed | published =>
    exact sized.same (by simpa using same) (by simp)
  | coldStarted | begunBefore | read => exact sized.same same (fun _ => rfl)
  | told f id rest flight next =>
    exact sized.same same
      (Store.putBox_capacity r.store id (Mailbox.offer_capacity _ f.snapshot))
  | settled f =>
    refine sized.same (fun e he => ?_) (fun _ => rfl)
    obtain ⟨e', he', rfl⟩ := List.mem_map.1 (List.mem_filter.1 he).1
    refine ⟨e', he', (Store.credit_id f e').symm, ?_⟩
    unfold Store.credit
    split
    · rfl
    · split <;> rfl
  | subscribed label capacity id ok =>
    obtain ⟨-, -, -, -, boxes⟩ := Store.subscribe_ok ok
    obtain ⟨subscribers, -⟩ := Store.subscribe_ok_numbers ok
    intro e he
    rw [subscribers] at he
    rw [boxes]
    rcases List.mem_append.1 he with he | he
    · -- whoever was registered before has a mailbox of its own
      have other : e.id ≠ id :=
        Store.ne_of_subscribe_ok ok (registry.below e.id (List.mem_map_of_mem he))
      rw [if_neg other]
      exact sized e he
    · obtain rfl := List.mem_singleton.1 he
      rw [if_pos rfl]
  | turnedAway label capacity why error =>
    refine sized.same ?_ fun id => ?_
    · rw [(Store.subscribe_error_numbers error).1]
      exact same
    · rw [(Store.subscribe_error error).2.2.2]
  | unsubscribed id =>
    exact sized.same (fun e he => same e (List.mem_filter.1 he).1) (fun _ => rfl)
  | took id xs left =>
    exact sized.same same (Store.putBox_capacity r.store id rfl)
  | detached id => exact sized.same same (Store.putBox_capacity r.store id rfl)

/-- Mailboxes along every run of a new store. -/
theorem sized_after (config : StoreConfig) (instanceId : String) (started : Stamp)
    (acts : List Act) : ((start config instanceId started).after acts).store.Sized := by
  refine (after_of_move (P := fun r => Registry r ∧ r.store.Sized) ?_ acts
    ⟨Registry.start config instanceId started, by rintro e ⟨⟩⟩).2
  intro r r' move before
  obtain ⟨registry, sized⟩ := before
  exact ⟨registry.move move, sized_move move registry sized⟩

end Run

/-! ## The accounting -/

theorem FanOut.length_having (f : FanOut) (k : Receipt) :
    (f.having k).length = f.receipts.countP (fun r => r.2 = k) := by
  rw [having, List.length_map, ← List.countP_eq_length_filter]
  exact List.countP_congr fun r _ => by simp

namespace Store

/-- A store after a fan-out of `x` that began at `s`, when `leavers` left and
`comers` came meanwhile, `joined` registrations in all. -/
structure Fanned (s : Store) (x : Snapshot) (leavers : List SubscriberId)
    (comers : List Subscriber) (joined : Nat) (after : Store) : Prop where
  subscribers : after.subscribers =
    (s.subscribers.filter (fun e => e.id ∉ leavers ∧ s.live e)).map s.credited ++ comers
  later : ∀ e ∈ comers, s.nextSubscriber ≤ e.id.number
  fed : ∀ e ∈ s.subscribers, after.box e.id =
    if s.live e ∧ s.roomy e then
      { s.box e.id with queue := (s.box e.id).queue ++ [x] }
    else s.box e.id
  apart : ∀ id ∉ s.roster, id.number < s.nextSubscriber → after.box id = s.box id
  delivered : after.counters.delivered =
    s.counters.delivered + s.subscribers.countP (fun e => s.live e ∧ s.roomy e) + joined
  missed : after.counters.missed =
    s.counters.missed + s.subscribers.countP (fun e => s.live e ∧ ¬s.roomy e)
  pruned : after.counters.pruned =
    s.counters.pruned + s.subscribers.countP (fun e => e.id ∉ leavers ∧ ¬s.live e)

section Told

variable {s t : Store} {f : FanOut}
  (receipts : f.receipts = s.roster.map fun id => (id, (s.box id).receipt))

include receipts

theorem mem_having_of_told (k : Receipt) (id : SubscriberId) :
    id ∈ f.having k ↔ id ∈ s.roster ∧ (s.box id).receipt = k := by
  rw [FanOut.mem_having, receipts]
  simp

/-- Whoever was registered has the receipt that its mailbox gave. -/
theorem having_of_told {e : Subscriber} (he : e ∈ s.subscribers) (k : Receipt) :
    e.id ∈ f.having k ↔ (s.box e.id).receipt = k :=
  (mem_having_of_told receipts k e.id).trans (and_iff_right (List.mem_map_of_mem he))

theorem countP_of_told (k : Receipt) :
    f.receipts.countP (fun r => r.2 = k) =
      s.subscribers.countP (fun e => (s.box e.id).receipt = k) := by
  rw [receipts, roster, List.map_map, List.countP_map]
  rfl

/-- How often somebody took the snapshot. -/
theorem countP_taken_of_told (sized : s.Sized) :
    f.receipts.countP (fun r => r.2 = .taken) =
      s.subscribers.countP (fun e => s.live e ∧ s.roomy e) := by
  rw [countP_of_told receipts]
  refine List.countP_congr fun e he => ?_
  rw [sized.receipt he]
  cases s.live e <;> cases s.roomy e <;> decide

/-- How often somebody missed it, and the writer waited. -/
theorem countP_full_of_told (sized : s.Sized) :
    f.receipts.countP (fun r => r.2 = .full) =
      s.subscribers.countP (fun e => s.live e ∧ ¬s.roomy e) := by
  rw [countP_of_told receipts]
  refine List.countP_congr fun e he => ?_
  rw [sized.receipt he]
  cases s.live e <;> cases s.roomy e <;> decide

/-- Whoever was registered is found closed if nobody holds the mailbox. -/
theorem closed_of_told (sized : s.Sized) {e : Subscriber} (he : e ∈ s.subscribers) :
    e.id ∉ f.having .closed ↔ s.live e = true := by
  rw [having_of_told receipts he, sized.receipt he]
  cases s.live e <;> cases s.roomy e <;> decide

/-- Whoever was registered and held the mailbox is credited. -/
theorem credit_of_told (sized : s.Sized) {e : Subscriber} (he : e ∈ s.subscribers)
    (live : s.live e = true) : credit f e = s.credited e := by
  simp only [credit, credited, having_of_told receipts he, sized.receipt he, live]
  cases s.roomy e <;> rfl

/-- Whoever was not registered is left alone. -/
theorem credit_of_apart {e : Subscriber} (other : e.id ∉ s.roster) :
    credit f e = e ∧ e.id ∉ f.having .closed := by
  simp [credit, mem_having_of_told receipts, other]

/-- The accounting credits whoever was registered and held the mailbox,
removes whoever did not, and leaves the newcomers alone. -/
theorem settle_subscribers (sized : s.Sized) {stays : Subscriber → Bool}
    {comers : List Subscriber} (subscribers : t.subscribers = s.subscribers.filter stays ++ comers)
    (later : ∀ e ∈ comers, e.id ∉ s.roster) :
    (t.settle f).subscribers =
      (s.subscribers.filter (fun e => stays e && s.live e)).map s.credited ++ comers := by
  have kept : (s.subscribers.filter stays).filter
      ((fun e => decide (e.id ∉ f.having .closed)) ∘ credit f) =
        s.subscribers.filter (fun e => stays e && s.live e) := by
    rw [List.filter_filter]
    refine List.filter_congr fun e he => ?_
    simp only [Function.comp_def, credit_id, closed_of_told receipts sized he, Bool.decide_coe]
    exact Bool.and_comm _ _
  have olds : ((s.subscribers.filter stays).map (credit f)).filter
      (fun e => e.id ∉ f.having .closed) =
        (s.subscribers.filter (fun e => stays e && s.live e)).map s.credited := by
    rw [List.filter_map, kept]
    refine List.map_congr_left fun e mem => ?_
    obtain ⟨he, keep⟩ := List.mem_filter.1 mem
    exact credit_of_told receipts sized he (Bool.and_eq_true_iff.1 keep).2
  have news : (comers.map (credit f)).filter (fun e => e.id ∉ f.having .closed) = comers := by
    have same : comers.map (credit f) = comers :=
      (List.map_congr_left fun e he => (credit_of_apart receipts (later e he)).1).trans
        (List.map_id comers)
    rw [same]
    exact List.filter_eq_self.2 fun e he =>
      decide_eq_true (credit_of_apart receipts (later e he)).2
  show (t.subscribers.map (credit f)).filter _ = _
  rw [subscribers, List.map_append, List.filter_append, olds, news]

/-- The accounting counts those as pruned who stayed and did not hold the
mailbox. -/
theorem settle_pruned (sized : s.Sized) {stays : Subscriber → Bool}
    {comers : List Subscriber} (subscribers : t.subscribers = s.subscribers.filter stays ++ comers)
    (later : ∀ e ∈ comers, e.id ∉ s.roster) :
    (t.settle f).counters.pruned =
      t.counters.pruned + s.subscribers.countP (fun e => stays e ∧ ¬s.live e) := by
  have split := List.countP_eq_countP_filter_add s.subscribers stays s.live
  simp only [List.countP_filter] at split
  have dead : s.subscribers.countP (fun e => stays e && !s.live e) =
      s.subscribers.countP (fun e => stays e ∧ ¬s.live e) :=
    List.countP_congr fun e _ => by simp
  show t.counters.pruned + (t.subscribers.length - (t.settle f).subscribers.length) = _
  rw [settle_subscribers receipts sized subscribers later, subscribers]
  simp only [List.length_append, List.length_map, ← List.countP_eq_length_filter]
  omega

/-- The accounting of a fan-out in which everybody was told and the mailboxes
were found as they were when it began. -/
theorem fanned_of_told (sized : s.Sized) (known : ∀ id ∈ s.roster, id.number < s.nextSubscriber)
    {x : Snapshot} {left : List SubscriberId} {comers : List Subscriber} {joined : Nat}
    (members : t.subscribers = s.subscribers.filter (fun e => e.id ∉ left) ++ comers)
    (later : ∀ e ∈ comers, s.nextSubscriber ≤ e.id.number)
    (boxes : ∀ id, id.number < s.nextSubscriber →
      t.box id = if id ∈ s.roster then ((s.box id).offer x).2 else s.box id)
    (delivered : t.counters.delivered = s.counters.delivered + joined)
    (missed : t.counters.missed = s.counters.missed)
    (pruned : t.counters.pruned = s.counters.pruned) :
    s.Fanned x left comers joined (t.settle f) := by
  have apart : ∀ e ∈ comers, e.id ∉ s.roster :=
    fun e he mem => absurd (later e he) (Nat.not_le.2 (known e.id mem))
  have subscribers := settle_subscribers receipts sized members apart
  have dead := settle_pruned receipts sized members apart
  refine ⟨?_, later, fun e he => ?_, fun id other old => ?_, ?_, ?_, ?_⟩
  · simpa [Bool.decide_and, Bool.decide_coe] using subscribers
  · have member : e.id ∈ s.roster := List.mem_map_of_mem he
    rw [settle_box, boxes e.id (known e.id member), if_pos member, Mailbox.offer_snd,
      sized.hasRoom he]
    rfl
  · rw [settle_box, boxes id old, if_neg other]
  · show t.counters.delivered + (f.having .taken).length = _
    rw [FanOut.length_having, countP_taken_of_told receipts sized, delivered, Nat.add_right_comm]
  · show t.counters.missed + (f.having .full).length = _
    rw [FanOut.length_having, countP_full_of_told receipts sized, missed]
  · rw [dead, pruned]
    simp

end Told

end Store

/-! ## A fan-out under way -/

/-- Whether an act is a receiver's. -/
def Act.isReception : Act → Bool
  | .receive _ | .drain _ | .detach _ => true
  | .write _ _ _ | .begin _ | .tell | .settle | .read | .subscribe _ _ | .unsubscribe _ => false

/-- The subscriber that an act removes. -/
def Act.leaver? : Act → Option SubscriberId
  | .unsubscribe id => some id
  | _ => none

namespace Store

variable {s : Store} {x : Snapshot} {told rest : List SubscriberId}

/-- A fan-out of `x` to everybody in which some were told, and found their
mailboxes as they are. -/
def partway (s : Store) (x : Snapshot) (told : List SubscriberId) : FanOut :=
  ⟨x, s.roster, told.map fun id => (id, (s.box id).receipt)⟩

theorem partway_pending (line : s.roster = told ++ rest) : (s.partway x told).pending = rest := by
  simp [FanOut.pending, partway, line]

@[simp] theorem partway_snapshot : (s.partway x told).snapshot = x := rfl

theorem partway_note (id : SubscriberId) :
    (s.partway x told).note id (s.box id).receipt = s.partway x (told ++ [id]) := by
  simp [FanOut.note, partway]

end Store

namespace Run

/-- The fan-out of `x` that began at `s`, when `base` subscribers had been
admitted, is under way; receivers have done nothing since, and `left` have
left. -/
structure Telling (s : Store) (x : Snapshot) (base : Nat) (left : List SubscriberId)
    (r : Run) : Prop where
  line : ∃ told rest, s.roster = told ++ rest ∧ r.flight = some (s.partway x told) ∧
    ∀ id, id.number < s.nextSubscriber →
      r.store.box id = if id ∈ told then ((s.box id).offer x).2 else s.box id
  members : ∃ comers,
    r.store.subscribers = s.subscribers.filter (fun e => e.id ∉ left) ++ comers ∧
      ∀ e ∈ comers, s.nextSubscriber ≤ e.id.number
  next : s.nextSubscriber ≤ r.store.nextSubscriber
  current : r.store.current = some x
  joined : ∃ n, (Log.admitted r.log).length = base + n ∧
    r.store.counters.delivered = s.counters.delivered + n
  missed : r.store.counters.missed = s.counters.missed
  pruned : r.store.counters.pruned = s.counters.pruned

namespace Telling

variable {s : Store} {x : Snapshot} {base : Nat} {left : List SubscriberId} {r r' : Run}

/-- A step that tells nobody and leaves members, mailboxes and numbers as they
are. -/
theorem same (h : Telling s x base left r) (flight : r'.flight = r.flight)
    (boxes : ∀ id, r'.store.box id = r.store.box id)
    (subscribers : r'.store.subscribers = r.store.subscribers)
    (next : r.store.nextSubscriber ≤ r'.store.nextSubscriber)
    (current : r'.store.current = r.store.current)
    (admitted : Log.admitted r'.log = Log.admitted r.log)
    (delivered : r'.store.counters.delivered = r.store.counters.delivered)
    (missed : r'.store.counters.missed = r.store.counters.missed)
    (pruned : r'.store.counters.pruned = r.store.counters.pruned) :
    Telling s x base left r' where
  line := by
    simp only [flight, boxes]
    exact h.line
  members := by
    rw [subscribers]
    exact h.members
  next := Nat.le_trans h.next next
  current := current.trans h.current
  joined := by
    rw [admitted, delivered]
    exact h.joined
  missed := missed.trans h.missed
  pruned := pruned.trans h.pruned

/-- The next in line finds its mailbox as it was when the fan-out began. -/
theorem tell (h : Telling s x base left r) (distinct : s.roster.Nodup)
    (known : ∀ id ∈ s.roster, id.number < s.nextSubscriber) :
    Telling s x base left (r.step .tell) := by
  obtain ⟨told, rest, line, flight, boxes⟩ := h.line
  have pending : (s.partway x told).pending = rest := Store.partway_pending line
  cases rest with
  | nil =>
    have idle : r.step .tell = r := by simp [step, flight, pending]
    rw [idle]
    exact h
  | cons id rest =>
    have fresh : id ∉ told := by
      rw [line] at distinct
      exact fun mem => (List.nodup_append.1 distinct).2.2 id mem id List.mem_cons_self rfl
    have member : id ∈ s.roster := by
      rw [line]
      exact List.mem_append_right _ List.mem_cons_self
    have found : r.store.box id = s.box id := by
      rw [boxes id (known id member), if_neg fresh]
    have receipt : (r.store.offer id x).1 = (s.box id).receipt := by
      rw [Store.offer_receipt, found, Mailbox.offer_fst]
    simp only [step, flight, pending, Store.partway_snapshot]
    refine ⟨⟨told ++ [id], rest, ?_, ?_, fun i old => ?_⟩, h.members, h.next, h.current, h.joined,
      h.missed, h.pruned⟩
    · rw [line, List.append_assoc]
      rfl
    · rw [receipt, Store.partway_note]
    · rw [Store.offer_box, found, boxes i old]
      by_cases it : i = id
      · subst it
        simp
      · simp [it]

/-- A newcomer takes a number that nobody had when the fan-out began, and is
sent the snapshot at once. -/
theorem subscribed (h : Telling s x base left r) {label : String} {capacity : UInt64}
    {id : SubscriberId} (ok : (r.store.subscribe label capacity).1 = .ok id)
    (waiting : List Snapshot) :
    Telling s x base left ⟨(r.store.subscribe label capacity).2, r.flight,
      .subscribed id waiting :: r.log⟩ := by
  obtain ⟨number, current, -, next, boxes⟩ := Store.subscribe_ok ok
  obtain ⟨subscribers, counters⟩ := Store.subscribe_ok_numbers ok
  have new : s.nextSubscriber ≤ id.number := by
    rw [number]
    exact h.next
  obtain ⟨told, rest, line, flight, before⟩ := h.line
  obtain ⟨comers, members, later⟩ := h.members
  obtain ⟨n, admitted, delivered⟩ := h.joined
  refine ⟨⟨told, rest, line, flight, fun i old => ?_⟩,
    ⟨comers ++ [⟨id, label, capacity, r.store.current.toList.length, 0⟩], ?_, ?_⟩, ?_,
    current.trans h.current, ⟨n + 1, ?_, ?_⟩, ?_, ?_⟩
  · have other : i ≠ id := by
      rintro rfl
      exact absurd new (Nat.not_le.2 old)
    rw [boxes, if_neg other]
    exact before i old
  · rw [subscribers, members, List.append_assoc]
  · intro e mem
    rcases List.mem_append.1 mem with mem | mem
    · exact later e mem
    · rw [List.mem_singleton.1 mem]
      exact new
  · rw [next]
    exact Nat.le_succ_of_le h.next
  · simp [Log.admitted, admitted, Nat.add_assoc]
  · rw [counters, h.current, delivered]
    rfl
  · rw [counters]
    exact h.missed
  · rw [counters]
    exact h.pruned

theorem unsubscribed (h : Telling s x base left r) (id : SubscriberId) :
    Telling s x base (left ++ [id]) (r.step (.unsubscribe id)) := by
  obtain ⟨comers, members, later⟩ := h.members
  have admitted : Log.admitted (r.step (.unsubscribe id)).log = Log.admitted r.log := by
    show Log.admitted (.unsubscribed id (r.store.isRegistered id) :: r.log) = _
    cases r.store.isRegistered id <;> rfl
  refine ⟨h.line, ⟨comers.filter fun e => e.id ≠ id, ?_, ?_⟩, h.next, h.current, ?_, h.missed,
    h.pruned⟩
  · show r.store.subscribers.filter (fun e => e.id ≠ id) = _
    rw [members, List.filter_append, List.filter_filter]
    congr 1
    refine List.filter_congr fun e _ => ?_
    by_cases leaves : e.id = id <;> simp [leaves]
  · exact fun e mem => later e (List.mem_filter.1 mem).1
  · rw [admitted]
    exact h.joined

/-- A step of anybody but a receiver that removes nobody. -/
theorem stay (h : Telling s x base left r) (distinct : s.roster.Nodup)
    (known : ∀ id ∈ s.roster, id.number < s.nextSubscriber) {a : Act}
    (calm : a.isReception = false) (going : a ≠ .settle) (stays : a.leaver? = none) :
    Telling s x base left (r.step a) := by
  obtain ⟨told, rest, -, flight, -⟩ := h.line
  cases a with
  | receive | drain | detach => cases calm
  | settle => exact absurd rfl going
  | unsubscribe => cases stays
  | tell => exact h.tell distinct known
  | write | begin =>
    -- the gate is held
    simp only [Run.step, flight]
    exact h
  | read => exact h.same rfl (fun _ => rfl) rfl (Nat.le_refl _) rfl rfl rfl rfl rfl
  | subscribe label capacity =>
    rcases step_subscribe r label capacity with ⟨id, ok, moment⟩ | ⟨why, error, moment⟩ <;>
      rw [moment]
    · exact h.subscribed ok _
    · obtain ⟨current, -, next, boxes⟩ := Store.subscribe_error error
      obtain ⟨subscribers, counters⟩ := Store.subscribe_error_numbers error
      exact h.same rfl boxes subscribers next current rfl (by rw [counters]) (by rw [counters])
        (by rw [counters])

/-- The steps of anybody but receivers, before the accounting. -/
theorem after (distinct : s.roster.Nodup) (known : ∀ id ∈ s.roster, id.number < s.nextSubscriber) :
    ∀ {acts : List Act} {left : List SubscriberId} {r : Run}, Telling s x base left r →
      (∀ a ∈ acts, a.isReception = false ∧ a ≠ .settle) →
      Telling s x base (left ++ acts.filterMap Act.leaver?) (r.after acts)
  | [], left, r, h, _ => by
      rw [List.filterMap_nil, List.append_nil]
      exact h
  | a :: rest, left, r, h, calm => by
      obtain ⟨quiet, going⟩ := calm a List.mem_cons_self
      have calm' : ∀ b ∈ rest, b.isReception = false ∧ b ≠ .settle :=
        fun b mem => calm b (List.mem_cons_of_mem a mem)
      cases leaver : a.leaver? with
      | none =>
        rw [List.filterMap_cons_none leaver]
        exact after distinct known (h.stay distinct known quiet going leaver) calm'
      | some id =>
        obtain rfl : a = .unsubscribe id := by cases a <;> cases leaver; rfl
        rw [List.filterMap_cons_some leaver, List.append_cons]
        exact after distinct known (h.unsubscribed id) calm'

/-- The accounting, when everybody was told. -/
theorem settle (h : Telling s x base left r) (sized : s.Sized)
    (known : ∀ id ∈ s.roster, id.number < s.nextSubscriber)
    (ended : (r.step .settle).flight = none) :
    ∃ comers joined, (Log.admitted (r.step .settle).log).length = base + joined ∧
      s.Fanned x left comers joined (r.step .settle).store := by
  obtain ⟨told, rest, line, flight, boxes⟩ := h.line
  obtain ⟨comers, members, later⟩ := h.members
  obtain ⟨n, admitted, delivered⟩ := h.joined
  have pending : (s.partway x told).pending = rest := Store.partway_pending line
  have done : rest = [] := by
    by_contra waiting
    simp [Run.step, flight, pending, waiting] at ended
  subst done
  rw [List.append_nil] at line
  subst line
  have settled : r.step .settle =
      ⟨r.store.settle (s.partway x s.roster), none, .settled (s.partway x s.roster) :: r.log⟩ := by
    simp [Run.step, flight, pending]
  rw [settled]
  exact ⟨comers, n, admitted, Store.fanned_of_told rfl sized known members later boxes delivered
    h.missed h.pruned⟩

end Telling

end Run

/-! ## Whole publications -/

/-- A write or a cold start that publishes `x` at a store: the act, and when
nobody disturbs it, the store after it and the milliseconds that it takes. -/
inductive Store.Publishing (s : Store) : Snapshot → Act → Store → Nat → Prop where
  | written (now : Stamp) (policy : VersionPolicy) (candidate x : Snapshot) (repaired : Bool)
      (judged : judge s.current policy candidate = .publish x repaired) :
      Publishing s x (.write now policy candidate) (s.set now policy candidate).store
        (s.set now policy candidate).elapsed
  | begun (mark : Mark) (empty : s.current = none) :
      Publishing s (.coldStart mark s.instanceId) (.begin mark) (s.begin mark).store
        (s.begin mark).elapsed

/-- A store in which `x` has just become current, and nobody was told. -/
structure Store.Announced (s : Store) (x : Snapshot) (t : Store) : Prop where
  current : t.current = some x
  subscribers : t.subscribers = s.subscribers
  mailboxes : t.mailboxes = s.mailboxes
  config : t.config = s.config
  next : t.nextSubscriber = s.nextSubscriber
  delivered : t.counters.delivered = s.counters.delivered
  missed : t.counters.missed = s.counters.missed
  pruned : t.counters.pruned = s.counters.pruned

namespace Store

variable {s t after : Store} {x : Snapshot} {a : Act} {elapsed : Nat}

/-- A publication is a commit, which tells nobody, and a fan-out. -/
theorem Publishing.announced (h : s.Publishing x a after elapsed) :
    ∃ t, s.Announced x t ∧ after = (t.spread (s.announce x)).store ∧
      elapsed = (t.spread (s.announce x)).elapsed ∧
      ∀ log, ∃ e, Run.step ⟨s, none, log⟩ a = ⟨t, some (s.announce x), e :: log⟩ ∧
        Log.admitted (e :: log) = Log.admitted log := by
  cases h with
  | written now policy candidate x repaired judged =>
    refine ⟨(s.tally (.publish x repaired)).install now x,
      ⟨rfl, by simp, ?_, by simp, by simp, ?_, ?_, ?_⟩, ?_, ?_, fun log => ?_⟩
    · exact tally_mailboxes s _
    · exact tally_delivered s _
    · exact tally_missed s _
    · exact tally_pruned s _
    · rw [set_eq_of_publish judged]
    · rw [set_eq_of_publish judged]
    · refine ⟨.written policy candidate (.publish x repaired), ?_, rfl⟩
      simp [Run.step, commit, judged, announce, Except.toOption]
  | begun mark empty =>
    refine ⟨s.install mark.stamp (.coldStart mark s.instanceId),
      ⟨rfl, rfl, rfl, rfl, rfl, rfl, rfl, rfl⟩, ?_, ?_, fun log => ?_⟩
    · simp [begin, coldStart, empty]
    · simp [begin, coldStart, empty]
    · refine ⟨.begun (.coldStart mark s.instanceId) true, ?_, rfl⟩
      simp [Run.step, coldStart, empty]

/-- A fan-out that nobody disturbs. -/
theorem Announced.spread (h : s.Announced x t) (sized : s.Sized) (distinct : s.roster.Nodup)
    (known : ∀ id ∈ s.roster, id.number < s.nextSubscriber) :
    s.Fanned x [] [] 0 (t.spread (s.announce x)).store ∧
      (∀ id ∉ s.roster, (t.spread (s.announce x)).store.box id = s.box id) ∧
      (t.spread (s.announce x)).elapsed =
        s.timeout * s.subscribers.countP (fun e => s.live e ∧ ¬s.roomy e) := by
  have box : ∀ id, t.box id = s.box id := fun id => by rw [Store.box, h.mailboxes]; rfl
  obtain ⟨ms, rs, spread, told⟩ := t.spread_eq (s.announce x)
  obtain ⟨receipts, boxes⟩ := told distinct
  have receipts : { s.announce x with receipts := [] ++ rs }.receipts =
      s.roster.map fun id => (id, (s.box id).receipt) := by
    simp only [List.nil_append, receipts, box, Mailbox.offer_fst]
    rfl
  have boxes : ∀ id, ({ t with mailboxes := ms } : Store).box id =
      if id ∈ s.roster then ((s.box id).offer x).2 else s.box id := by
    intro id
    rw [← box]
    exact boxes id
  have timeout : t.timeout = s.timeout := by rw [Store.timeout, h.config]; rfl
  rw [spread]
  refine ⟨?_, fun id other => ?_, ?_⟩
  · exact fanned_of_told receipts sized known (by simpa using h.subscribers) (by rintro e ⟨⟩)
      (fun id _ => boxes id) h.delivered h.missed h.pruned
  · rw [settle_box, boxes id, if_neg other]
  · rw [← countP_full_of_told receipts sized, timeout]
    rfl

/-- The beginning of a fan-out. -/
theorem Announced.telling (h : s.Announced x t) (log : Log) :
    Run.Telling s x (Log.admitted log).length [] ⟨t, some (s.announce x), log⟩ where
  line := by
    refine ⟨[], s.roster, rfl, rfl, fun id _ => ?_⟩
    show t.box id = _
    rw [Store.box, h.mailboxes]
    simp [Store.box]
  members := ⟨[], by simpa using h.subscribers, by rintro e ⟨⟩⟩
  next := Nat.le_of_eq h.next.symm
  current := h.current
  joined := ⟨0, rfl, h.delivered⟩
  missed := h.missed
  pruned := h.pruned

end Store

/-- What a publication does, from every moment of a run of a new store at which
no write is under way.

When nobody disturbs it, every registered subscriber that holds its mailbox
stays registered, in the same order.  If fewer snapshots are waiting for it
than its capacity, the published one comes after them and it counts one more
delivery; if not, its mailbox stays as it is and it counts one more miss.
Every other registered subscriber is removed.  No other mailbox changes.  The
totals grow by the numbers of the three kinds, and the writer waits for the
time that one notification may wait, once for each of the second kind.

While others read, subscribe and leave, but nobody receives or gives its
mailbox up, the same happens to whoever was registered and has not left, and
newcomers come last.  A subscriber that left is told all the same.  Whoever
gave its mailbox up and left is not counted as pruned, and every newcomer is
one delivery more. -/
theorem publication_effect (config : StoreConfig) (instanceId : String) (started : Stamp)
    (acts : List Act) (x : Snapshot) (a : Act) (after : Store) (elapsed : Nat)
    (free : ((Run.start config instanceId started).after acts).flight = none)
    (publishing : ((Run.start config instanceId started).after acts).store.Publishing
      x a after elapsed) :
    let r := (Run.start config instanceId started).after acts
    let s := r.store
    let full := s.subscribers.countP fun e => s.live e ∧ ¬s.roomy e
    (s.Fanned x [] [] 0 after ∧ (∀ id ∉ s.roster, after.box id = s.box id) ∧
      elapsed = waitOf config.notifyTimeoutMs.toNat * full ∧
      (config.notifyTimeoutMs.toNat ≤ longestWait →
        elapsed = config.notifyTimeoutMs.toNat * full)) ∧
    ∀ others, (∀ b ∈ others, b.isReception = false ∧ b ≠ .settle) →
      let r' := ((r.step a).after others).step .settle
      r'.flight = none →
      ∃ comers joined, (Log.admitted r'.log).length = (Log.admitted r.log).length + joined ∧
        s.Fanned x (others.filterMap Act.leaver?) comers joined r'.store := by
  intro r s full
  have registry : Run.Registry r := Run.registry_after config instanceId started acts
  have sized : s.Sized := Run.sized_after config instanceId started acts
  have settings : s.config = config := Run.config_after config instanceId started acts
  obtain ⟨t, announced, rfl, rfl, step⟩ := publishing.announced
  obtain ⟨fanned, apart, waited⟩ := announced.spread sized registry.nodup registry.below
  have waited : (t.spread (s.announce x)).elapsed =
      waitOf config.notifyTimeoutMs.toNat * full := by
    rw [← settings]
    exact waited
  refine ⟨⟨fanned, apart, waited, fun short => ?_⟩, ?_⟩
  · rw [waited, waitOf, Nat.min_eq_left short]
  · intro others calm r' ended
    obtain ⟨e, moment, admitted⟩ := step r.log
    have moment : r.step a = ⟨t, some (s.announce x), e :: r.log⟩ := by
      rw [← moment]
      congr 1
      show r = ⟨r.store, none, r.log⟩
      rw [← free]
    have telling := announced.telling (e :: r.log)
    rw [admitted, ← moment] at telling
    have told := telling.after registry.nodup registry.below calm
    exact told.settle sized registry.below ended

/-- Three subscribers who were sent the first snapshot: one with room for
more, one that gave its mailbox up, one whose mailbox is full. -/
def mixedRun : Run :=
  (Run.start .standard "run" ⟨1, .epoch⟩).after
    [.begin (markOf "a"), .settle, .subscribe "quick" 2, .subscribe "gone" 2, .subscribe "slow" 1,
      .detach ⟨2⟩]

/-- The next snapshot is taken, finds nobody, and is missed after 25
milliseconds; and the same happens while the first subscriber leaves and
another one comes. -/
theorem publication_effect_mixed :
    let w := mixedRun.store.set ⟨1, .epoch⟩ .strict movedFact
    let r' := ((mixedRun.step (.write ⟨1, .epoch⟩ .strict movedFact)).after
      [.tell, .subscribe "new" 1, .tell, .unsubscribe ⟨1⟩, .read, .tell]).step .settle
    mixedRun.flight = none ∧ r'.flight = none ∧
      w.store.subscribers = [⟨⟨1⟩, "quick", 2, 2, 0⟩, ⟨⟨3⟩, "slow", 1, 1, 1⟩] ∧
      w.store.box ⟨1⟩ = ⟨2, [firstFact, movedFact], true⟩ ∧
      (w.store.counters.pruned, w.elapsed) = (1, 25) ∧
      ∃ comers, r'.store.subscribers = ⟨⟨3⟩, "slow", 1, 1, 1⟩ :: comers := by
  intro w r'
  have free : mixedRun.flight = none := by decide
  have judged : judge mixedRun.store.current .strict movedFact = .publish movedFact false := by
    decide
  have ended : r'.flight = none := by decide
  have settled : ∀ b ∈ ([.tell, .subscribe "new" 1, .tell, .unsubscribe ⟨1⟩, .read, .tell] :
      List Act), b.isReception = false ∧ b ≠ .settle := by
    simp [Act.isReception]
  obtain ⟨⟨fanned, -, -, waited⟩, others⟩ := publication_effect .standard "run" ⟨1, .epoch⟩
    [.begin (markOf "a"), .settle, .subscribe "quick" 2, .subscribe "gone" 2, .subscribe "slow" 1,
      .detach ⟨2⟩] movedFact _ _ _ free
    (.written ⟨1, .epoch⟩ .strict movedFact movedFact false judged)
  obtain ⟨comers, joined, -, amid⟩ := others _ settled ended
  refine ⟨free, ended, ?_, ?_, Prod.ext ?_ ?_, comers, ?_⟩
  · exact fanned.subscribers.trans (by decide)
  · exact (fanned.fed ⟨⟨1⟩, "quick", 2, 1, 0⟩ (by decide)).trans (by decide)
  · exact fanned.pruned.trans (by decide)
  · exact (waited (by decide)).trans (by decide)
  · have rest : (mixedRun.store.subscribers.filter fun e =>
        e.id ∉ [⟨1⟩] ∧ mixedRun.store.live e).map mixedRun.store.credited =
          [⟨⟨3⟩, "slow", 1, 1, 1⟩] := by decide
    exact amid.subscribers.trans (congrArg (· ++ comers) rest)

end AgentState
