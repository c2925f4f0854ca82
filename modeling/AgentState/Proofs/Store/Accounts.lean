/-
AgentState.Proofs.Store.Accounts — no notification and no subscriber is
miscounted.

What became of the offers of a fan-out is counted only when it is over, and
until then subscribers come and go.  Every number of the store and of a
subscriber, together with the receipts that are still to be counted, agrees
with what happened.

* `Log.deliveries`, `Log.timedOut`, `Log.admitted`, `Log.departed`,
  `Log.publishedSince` — what happened.
* `Run.unsettled` — receipts that are still to be counted.
* `FanOut.Orderly` — nobody has two receipts of one fan-out.
* `Run.Totals`, `Run.Balanced`, `Run.Since` — the invariants for the store
  and for each of its subscribers; `Run.Accounted` — all of them together.
* `numbers_are_conserved` — the numbers when no fan-out is under way.
-/
import AgentState.Proofs.Store.Feed
import AgentState.Proofs.Store.Lineage

namespace AgentState

/-! ## What happened -/

namespace Log

/-- What was put into mailboxes, in this order, each with its subscriber. -/
def deliveries : Log → List (SubscriberId × Snapshot)
  | [] => []
  | .subscribed i waiting :: past => deliveries past ++ waiting.map (fun x => (i, x))
  | .told i x .taken :: past => deliveries past ++ [(i, x)]
  | _ :: past => deliveries past

/-- The offers that timed out. -/
def timedOut : Log → List (SubscriberId × Snapshot)
  | [] => []
  | .told i x .full :: past => timedOut past ++ [(i, x)]
  | _ :: past => timedOut past

/-- The registrations that succeeded. -/
def admitted : Log → List SubscriberId
  | [] => []
  | .subscribed i _ :: past => admitted past ++ [i]
  | _ :: past => admitted past

/-- The subscribers that were found and removed at somebody's wish. -/
def departed : Log → List SubscriberId
  | [] => []
  | .unsubscribed i true :: past => departed past ++ [i]
  | _ :: past => departed past

/-- What was published since a subscriber was registered. -/
def publishedSince (id : SubscriberId) : Log → List Snapshot
  | [] => []
  | .subscribed i _ :: past => if i = id then [] else publishedSince id past
  | e :: past =>
      match e.published? with
      | some x => publishedSince id past ++ [x]
      | none => publishedSince id past

/-- What a subscriber was fed is its share of what was delivered. -/
theorem fed_eq_share (id : SubscriberId) : ∀ log : Log,
    fed id log = ((deliveries log).filter (fun d => d.1 = id)).map Prod.snd
  | [] => rfl
  | .subscribed i waiting :: past => by
      by_cases same : i = id <;>
        simp [fed, deliveries, fed_eq_share id past, same, List.filter_map, Function.comp_def]
  | .told i x .taken :: past => by
      by_cases same : i = id <;> simp [fed, deliveries, fed_eq_share id past, same]
  | .told _ _ .full :: past | .told _ _ .closed :: past => fed_eq_share id past
  | .written _ _ _ :: past | .begun _ _ :: past | .settled _ :: past | .read _ :: past
  | .turnedAway _ :: past | .unsubscribed _ _ :: past | .taken _ _ :: past
  | .detached _ :: past => fed_eq_share id past

end Log

/-! ## Receipts of a fan-out -/

namespace FanOut

/-- A fan-out tells its targets in their order, and each of them once. -/
structure Orderly (f : FanOut) (next : Nat) : Prop where
  inOrder : f.receipts.map Prod.fst ++ f.pending = f.targets
  distinct : f.targets.Nodup
  known : ∀ id ∈ f.targets, id.number < next

namespace Orderly

variable {f : FanOut} {next : Nat}

theorem told (h : f.Orderly next) : (f.receipts.map Prod.fst).Nodup := by
  have distinct := h.distinct
  rw [← h.inOrder] at distinct
  exact (List.nodup_append.1 distinct).1

/-- One more receipt, for the next in line. -/
theorem note (h : f.Orderly next) {id : SubscriberId} {rest : List SubscriberId}
    (line : f.pending = id :: rest) (receipt : Receipt) : (f.note id receipt).Orderly next where
  inOrder := by
    have inOrder := h.inOrder
    rw [line] at inOrder
    rw [pending_note line, FanOut.note, List.map_append, List.append_assoc]
    exact inOrder
  distinct := h.distinct
  known := h.known

/-- A fan-out that has not begun. -/
theorem fresh (begun : f.receipts = []) (distinct : f.targets.Nodup)
    (known : ∀ id ∈ f.targets, id.number < next) : f.Orderly next where
  inOrder := by rw [begun, pending_of_receipts_nil begun]; rfl
  distinct := distinct
  known := known

end Orderly

theorem having_note (f : FanOut) (id : SubscriberId) (receipt k : Receipt) :
    (f.note id receipt).having k = f.having k ++ if receipt = k then [id] else [] := by
  by_cases same : receipt = k <;> simp [having, note, List.filter_append, same]

theorem mem_having {f : FanOut} {k : Receipt} {id : SubscriberId} :
    id ∈ f.having k ↔ (id, k) ∈ f.receipts := by
  simp only [having, List.mem_map, List.mem_filter, beq_iff_eq]
  constructor
  · rintro ⟨⟨i, k'⟩, ⟨mem, rfl⟩, rfl⟩
    exact mem
  · exact fun mem => ⟨(id, k), ⟨mem, rfl⟩, rfl⟩

/-- Nobody has two receipts. -/
theorem count_having {f : FanOut} (once : (f.receipts.map Prod.fst).Nodup) (k : Receipt)
    (id : SubscriberId) : (f.having k).count id = if id ∈ f.having k then 1 else 0 :=
  List.Nodup.count (once.sublist (List.filter_sublist.map _))

theorem having_disjoint {f : FanOut} (once : (f.receipts.map Prod.fst).Nodup) {j k : Receipt}
    (other : j ≠ k) {id : SubscriberId} (mem : id ∈ f.having j) : id ∉ f.having k := by
  intro mem'
  have same := List.inj_on_of_nodup_map once (mem_having.1 mem) (mem_having.1 mem') rfl
  exact other (Prod.mk.inj same).2

end FanOut

namespace Run

/-- The receipts that are still to be counted. -/
def unsettled (r : Run) (k : Receipt) : List SubscriberId :=
  match r.flight with
  | some f => f.having k
  | none => []

theorem unsettled_of_free {r : Run} (free : r.flight = none) (k : Receipt) :
    r.unsettled k = [] := by
  simp [unsettled, free]

/-- A fan-out that begins has nothing to be counted yet. -/
theorem unsettled_begun {r r' : Run} {f : FanOut} (free : r.flight = none)
    (flight : r'.flight = some f) (begun : f.receipts = []) (k : Receipt) :
    r'.unsettled k = r.unsettled k := by
  simp [unsettled, free, flight, FanOut.having, begun]

/-- The fan-out under way is orderly. -/
def InLine (r : Run) : Prop := ∀ f, r.flight = some f → f.Orderly r.store.nextSubscriber

theorem InLine.start (config : StoreConfig) (instanceId : String) (started : Stamp) :
    InLine (Run.start config instanceId started) := by
  rintro f ⟨⟩

/-- A step that tells nobody keeps the fan-out under way orderly. -/
theorem InLine.same {r r' : Run} (h : InLine r) (flight : r'.flight = r.flight)
    (next : r.store.nextSubscriber ≤ r'.store.nextSubscriber) : InLine r' := by
  intro f hf
  rw [flight] at hf
  obtain ⟨inOrder, distinct, known⟩ := h f hf
  exact ⟨inOrder, distinct, fun id hid => Nat.lt_of_lt_of_le (known id hid) next⟩

theorem InLine.move {r r' : Run} (move : Move r r') (registry : Registry r) (h : InLine r) :
    InLine r' := by
  cases move with
  | refused | settled => rintro f ⟨⟩
  | refreshed | begunBefore =>
    rintro f ⟨⟩
    exact .fresh rfl List.nodup_nil (by simp)
  | published now policy candidate x repaired =>
    rintro f ⟨⟩
    refine .fresh rfl (by simpa using registry.nodup) ?_
    simpa using registry.below
  | coldStarted mark =>
    rintro f ⟨⟩
    exact .fresh rfl registry.nodup registry.below
  | told f id rest flight line =>
    rintro g ⟨⟩
    exact (h f flight).note line _
  | subscribed label capacity id ok =>
    exact h.same rfl (by rw [(Store.subscribe_ok ok).2.2.2.1]; exact Nat.le_succ _)
  | turnedAway label capacity why error =>
    exact h.same rfl (Store.subscribe_error error).2.2.1
  | read | unsubscribed | took | detached => exact h.same rfl (Nat.le_refl _)

/-- Only subscribers that are known by now have receipts. -/
theorem InLine.unsettled_known {r : Run} (h : InLine r) {k : Receipt} {id : SubscriberId}
    (mem : id ∈ r.unsettled k) : id.number < r.store.nextSubscriber := by
  unfold unsettled at mem
  cases flight : r.flight with
  | none => simp [flight] at mem
  | some f =>
    rw [flight] at mem
    have line := h f flight
    have told : id ∈ f.receipts.map Prod.fst := List.mem_map_of_mem (FanOut.mem_having.1 mem)
    refine line.known id ?_
    rw [← line.inOrder]
    exact List.mem_append_left _ told

/-! ## The numbers of the store -/

/-- The numbers of the store, with what is still to be counted. -/
structure Totals (r : Run) : Prop where
  delivered : r.store.counters.delivered + (r.unsettled .taken).length =
    (Log.deliveries r.log).length
  missed : r.store.counters.missed + (r.unsettled .full).length = (Log.timedOut r.log).length
  members : (Log.admitted r.log).length =
    r.store.subscribers.length + r.store.counters.pruned + (Log.departed r.log).length

namespace Totals

theorem start (config : StoreConfig) (instanceId : String) (started : Stamp) :
    Totals (Run.start config instanceId started) := ⟨rfl, rfl, rfl⟩

/-- A step that counts nothing keeps the totals. -/
theorem quiet {r r' : Run} {e : Event} (h : Totals r) (log : r'.log = e :: r.log)
    (events : Log.deliveries (e :: r.log) = Log.deliveries r.log ∧
      Log.timedOut (e :: r.log) = Log.timedOut r.log ∧
      Log.admitted (e :: r.log) = Log.admitted r.log ∧
      Log.departed (e :: r.log) = Log.departed r.log)
    (unsettled : ∀ k, r'.unsettled k = r.unsettled k)
    (subscribers : r'.store.subscribers = r.store.subscribers)
    (delivered : r'.store.counters.delivered = r.store.counters.delivered)
    (missed : r'.store.counters.missed = r.store.counters.missed)
    (pruned : r'.store.counters.pruned = r.store.counters.pruned) : Totals r' := by
  obtain ⟨deliveries, timedOut, admitted, departed⟩ := events
  constructor
  · rw [log, deliveries, unsettled, delivered]
    exact h.delivered
  · rw [log, timedOut, unsettled, missed]
    exact h.missed
  · rw [log, admitted, departed, subscribers, pruned]
    exact h.members

theorem told {r : Run} (h : Totals r) {f : FanOut} {id : SubscriberId} (flight : r.flight = some f)
    (store : Store) (receipt : Receipt) (subscribers : store.subscribers = r.store.subscribers)
    (counters : store.counters = r.store.counters) :
    Totals ⟨store, some (f.note id receipt), .told id f.snapshot receipt :: r.log⟩ := by
  have delivered := h.delivered
  have missed := h.missed
  have members := h.members
  simp only [unsettled, flight] at delivered missed
  cases receipt <;>
    constructor <;>
      simp only [unsettled, FanOut.having_note, counters, subscribers, Log.deliveries,
        Log.timedOut, Log.admitted, Log.departed, List.length_append, List.length_singleton,
        List.length_nil, if_true, reduceCtorEq, if_false] <;>
      omega

/-- The accounting counts all receipts of the fan-out, and the subscribers
that it removes. -/
theorem settled {r : Run} (h : Totals r) {f : FanOut} (flight : r.flight = some f) :
    Totals ⟨r.store.settle f, none, .settled f :: r.log⟩ := by
  have delivered := h.delivered
  have missed := h.missed
  have members := h.members
  simp only [unsettled, flight] at delivered missed
  have kept : (r.store.settle f).subscribers.length ≤ r.store.subscribers.length := by
    simp only [Store.settle]
    exact Nat.le_trans (List.length_filter_le _ _) (Nat.le_of_eq (List.length_map _))
  constructor
  · exact delivered
  · exact missed
  · show (Log.admitted r.log).length = (r.store.settle f).subscribers.length +
      (r.store.counters.pruned +
        (r.store.subscribers.length - (r.store.settle f).subscribers.length)) +
      (Log.departed r.log).length
    omega

theorem subscribed {r : Run} (h : Totals r) {label : String} {capacity : UInt64}
    {id : SubscriberId} (ok : (r.store.subscribe label capacity).1 = .ok id) :
    Totals ⟨(r.store.subscribe label capacity).2, r.flight,
      .subscribed id r.store.current.toList :: r.log⟩ := by
  obtain ⟨subscribers, counters⟩ := Store.subscribe_ok_numbers ok
  have delivered := h.delivered
  have missed := h.missed
  have members := h.members
  constructor
  · simp only [counters, Log.deliveries, List.length_append, List.length_map]
    simp only [unsettled] at delivered ⊢
    omega
  · simp only [counters, Log.timedOut]
    exact missed
  · simp only [counters, subscribers, Log.admitted, Log.departed, List.length_append,
      List.length_singleton]
    omega

/-- Whoever unsubscribes was registered once or not at all. -/
theorem length_unsubscribe {s : Store} (nodup : s.roster.Nodup) (id : SubscriberId) :
    (s.unsubscribe id).2.subscribers.length + (if s.isRegistered id then 1 else 0) =
      s.subscribers.length := by
  have once : s.subscribers.countP (fun e => e.id == id) = if s.isRegistered id then 1 else 0 := by
    have count := List.Nodup.count (a := id) nodup
    rw [List.count, Store.roster, List.countP_map] at count
    simpa [Store.isRegistered_eq, Store.roster, Function.comp_def] using count
  have split := List.length_eq_countP_add_countP (fun e => e.id == id) (l := s.subscribers)
  have left : (s.unsubscribe id).2.subscribers.length =
      s.subscribers.countP (fun e => decide ¬(e.id == id) = true) := by
    rw [List.countP_eq_length_filter]
    simp [Store.unsubscribe]
  rw [left, ← once]
  omega

theorem unsubscribed {r : Run} (h : Totals r) (registry : Registry r) (id : SubscriberId) :
    Totals ⟨(r.store.unsubscribe id).2, r.flight,
      .unsubscribed id (r.store.isRegistered id) :: r.log⟩ := by
  have members := h.members
  have one := length_unsubscribe registry.nodup id
  refine ⟨h.delivered, h.missed, ?_⟩
  show _ = (r.store.unsubscribe id).2.subscribers.length + r.store.counters.pruned + _
  cases found : r.store.isRegistered id with
  | true =>
    simp only [found, if_true] at one
    simp only [Log.admitted, Log.departed, List.length_append, List.length_singleton]
    omega
  | false =>
    simp only [found, Bool.false_eq_true, if_false] at one
    simp only [Log.admitted, Log.departed]
    omega

theorem move {r r' : Run} (move : Move r r') (registry : Registry r) (h : Totals r) :
    Totals r' := by
  cases move with
  | refused policy candidate why free =>
    exact h.quiet rfl ⟨rfl, rfl, rfl, rfl⟩ (fun k => (unsettled_of_free free k).symm) (by simp)
      (by simp) (by simp) (by simp)
  | refreshed now policy candidate x free =>
    exact h.quiet rfl ⟨rfl, rfl, rfl, rfl⟩ (unsettled_begun free rfl rfl)
      (Store.tally_subscribers _ _) (Store.tally_delivered _ _) (Store.tally_missed _ _)
      (Store.tally_pruned _ _)
  | published now policy candidate x repaired free =>
    exact h.quiet rfl ⟨rfl, rfl, rfl, rfl⟩ (unsettled_begun free rfl rfl)
      (Store.tally_subscribers _ _) (Store.tally_delivered _ _) (Store.tally_missed _ _)
      (Store.tally_pruned _ _)
  | coldStarted mark free | begunBefore c free =>
    exact h.quiet rfl ⟨rfl, rfl, rfl, rfl⟩ (unsettled_begun free rfl rfl) rfl rfl rfl rfl
  | told f id rest flight => exact h.told flight _ _ rfl rfl
  | settled f flight => exact h.settled flight
  | read => exact h.quiet rfl ⟨rfl, rfl, rfl, rfl⟩ (fun _ => rfl) rfl rfl rfl rfl
  | subscribed label capacity id ok => exact h.subscribed ok
  | turnedAway label capacity why error =>
    obtain ⟨subscribers, counters⟩ := Store.subscribe_error_numbers error
    exact h.quiet rfl ⟨rfl, rfl, rfl, rfl⟩ (fun _ => rfl) subscribers (by rw [counters])
      (by rw [counters]) (by rw [counters])
  | unsubscribed id => exact h.unsubscribed registry id
  | took | detached => exact h.quiet rfl ⟨rfl, rfl, rfl, rfl⟩ (fun _ => rfl) rfl rfl rfl rfl

end Totals

end Run

/-! ## The numbers of a subscriber -/

/-- A subscriber's own number for a kind of receipt; those who are found
closed are removed and have none. -/
def Subscriber.number (e : Subscriber) : Receipt → Nat
  | .taken => e.delivered
  | .full => e.missed
  | .closed => 0

/-- What became of the offers to a subscriber, and the snapshot that it was
caught up with. -/
def Log.earned (id : SubscriberId) (log : Log) (k : Receipt) : Nat :=
  ((Log.offers id log).filter (fun o => o.2 = k)).length +
    if k = .taken then (Log.caughtUp id log).toList.length else 0

theorem Store.credit_number {f : FanOut} (once : (f.receipts.map Prod.fst).Nodup) (e : Subscriber)
    (open_ : e.id ∉ f.having .closed) (k : Receipt) :
    (Store.credit f e).number k = e.number k + (f.having k).count e.id := by
  rw [FanOut.count_having once]
  unfold Store.credit
  by_cases taken : e.id ∈ f.having .taken
  · have notFull := FanOut.having_disjoint once (k := .full) (by decide) taken
    cases k <;> simp [Subscriber.number, taken, notFull, open_]
  · by_cases full : e.id ∈ f.having .full
    · cases k <;> simp [Subscriber.number, taken, full, open_]
    · cases k <;> simp [Subscriber.number, taken, full, open_]

namespace Run

/-- The numbers of every registered subscriber, with what is still to be
counted, are those that it earned. -/
def Balanced (r : Run) : Prop :=
  ∀ e ∈ r.store.subscribers, ∀ k, e.number k + (r.unsettled k).count e.id = Log.earned e.id r.log k

namespace Balanced

theorem start (config : StoreConfig) (instanceId : String) (started : Stamp) :
    Balanced (Run.start config instanceId started) := by
  rintro e ⟨⟩

/-- A step that counts nothing, and registers nobody, keeps the numbers. -/
theorem quiet {r r' : Run} {e : Event} (h : Balanced r) (log : r'.log = e :: r.log)
    (offers : ∀ id, Log.offers id (e :: r.log) = Log.offers id r.log)
    (caughtUp : ∀ id, Log.caughtUp id (e :: r.log) = Log.caughtUp id r.log)
    (unsettled : ∀ k, r'.unsettled k = r.unsettled k)
    (subscribers : ∀ e ∈ r'.store.subscribers, e ∈ r.store.subscribers) : Balanced r' := by
  intro e he k
  rw [log, unsettled, Log.earned, offers, caughtUp]
  exact h e (subscribers e he) k

theorem told {r : Run} (h : Balanced r) {f : FanOut} {id : SubscriberId}
    (flight : r.flight = some f) (store : Store) (receipt : Receipt)
    (subscribers : store.subscribers = r.store.subscribers) :
    Balanced ⟨store, some (f.note id receipt), .told id f.snapshot receipt :: r.log⟩ := by
  intro e he k
  have before := h e (subscribers ▸ he) k
  simp only [unsettled, flight, Log.earned] at before
  have caughtUp : Log.caughtUp e.id (.told id f.snapshot receipt :: r.log) =
      Log.caughtUp e.id r.log := rfl
  simp only [unsettled, FanOut.having_note, Log.earned, Log.offers, caughtUp, List.count_append,
    List.filter_append, List.length_append]
  -- the receipt is a new one of its kind, and it stands for a new offer
  have one : (if receipt = k then [id] else []).count e.id =
      ((if id = e.id then [(f.snapshot, receipt)] else []).filter (fun o => o.2 = k)).length := by
    by_cases same : id = e.id <;> by_cases kind : receipt = k <;> simp [same, kind]
  omega

theorem settled {r : Run} (h : Balanced r) (inLine : InLine r) {f : FanOut}
    (flight : r.flight = some f) : Balanced ⟨r.store.settle f, none, .settled f :: r.log⟩ := by
  have once := (inLine f flight).told
  intro e he k
  obtain ⟨member, open_⟩ := List.mem_filter.1 he
  obtain ⟨e', he', rfl⟩ := List.mem_map.1 member
  have open_ : e'.id ∉ f.having .closed := by simpa using open_
  have before := h e' he' k
  simp only [unsettled, flight] at before
  rw [Store.credit_number once e' open_ k, Store.credit_id]
  exact before

theorem subscribed {r : Run} (h : Balanced r) (inLine : InLine r) (ordered : Ordered r)
    {label : String} {capacity : UInt64} {id : SubscriberId} (feed : Feed r id)
    (registry : Registry r)
    (ok : (r.store.subscribe label capacity).1 = .ok id) :
    Balanced ⟨(r.store.subscribe label capacity).2, r.flight,
      .subscribed id r.store.current.toList :: r.log⟩ := by
  obtain ⟨number, -, -, -, -⟩ := Store.subscribe_ok ok
  obtain ⟨subscribers, -⟩ := Store.subscribe_ok_numbers ok
  intro e he k
  rw [subscribers] at he
  rcases List.mem_append.1 he with he | he
  · -- whoever was registered before has another number
    have other : e.id ≠ id :=
      Store.ne_of_subscribe_ok ok (registry.below e.id (List.mem_map_of_mem he))
    have before := h e he k
    simpa [unsettled, Log.earned, Log.offers, Log.caughtUp, Ne.symm other] using before
  · obtain rfl := List.mem_singleton.1 he
    have old := feed.unheard (Nat.le_of_eq (by rw [number]))
    have uncounted : (r.unsettled k).count id = 0 := by
      refine List.count_eq_zero.2 fun mem => ?_
      exact Store.ne_of_subscribe_ok ok (inLine.unsettled_known mem) rfl
    have caughtUp : Log.caughtUp id (.subscribed id r.store.current.toList :: r.log) =
        r.store.current := by
      simp [Log.caughtUp, ordered.latest]
    have offers : Log.offers id (.subscribed id r.store.current.toList :: r.log) = [] := old.offers
    simp only [Log.earned, caughtUp, offers]
    show Subscriber.number _ k + (r.unsettled k).count id = _
    rw [uncounted]
    cases k <;> simp [Subscriber.number]

theorem move {r r' : Run} (move : Move r r') (ordered : Ordered r) (registry : Registry r)
    (feed : ∀ id, Feed r id) (inLine : InLine r) (h : Balanced r) : Balanced r' := by
  cases move with
  | refused policy candidate why free =>
    exact h.quiet rfl (fun _ => rfl) (fun _ => rfl)
      (fun k => (unsettled_of_free free k).symm) (by simp)
  | refreshed now policy candidate x free =>
    refine h.quiet rfl (fun _ => rfl) (fun _ => rfl) (unsettled_begun free rfl rfl) (fun e he => ?_)
    rwa [Store.install_subscribers, Store.tally_subscribers] at he
  | published now policy candidate x repaired free =>
    refine h.quiet rfl (fun _ => rfl) (fun _ => rfl) (unsettled_begun free rfl rfl) (fun e he => ?_)
    rwa [Store.install_subscribers, Store.tally_subscribers] at he
  | coldStarted mark free | begunBefore c free =>
    exact h.quiet rfl (fun _ => rfl) (fun _ => rfl) (unsettled_begun free rfl rfl) (fun _ he => he)
  | told f id rest flight => exact h.told flight _ _ rfl
  | settled f flight => exact h.settled inLine flight
  | subscribed label capacity id ok => exact h.subscribed inLine ordered (feed id) registry ok
  | turnedAway label capacity why error =>
    refine h.quiet rfl (fun _ => rfl) (fun _ => rfl) (fun _ => rfl) (fun e he => ?_)
    rwa [(Store.subscribe_error_numbers error).1] at he
  | unsubscribed id =>
    exact h.quiet rfl (fun _ => rfl) (fun _ => rfl) (fun _ => rfl)
      (fun _ he => (List.mem_filter.1 he).1)
  | read | took | detached =>
    exact h.quiet rfl (fun _ => rfl) (fun _ => rfl) (fun _ => rfl) (fun _ he => he)

end Balanced

/-! ## What was published since a registration -/

/-- Whoever is registered is due all that was published since its
registration. -/
def Since (r : Run) : Prop :=
  ∀ id, Log.registered id r.log = true → Log.due id r.log = Log.publishedSince id r.log

namespace Since

theorem start (config : StoreConfig) (instanceId : String) (started : Stamp) :
    Since (Run.start config instanceId started) := fun _ _ => rfl

/-- A step that registers nobody keeps what is due. -/
theorem grow {r r' : Run} {e : Event} (h : Since r) (log : r'.log = e :: r.log)
    (registered : ∀ id, Log.registered id (e :: r.log) = true → Log.registered id r.log = true)
    (since : ∀ id, Log.publishedSince id (e :: r.log) = Log.publishedSince id r.log ++
      e.published?.toList) : Since r' := by
  intro id now
  rw [log] at now ⊢
  have before := registered id now
  rw [since id, ← h id before, Log.due]
  cases e.published? with
  | none => simp
  | some x => simp [before]

theorem move {r r' : Run} (move : Move r r') (feed : ∀ id, Feed r id) (h : Since r) :
    Since r' := by
  cases move with
  | published | coldStarted => exact h.grow rfl (fun _ now => now) (fun _ => rfl)
  | subscribed label capacity id ok =>
    obtain ⟨number, -, -, -, -⟩ := Store.subscribe_ok ok
    intro other now
    by_cases same : id = other
    · subst same
      have old := (feed id).unheard (Nat.le_of_eq (by rw [number]))
      simp [Log.due, Event.published?, old.due, Log.publishedSince]
    · have before : Log.registered other r.log = true := by
        simpa [Log.registered, same] using now
      simpa [Log.due, Event.published?, Log.publishedSince, same] using h other before
  | unsubscribed id =>
    refine h.grow rfl (fun other now => ?_) (fun _ => (List.append_nil _).symm)
    exact (Bool.and_eq_true_iff.1 now).2
  | settled f =>
    refine h.grow rfl (fun other now => ?_) (fun _ => (List.append_nil _).symm)
    exact (Bool.and_eq_true_iff.1 now).2
  | refused | refreshed | begunBefore | told | read | turnedAway | took | detached =>
    exact h.grow rfl (fun _ now => now) (fun _ => (List.append_nil _).symm)

end Since

/-- All that is needed to know every number at a moment. -/
structure Accounted (r : Run) : Prop where
  ordered : Ordered r
  registry : Registry r
  feed : ∀ id, Feed r id
  inLine : InLine r
  totals : Totals r
  balanced : Balanced r
  since : Since r

theorem Accounted.move {r r' : Run} (move : Move r r') (h : Accounted r) : Accounted r' where
  ordered := h.ordered.move move
  registry := h.registry.move move
  feed := fun id => (h.feed id).move move h.ordered h.registry
  inLine := h.inLine.move move h.registry
  totals := h.totals.move move h.registry
  balanced := h.balanced.move move h.ordered h.registry h.feed h.inLine
  since := h.since.move move h.feed

/-- The numbers along every run of a new store. -/
theorem accounted_after (config : StoreConfig) (instanceId : String) (started : Stamp)
    (acts : List Act) : Accounted ((start config instanceId started).after acts) :=
  after_of_move (fun _ _ => Accounted.move) acts
    ⟨.start _ _ _, .start _ _ _, .start _ _ _, .start _ _ _, .start _ _ _, .start _ _ _,
      .start _ _ _⟩

/-- Of what was offered some was taken, some timed out, and some found the
mailbox closed. -/
theorem length_offers (os : List (Snapshot × Receipt)) :
    (os.filter (fun o => o.2 = .taken)).length + (os.filter (fun o => o.2 = .full)).length +
      (os.filter (fun o => o.2 = .closed)).length = os.length := by
  induction os with
  | nil => rfl
  | cons o os ih =>
    obtain ⟨x, receipt⟩ := o
    cases receipt <;> simp <;> omega

/-- Offers that neither timed out nor found the mailbox closed were all
taken. -/
theorem taken_of_prompt {os : List (Snapshot × Receipt)} (prompt : ∀ o ∈ os, o.2 ≠ .full)
    (open_ : ∀ o ∈ os, o.2 ≠ .closed) : os.filter (fun o => o.2 = .taken) = os := by
  refine List.filter_eq_self.2 fun o mem => ?_
  cases receipt : o.2 with
  | taken => rfl
  | full => exact absurd receipt (prompt o mem)
  | closed => exact absurd receipt (open_ o mem)

/-- When nothing is left to be counted, a subscriber has the numbers that it
earned. -/
theorem Accounted.number {r : Run} (h : Accounted r) (free : r.flight = none) {e : Subscriber}
    (he : e ∈ r.store.subscribers) (k : Receipt) : e.number k = Log.earned e.id r.log k := by
  have balance := h.balanced e he k
  rwa [unsettled_of_free free, List.count_nil, Nat.add_zero] at balance

/-- Every publication since the registration is one offer. -/
theorem Accounted.offered {r : Run} (h : Accounted r) (free : r.flight = none)
    {id : SubscriberId} (registered : id ∈ r.store.roster) :
    (Log.offers id r.log).map Prod.fst = Log.publishedSince id r.log := by
  rw [(h.feed id).told_of_free free, h.since id ((h.registry.roster id).1 registered)]

/-- The numbers of a subscriber when nothing is left to be counted. -/
theorem Accounted.subscriber {r : Run} (h : Accounted r) (free : r.flight = none) {e : Subscriber}
    (he : e ∈ r.store.subscribers) :
    e.delivered = (Log.fed e.id r.log).length ∧
      e.delivered + e.missed = (Log.publishedSince e.id r.log).length +
        (Log.caughtUp e.id r.log).toList.length := by
  have taken : e.delivered = _ := h.number free he .taken
  have full : e.missed = _ := h.number free he .full
  have closed : 0 = _ := h.number free he .closed
  simp only [Log.earned, if_true, reduceCtorEq, if_false, Nat.add_zero] at taken full closed
  have all := length_offers (Log.offers e.id r.log)
  have offered : (Log.offers e.id r.log).length = (Log.publishedSince e.id r.log).length := by
    rw [← h.offered free (List.mem_map_of_mem he), List.length_map]
  constructor
  · rw [(h.feed e.id).fed, List.length_append, List.length_map]
    omega
  · omega

/-- No offer found the mailbox of a registered subscriber closed: it would
have been removed. -/
theorem Accounted.open_of_registered {r : Run} (h : Accounted r) (free : r.flight = none)
    {id : SubscriberId} (registered : id ∈ r.store.roster) :
    ∀ o ∈ Log.offers id r.log, o.2 ≠ .closed := by
  obtain ⟨e, he, rfl⟩ := List.mem_map.1 registered
  have closed : 0 = Log.earned e.id r.log .closed := h.number free he .closed
  have none : (Log.offers e.id r.log).filter (fun o => o.2 = .closed) = [] := by
    simpa [Log.earned] using closed.symm
  intro o mem receipt
  have member : o ∈ (Log.offers e.id r.log).filter (fun o => o.2 = .closed) :=
    List.mem_filter.2 ⟨mem, decide_eq_true receipt⟩
  rw [none] at member
  cases member

/-- A registered subscriber none of whose offers timed out was put the
snapshot that it was caught up with and all that was published since. -/
theorem Accounted.fed_of_prompt {r : Run} (h : Accounted r) (free : r.flight = none)
    {id : SubscriberId} (registered : id ∈ r.store.roster)
    (prompt : ∀ o ∈ Log.offers id r.log, o.2 ≠ .full) :
    Log.fed id r.log = (Log.caughtUp id r.log).toList ++ Log.publishedSince id r.log := by
  rw [(h.feed id).fed, taken_of_prompt prompt (h.open_of_registered free registered),
    h.offered free registered]

end Run

/-- The numbers of a store and of its subscribers at any moment of a run
without a fan-out under way, whoever came between the steps of the writes
before.

All that was put into mailboxes is counted as delivered, and every offer
that timed out as missed.  Whoever was admitted is registered, was removed
by the accounting, or left.  A registered subscriber has been put what it
counts as delivered, and together with what it counts as missed this is what
was published since its registration, and one more if it was caught up. -/
theorem numbers_are_conserved (config : StoreConfig) (instanceId : String) (started : Stamp)
    (acts : List Act) :
    let r := (Run.start config instanceId started).after acts
    r.flight = none →
      r.store.counters.delivered = (Log.deliveries r.log).length ∧
      r.store.counters.missed = (Log.timedOut r.log).length ∧
      (Log.admitted r.log).length =
        r.store.subscribers.length + r.store.counters.pruned + (Log.departed r.log).length ∧
      ∀ e ∈ r.store.subscribers,
        Log.fed e.id r.log = ((Log.deliveries r.log).filter (fun d => d.1 = e.id)).map Prod.snd ∧
        e.delivered = (Log.fed e.id r.log).length ∧
        e.delivered + e.missed = (Log.publishedSince e.id r.log).length +
          if (Log.caughtUp e.id r.log).isSome then 1 else 0 := by
  intro r free
  have accounted := Run.accounted_after config instanceId started acts
  have delivered := accounted.totals.delivered
  have missed := accounted.totals.missed
  rw [Run.unsettled_of_free free, List.length_nil, Nat.add_zero] at delivered missed
  refine ⟨delivered, missed, accounted.totals.members, fun e he => ?_⟩
  obtain ⟨fed, both⟩ := accounted.subscriber free he
  refine ⟨Log.fed_eq_share e.id r.log, fed, ?_⟩
  rw [both]
  cases Log.caughtUp e.id r.log <;> rfl

/-- Two subscribers.  The first gives its mailbox up, its offer fails, and it
leaves before the accounting; the mailbox of the second is full when the
next snapshot comes. -/
def busyRun : Run :=
  (Run.start .standard "run" ⟨1, .epoch⟩).after
    [.subscribe "first" 1, .subscribe "second" 1, .begin (markOf "a"), .detach ⟨1⟩, .tell,
      .unsubscribe ⟨1⟩, .tell, .settle, .write ⟨1, .epoch⟩ .strict movedFact, .tell, .settle]

/-- The subscriber that left is not counted as pruned. -/
theorem numbers_are_conserved_amid_fan_out :
    busyRun.flight = none ∧
      busyRun.store.subscribers = [⟨⟨2⟩, "second", 1, 1, 1⟩] ∧
      (Log.admitted busyRun.log, Log.departed busyRun.log) = ([⟨1⟩, ⟨2⟩], [⟨1⟩]) ∧
      2 = busyRun.store.subscribers.length + busyRun.store.counters.pruned + 1 ∧
      busyRun.store.counters.delivered = (Log.deliveries busyRun.log).length ∧
      busyRun.store.counters.missed = (Log.timedOut busyRun.log).length := by
  have free : busyRun.flight = none := by decide
  have roll : (Log.admitted busyRun.log, Log.departed busyRun.log) = ([⟨1⟩, ⟨2⟩], [⟨1⟩]) := by
    decide
  obtain ⟨delivered, missed, members, -⟩ := numbers_are_conserved .standard "run" ⟨1, .epoch⟩
    [.subscribe "first" 1, .subscribe "second" 1, .begin (markOf "a"), .detach ⟨1⟩, .tell,
      .unsubscribe ⟨1⟩, .tell, .settle, .write ⟨1, .epoch⟩ .strict movedFact, .tell, .settle] free
  refine ⟨free, by decide, roll, ?_, delivered, missed⟩
  have admitted : (Log.admitted busyRun.log).length = 2 := by
    rw [(Prod.mk.inj roll).1]
    rfl
  have departed : (Log.departed busyRun.log).length = 1 := by
    rw [(Prod.mk.inj roll).2]
    rfl
  rw [← admitted, ← departed]
  exact members

end AgentState
