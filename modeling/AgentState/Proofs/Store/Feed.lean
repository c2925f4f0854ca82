/-
AgentState.Proofs.Store.Feed — what a subscriber is fed.

Over every run, however writers, subscribers and receivers come between each
other, the snapshots that were ever put into the mailbox of a subscriber are
the current one at its registration and then what was published while it
was registered, in order, without those whose offer failed and the one that
is still on its way.

* `Run.Feed` — the invariant, for one subscriber.
* `Feed.publish`, `Feed.told`, `Feed.subscribed`, `Feed.took`, … — one lemma
  for each kind of step that the subscriber can notice; `Feed.quiet` is for
  all others.
* `feed_in_order` — the statement over runs.
-/
import Mathlib.Data.List.Nodup
import AgentState.Proofs.Store.Order
import AgentState.Proofs.Store.Registry

namespace AgentState

/-- The offers that were taken and those that were lost make up what was
due, each snapshot once. -/
theorem filter_not_lost {os : List (Snapshot × Receipt)} {waiting : List Snapshot}
    (nodup : (os.map Prod.fst ++ waiting).Nodup) :
    (os.map Prod.fst ++ waiting).filter
        (fun x => x ∉ (os.filter (fun o => o.2 ≠ .taken)).map Prod.fst ∧ x ∉ waiting) =
      (os.filter (fun o => o.2 = .taken)).map Prod.fst := by
  obtain ⟨distinct, -, apart⟩ := List.nodup_append.1 nodup
  have once := List.inj_on_of_nodup_map distinct
  rw [List.filter_append, List.filter_map]
  have none : waiting.filter
      (fun x => x ∉ (os.filter (fun o => o.2 ≠ .taken)).map Prod.fst ∧ x ∉ waiting) = [] := by
    rw [List.filter_eq_nil_iff]
    intro x hx
    simp [hx]
  rw [none, List.append_nil]
  congr 1
  refine List.filter_congr fun o ho => ?_
  have away : o.1 ∉ waiting := fun hw => apart o.1 (List.mem_map_of_mem ho) o.1 hw rfl
  have lost : o.1 ∈ (os.filter (fun o => o.2 ≠ .taken)).map Prod.fst ↔ o.2 ≠ .taken := by
    constructor
    · intro h
      obtain ⟨o', ho', same⟩ := List.mem_map.1 h
      obtain ⟨mem, failed⟩ := List.mem_filter.1 ho'
      rw [← once mem ho same]
      simpa using failed
    · intro failed
      exact List.mem_map_of_mem (List.mem_filter.2 ⟨ho, by simpa using failed⟩)
  rw [Function.comp_apply, decide_eq_decide, and_iff_left away, lost, not_not]

namespace Run

/-- A subscriber of whom nothing was heard so far. -/
structure Unheard (r : Run) (id : SubscriberId) : Prop where
  fed : Log.fed id r.log = []
  taken : Log.taken id r.log = []
  due : Log.due id r.log = []
  offers : Log.offers id r.log = []
  caughtUp : Log.caughtUp id r.log = none
  queue : (r.store.box id).queue = []
  detached : (r.store.box id).attached = false

/-- What a subscriber is fed agrees with what it is due, and its mailbox
holds what it was fed and has not taken. -/
structure Feed (r : Run) (id : SubscriberId) : Prop where
  unheard : r.store.nextSubscriber ≤ id.number → Unheard r id
  told : (Log.offers id r.log).map Prod.fst ++ r.pending id = Log.due id r.log
  fed : Log.fed id r.log = (Log.caughtUp id r.log).toList ++
    ((Log.offers id r.log).filter (fun o => o.2 = .taken)).map Prod.fst
  sorted : ((Log.caughtUp id r.log).toList ++ Log.due id r.log).Pairwise
    (fun a b => a.version < b.version)
  known : ∀ x ∈ (Log.caughtUp id r.log).toList ++ Log.due id r.log, x ∈ Log.commits r.log
  queued : Log.taken id r.log ++ (r.store.box id).queue <+: Log.fed id r.log
  attached : (r.store.box id).attached = true →
    Log.taken id r.log ++ (r.store.box id).queue = Log.fed id r.log

/-- What is recorded about a subscriber. -/
structure SameRecord (id : SubscriberId) (log log' : Log) : Prop where
  fed : Log.fed id log' = Log.fed id log
  taken : Log.taken id log' = Log.taken id log
  due : Log.due id log' = Log.due id log
  offers : Log.offers id log' = Log.offers id log
  caughtUp : Log.caughtUp id log' = Log.caughtUp id log
  commits : ∀ x ∈ Log.commits log, x ∈ Log.commits log'

namespace SameRecord

/-- An event that is about no subscriber and publishes nothing. -/
theorem of_quiet {id : SubscriberId} {log : Log} {e : Event}
    (fed : Log.fed id (e :: log) = Log.fed id log)
    (taken : Log.taken id (e :: log) = Log.taken id log)
    (due : Log.due id (e :: log) = Log.due id log)
    (offers : Log.offers id (e :: log) = Log.offers id log)
    (caughtUp : Log.caughtUp id (e :: log) = Log.caughtUp id log) :
    SameRecord id log (e :: log) :=
  ⟨fed, taken, due, offers, caughtUp, fun _ => Log.mem_commits_cons e⟩

theorem told {id other : SubscriberId} (apart : other ≠ id) (log : Log) (x : Snapshot)
    (receipt : Receipt) : SameRecord id log (.told other x receipt :: log) := by
  refine of_quiet ?_ rfl rfl (by simp [Log.offers, apart]) rfl
  cases receipt with
  | taken => simp [Log.fed, apart]
  | full | closed => rfl

theorem subscribed {id other : SubscriberId} (apart : other ≠ id) (log : Log)
    (waiting : List Snapshot) : SameRecord id log (.subscribed other waiting :: log) :=
  of_quiet (by simp [Log.fed, apart]) rfl rfl rfl (by simp [Log.caughtUp, apart])

theorem took {id other : SubscriberId} (apart : other ≠ id) (log : Log) (xs : List Snapshot) :
    SameRecord id log (.taken other xs :: log) :=
  of_quiet rfl (by simp [Log.taken, apart]) rfl rfl rfl

end SameRecord

/-- Without a fan-out nothing is on its way. -/
theorem pending_of_free {r : Run} (free : r.flight = none) (id : SubscriberId) :
    r.pending id = [] := by
  simp [pending, free]

/-- A fan-out without targets has nothing on its way. -/
theorem pending_of_done {r : Run} {f : FanOut} (flight : r.flight = some f)
    (done : f.pending = []) (id : SubscriberId) : r.pending id = [] := by
  simp [pending, flight, done]

namespace Feed

theorem start (config : StoreConfig) (instanceId : String) (started : Stamp)
    (id : SubscriberId) : Feed (Run.start config instanceId started) id where
  unheard := fun _ => ⟨rfl, rfl, rfl, rfl, rfl, rfl, rfl⟩
  told := rfl
  fed := rfl
  sorted := List.Pairwise.nil
  known := fun _ hx => by cases hx
  queued := List.prefix_rfl
  attached := fun _ => rfl

/-- Without a fan-out under way all that is due was offered. -/
theorem told_of_free {r : Run} {id : SubscriberId} (h : Feed r id) (free : r.flight = none) :
    (Log.offers id r.log).map Prod.fst = Log.due id r.log := by
  rw [← h.told, pending_of_free free, List.append_nil]

/-- A step that a subscriber does not notice keeps its feed. -/
theorem quiet {r r' : Run} {id : SubscriberId} (h : Feed r id)
    (record : SameRecord id r.log r'.log) (pending : r'.pending id = r.pending id)
    (box : r'.store.box id = r.store.box id)
    (next : r.store.nextSubscriber ≤ r'.store.nextSubscriber) : Feed r' id where
  unheard := by
    intro new
    have old := h.unheard (Nat.le_trans next new)
    exact ⟨record.fed.trans old.fed, record.taken.trans old.taken, record.due.trans old.due,
      record.offers.trans old.offers, record.caughtUp.trans old.caughtUp,
      by rw [box]; exact old.queue, by rw [box]; exact old.detached⟩
  told := by rw [record.offers, record.due, pending]; exact h.told
  fed := by rw [record.fed, record.caughtUp, record.offers]; exact h.fed
  sorted := by rw [record.caughtUp, record.due]; exact h.sorted
  known := by
    rw [record.caughtUp, record.due]
    exact fun x hx => record.commits x (h.known x hx)
  queued := by rw [record.taken, record.fed, box]; exact h.queued
  attached := by rw [record.taken, record.fed, box]; exact h.attached

/-- A snapshot that is published is on its way to everybody who is
registered, and to nobody else. -/
theorem publish {r r' : Run} {id : SubscriberId} {e : Event} {x : Snapshot} (h : Feed r id)
    (registry : Registry r) (free : r.flight = none) (log : r'.log = e :: r.log)
    (published : e.published? = some x) (committed : e.committed? = some x)
    (record : Log.fed id (e :: r.log) = Log.fed id r.log ∧
      Log.taken id (e :: r.log) = Log.taken id r.log ∧
      Log.offers id (e :: r.log) = Log.offers id r.log ∧
      Log.caughtUp id (e :: r.log) = Log.caughtUp id r.log)
    (newer : ∀ y ∈ Log.commits r.log, y.version < x.version)
    (flight : r'.flight = some (r.store.announce x)) (box : r'.store.box id = r.store.box id)
    (next : r'.store.nextSubscriber = r.store.nextSubscriber) : Feed r' id := by
  obtain ⟨fed, taken, offers, caughtUp⟩ := record
  have due : Log.due id (e :: r.log) =
      Log.due id r.log ++ if id ∈ r.store.roster then [x] else [] := by
    simp only [Log.due, published, registry.roster id]
  have targets : (r.store.announce x).pending = r.store.roster :=
    FanOut.pending_of_receipts_nil rfl
  have pending : r'.pending id = if id ∈ r.store.roster then [x] else [] := by
    simp [Run.pending, flight, targets]
  have told : Log.due id r.log = (Log.offers id r.log).map Prod.fst := (h.told_of_free free).symm
  refine ⟨?_, ?_, ?_, ?_, ?_, ?_, ?_⟩
  · intro new
    rw [next] at new
    have old := h.unheard new
    have away : id ∉ r.store.roster := fun member =>
      Nat.lt_irrefl _ (Nat.lt_of_lt_of_le (registry.below id member) new)
    refine ⟨?_, ?_, ?_, ?_, ?_, by rw [box]; exact old.queue, by rw [box]; exact old.detached⟩
    · rw [log, fed, old.fed]
    · rw [log, taken, old.taken]
    · rw [log, due, old.due, if_neg away, List.append_nil]
    · rw [log, offers, old.offers]
    · rw [log, caughtUp, old.caughtUp]
  · rw [log, offers, due, pending, told]
  · rw [log, fed, caughtUp, offers]
    exact h.fed
  · rw [log, caughtUp, due, ← List.append_assoc]
    refine List.pairwise_append.2 ⟨h.sorted, by split <;> simp, ?_⟩
    intro a ha b hb
    split at hb
    · rw [List.mem_singleton.1 hb]
      exact newer a (h.known a ha)
    · cases hb
  · rw [log, caughtUp, due, ← List.append_assoc]
    intro y hy
    rcases List.mem_append.1 hy with hy | hy
    · exact Log.mem_commits_cons e (h.known y hy)
    · split at hy
      · rw [List.mem_singleton.1 hy]
        rw [Log.commits_cons committed]
        exact List.mem_append_right _ List.mem_cons_self
      · cases hy
  · rw [log, taken, fed, box]
    exact h.queued
  · rw [log, taken, fed, box]
    exact h.attached

/-- An offer to the subscriber itself: what was on its way is now taken or
lost. -/
theorem told_self {r : Run} {f : FanOut} {id : SubscriberId} {rest : List SubscriberId}
    (h : Feed r id) (registry : Registry r) (flight : r.flight = some f)
    (next : f.pending = id :: rest) :
    Feed ⟨(r.store.offer id f.snapshot).2, some (f.note id (r.store.offer id f.snapshot).1),
      .told id f.snapshot (r.store.offer id f.snapshot).1 :: r.log⟩ id := by
  have onWay : r.pending id = [f.snapshot] := by
    simp [Run.pending, flight, next]
  have away : id ∉ rest := by
    have distinct := registry.distinct f flight
    rw [next] at distinct
    exact (List.nodup_cons.1 distinct).1
  have heard : ¬r.store.nextSubscriber ≤ id.number :=
    Nat.not_le_of_lt (registry.known f flight id (next ▸ List.mem_cons_self))
  have told := h.told
  rw [onWay] at told
  have boxes := Store.offer_box r.store id id f.snapshot
  rw [if_pos rfl] at boxes
  have receipt := Store.offer_receipt r.store id f.snapshot
  have none : ∀ receipt store, Run.pending
      ⟨store, some (f.note id receipt), .told id f.snapshot receipt :: r.log⟩ id = [] := by
    intro receipt store
    simp [Run.pending, FanOut.pending_note next, away]
  by_cases taken : ((r.store.box id).offer f.snapshot).1 = .taken
  · obtain ⟨attached, box⟩ := Mailbox.offer_taken taken
    rw [box] at boxes
    rw [taken] at receipt
    have full := h.attached attached
    refine ⟨fun new => absurd new heard, ?_, ?_, h.sorted, h.known, ?_, fun _ => ?_⟩
    · simp [Log.offers, Log.due, Event.published?, none, told]
    · simp [receipt, Log.fed, Log.offers, Log.caughtUp, h.fed]
    · simp [receipt, Log.fed, Log.taken, boxes, ← full]
    · simp [receipt, Log.fed, Log.taken, boxes, ← full]
  · have box := Mailbox.offer_not_taken taken
    rw [box] at boxes
    have fed : Log.fed id (.told id f.snapshot (r.store.offer id f.snapshot).1 :: r.log) =
        Log.fed id r.log := by
      rw [receipt]
      cases hr : ((r.store.box id).offer f.snapshot).1 with
      | taken => exact absurd hr taken
      | full | closed => rfl
    refine ⟨fun new => absurd new heard, ?_, ?_, h.sorted, h.known, ?_, ?_⟩
    · simp [Log.offers, Log.due, Event.published?, none, told]
    · rw [fed]
      simp [receipt, taken, Log.offers, Log.caughtUp, h.fed]
    · rw [fed]
      simpa [Log.taken, boxes] using h.queued
    · rw [fed]
      simpa [Log.taken, boxes] using h.attached

/-- A new subscriber is caught up with the current snapshot. -/
theorem subscribed_self {r : Run} {label : String} {capacity : UInt64} {id : SubscriberId}
    (h : Feed r id) (ordered : Ordered r) (ok : (r.store.subscribe label capacity).1 = .ok id) :
    Feed ⟨(r.store.subscribe label capacity).2, r.flight,
      .subscribed id r.store.current.toList :: r.log⟩ id := by
  obtain ⟨number, -, -, next, boxes⟩ := Store.subscribe_ok ok
  have new : r.store.nextSubscriber ≤ id.number := Nat.le_of_eq (by rw [number])
  have old := h.unheard new
  have box := boxes id
  rw [if_pos rfl] at box
  have pending : Run.pending ⟨(r.store.subscribe label capacity).2, r.flight,
      .subscribed id r.store.current.toList :: r.log⟩ id = [] := by
    have told := h.told
    rw [old.offers, old.due] at told
    exact told
  have due : Log.due id (.subscribed id r.store.current.toList :: r.log) = [] := by
    simp [Log.due, Event.published?, old.due]
  have caughtUp : Log.caughtUp id (.subscribed id r.store.current.toList :: r.log) =
      r.store.current := by
    simp [Log.caughtUp, ordered.latest]
  refine ⟨fun later => ?_, ?_, ?_, ?_, ?_, ?_, fun _ => ?_⟩
  · rw [next, number] at later
    exact absurd later (Nat.not_succ_le_self _)
  · simp [Log.offers, old.offers, due, pending]
  · simp [Log.fed, Log.offers, old.fed, old.offers, caughtUp]
  · rw [caughtUp, due]
    cases r.store.current <;> simp
  · rw [caughtUp, due]
    intro x hx
    have current : r.store.current = some x := by simpa using hx
    exact Log.mem_commits_cons _ (List.mem_of_getLast? (ordered.latest.trans current))
  · simp [Log.fed, Log.taken, old.fed, old.taken, box]
  · simp [Log.fed, Log.taken, old.fed, old.taken, box]

/-- What a subscriber takes out of its mailbox it was fed before. -/
theorem took_self {r : Run} {id : SubscriberId} {xs left : List Snapshot} (h : Feed r id)
    (split : (r.store.box id).queue = xs ++ left) :
    Feed ⟨r.store.putBox id { r.store.box id with queue := left }, r.flight,
      .taken id xs :: r.log⟩ id := by
  have box := Store.putBox_box r.store id id { r.store.box id with queue := left }
  rw [if_pos rfl] at box
  have queued := h.queued
  have attached := h.attached
  rw [split] at queued attached
  refine ⟨fun new => ?_, h.told, h.fed, h.sorted, fun x hx => Log.mem_commits_cons _ (h.known x hx),
    ?_, ?_⟩
  · have old := h.unheard new
    obtain ⟨rfl, rfl⟩ := List.append_eq_nil_iff.1 (split.symm.trans old.queue)
    refine ⟨old.fed, ?_, ?_, old.offers, old.caughtUp, ?_, ?_⟩
    · simp [Log.taken, old.taken]
    · simp [Log.due, Event.published?, old.due]
    · rw [box]
    · rw [box]
      exact old.detached
  · simpa [Log.taken, Log.fed, box] using queued
  · simpa [Log.taken, Log.fed, box] using attached

/-- A subscriber that gives its mailbox up leaves what is in it. -/
theorem detached_self {r : Run} {id : SubscriberId} (h : Feed r id) :
    Feed ⟨r.store.detach id, r.flight, .detached id :: r.log⟩ id := by
  have box := Store.putBox_box r.store id id (r.store.box id).detach
  rw [if_pos rfl] at box
  change (r.store.detach id).box id = _ at box
  refine ⟨fun new => ?_, h.told, h.fed, h.sorted, h.known, ?_, fun held => ?_⟩
  · have old := h.unheard new
    exact ⟨old.fed, old.taken, old.due, old.offers, old.caughtUp, by rw [box]; rfl,
      by rw [box]; rfl⟩
  · rw [box]
    show Log.taken id r.log ++ [] <+: Log.fed id r.log
    rw [List.append_nil]
    exact (List.prefix_append _ _).trans h.queued
  · rw [box] at held
    cases held

theorem move {r r' : Run} {id : SubscriberId} (move : Move r r') (ordered : Ordered r)
    (registry : Registry r) (h : Feed r id) : Feed r' id := by
  cases move with
  | refused policy candidate why free =>
    exact h.quiet (.of_quiet rfl rfl rfl rfl rfl) (pending_of_free free id).symm (by simp)
      (by simp)
  | refreshed now policy candidate x free =>
    refine h.quiet (.of_quiet rfl rfl rfl rfl rfl) ?_ (by simp) (by simp)
    rw [pending_of_free free]
    exact pending_of_done rfl rfl id
  | published now policy candidate x repaired free judged =>
    exact h.publish registry free rfl rfl rfl ⟨rfl, rfl, rfl, rfl⟩
      (ordered.lt_of_publish judged) rfl (by simp) (by simp)
  | coldStarted mark free empty =>
    refine h.publish registry free rfl rfl rfl ⟨rfl, rfl, rfl, rfl⟩ ?_ rfl rfl rfl
    simp [ordered.commits_nil empty]
  | begunBefore c free =>
    refine h.quiet (.of_quiet rfl rfl rfl rfl rfl) ?_ rfl (Nat.le_refl _)
    rw [pending_of_free free]
    exact pending_of_done rfl rfl id
  | told f other rest flight next =>
    by_cases same : other = id
    · subst same
      exact h.told_self registry flight next
    · refine h.quiet (.told same _ _ _) ?_ ?_ (Nat.le_refl _)
      · simp [Run.pending, flight, next, FanOut.pending_note next, FanOut.note_snapshot,
          Ne.symm same]
      · rw [Store.offer_box, if_neg (Ne.symm same)]
  | settled f flight done =>
    exact h.quiet (.of_quiet rfl rfl rfl rfl rfl) (pending_of_done flight done id).symm rfl
      (Nat.le_refl _)
  | read => exact h.quiet (.of_quiet rfl rfl rfl rfl rfl) rfl rfl (Nat.le_refl _)
  | subscribed label capacity other ok =>
    by_cases same : other = id
    · subst same
      exact h.subscribed_self ordered ok
    · obtain ⟨-, -, -, next, boxes⟩ := Store.subscribe_ok ok
      refine h.quiet (.subscribed same _ _) rfl ?_ (next ▸ Nat.le_succ _)
      rw [boxes, if_neg (Ne.symm same)]
  | turnedAway label capacity why error =>
    obtain ⟨-, -, next, boxes⟩ := Store.subscribe_error error
    exact h.quiet (.of_quiet rfl rfl rfl rfl rfl) rfl (boxes id) next
  | unsubscribed other => exact h.quiet (.of_quiet rfl rfl rfl rfl rfl) rfl rfl (Nat.le_refl _)
  | took other xs left split =>
    by_cases same : other = id
    · subst same
      exact h.took_self split
    · refine h.quiet (.took same _ _) rfl ?_ (Nat.le_refl _)
      rw [Store.putBox_box, if_neg (Ne.symm same)]
  | detached other =>
    by_cases same : other = id
    · subst same
      exact h.detached_self
    · refine h.quiet (.of_quiet rfl rfl rfl rfl rfl) rfl ?_ (Nat.le_refl _)
      exact (Store.putBox_box _ _ _ _).trans (if_neg (Ne.symm same))

end Feed

/-- The feed of every subscriber along every run of a new store. -/
theorem feed_after (config : StoreConfig) (instanceId : String) (started : Stamp)
    (acts : List Act) (id : SubscriberId) :
    Feed ((start config instanceId started).after acts) id := by
  refine (after_of_move (P := fun r => Ordered r ∧ Registry r ∧ Feed r id) ?_ acts
    ⟨.start _ _ _, .start _ _ _, .start _ _ _ id⟩).2.2
  intro r r' move before
  obtain ⟨ordered, registry, feed⟩ := before
  exact ⟨ordered.move move, registry.move move, feed.move move ordered registry⟩

end Run

/-- What a subscriber is fed over every run of a new store, whatever comes
between the commit of a write, its offers and its accounting.

The snapshots that were ever put into its mailbox have increasing versions.
The first of them is the current snapshot at its registration, if there was
one; the others are the snapshots published while it was registered, in this
order, without the lost ones and the one on its way; every one that was
published was offered once, or is on its way.  None was put in before it was
committed, and none is newer than the current snapshot.  The mailbox is a
queue: what was taken out and what is in it is what was put in, as long as
somebody receives. -/
theorem feed_in_order (config : StoreConfig) (instanceId : String) (started : Stamp)
    (acts : List Act) (id : SubscriberId) :
    let r := (Run.start config instanceId started).after acts
    let fed := Log.fed id r.log
    fed.Pairwise (fun a b => a.version < b.version) ∧
    fed = (Log.caughtUp id r.log).toList ++ (Log.due id r.log).filter
      (fun x => x ∉ Log.lost id r.log ∧ x ∉ r.pending id) ∧
    (Log.offers id r.log).map Prod.fst ++ r.pending id = Log.due id r.log ∧
    (∀ x ∈ fed, x ∈ Log.commits r.log ∧ NotOlder (some x) r.store.current) ∧
    Log.taken id r.log ++ (r.store.box id).queue <+: fed ∧
    ((r.store.box id).attached = true →
      Log.taken id r.log ++ (r.store.box id).queue = fed) ∧
    r.store.isRegistered id = Log.registered id r.log := by
  intro r fed
  have ordered := Run.ordered_after config instanceId started acts
  have registry := Run.registry_after config instanceId started acts
  have feed := Run.feed_after config instanceId started acts id
  have distinct : (Log.due id r.log).Nodup := by
    have sorted := (List.pairwise_append.1 feed.sorted).2.1
    refine sorted.imp fun {a b} lt same => ?_
    rw [same] at lt
    exact UInt64.lt_irrefl _ lt
  have split : fed = (Log.caughtUp id r.log).toList ++ (Log.due id r.log).filter
      (fun x => x ∉ Log.lost id r.log ∧ x ∉ r.pending id) := by
    have nodup := distinct
    rw [← feed.told] at nodup ⊢
    rw [Log.lost, filter_not_lost nodup]
    exact feed.fed
  have sub : fed.Sublist ((Log.caughtUp id r.log).toList ++ Log.due id r.log) := by
    rw [split]
    exact List.filter_sublist.append_left _
  refine ⟨feed.sorted.sublist sub, split, feed.told, fun x hx => ?_, feed.queued, feed.attached, ?_⟩
  · have known := feed.known x (sub.mem hx)
    exact ⟨known, ordered.commits x known⟩
  · rw [Store.isRegistered_eq, Bool.eq_iff_iff, List.contains_iff_mem]
    exact registry.roster id

end AgentState
