/-
AgentState.Proofs.Store.Isolation — a subscriber that stalls, is full or is
gone costs only itself.

Two runs are compared in which the same calls come in the same order, and in
which one subscriber may ask for another capacity, receive at other times and
give its mailbox up at another time or never.  Fan-outs wait for it in one run
and not in the other, and it is pruned from the middle of the registry in one
run and not in the other.

* `Store.account` — the numbers of a registered subscriber.
* `Run.account_of_served` — they follow from its tray.
* `Run.course` — what a subscriber is sent when no fan-out is under way.
* `subscribers_are_isolated` — the statement over pairs of runs.
-/
import Mathlib.Logic.Equiv.Basic
import AgentState.Proofs.Store.Served

namespace AgentState

/-- Whether somebody is turned away because of the limit. -/
def Event.hitsLimit : Event → Bool
  | .turnedAway (.subscriberLimit _) => true
  | _ => false

/-- The delivered and the missed notifications of a subscriber, if it is
registered. -/
def Store.account (s : Store) (id : SubscriberId) : Option (Nat × Nat) :=
  (s.subscribers.find? (fun e => e.id = id)).map fun e => (e.delivered, e.missed)

/-- What a subscriber has earned by its receipts and by what was waiting for
it. -/
theorem Log.earned_eq_count (id : SubscriberId) (log : Log) (k : Receipt) :
    Log.earned id log k = (Log.receipts id log).count k +
      if k = .taken then (Log.caughtUp id log).toList.length else 0 := by
  have count : ((Log.offers id log).filter (fun o => o.2 = k)).length =
      (Log.receipts id log).count k := by
    rw [Log.receipts, List.count, List.countP_map, List.countP_eq_length_filter]
    congr 1
  rw [Log.earned, count]

namespace Run

variable {r : Run} {id : SubscriberId}

/-- The numbers of a subscriber when no fan-out is under way. -/
theorem account_of_accounted (h : Accounted r) (free : r.flight = none) (id : SubscriberId) :
    r.store.account id = if Log.registered id r.log = true then
      some (Log.earned id r.log .taken, Log.earned id r.log .full) else none := by
  unfold Store.account
  cases found : r.store.subscribers.find? (fun e => e.id = id) with
  | some e =>
    obtain rfl : e.id = id := by simpa using List.find?_some found
    have member := List.mem_of_find?_eq_some found
    have registered := (h.registry.roster e.id).1 (List.mem_map_of_mem member)
    rw [if_pos registered, ← h.number free member, ← h.number free member]
    rfl
  | none =>
    have away : ¬Log.registered id r.log = true := by
      intro registered
      obtain ⟨e, member, same⟩ := List.mem_map.1 ((h.registry.roster id).2 registered)
      have other := List.find?_eq_none.1 found e member
      simp [same] at other
    rw [if_neg away]
    rfl

/-- What a subscriber has and is sent, as it is seen through a veil. -/
theorem course {script : List (Nat × Deed)} (served : Served r id) (replayed : Replayed id script r)
    (offered : Log.offered id r.log = Log.due id r.log) (v : Veil) :
    let first := (r.firstTray id).veiled v
    let sent := (Log.due id r.log).map (·.veiled v)
    (r.tray id).veiled v = first.replay script sent.reverse ∧
      Tray.Course first script ((Log.membership id r.log).veiled v).addressed sent := by
  intro first sent
  have tray : (r.tray id).veiled v = first.replay script sent.reverse := by
    rw [replayed.tray, Tray.veiled_replay, offered, List.map_reverse]
  have receipts : (first.replay script sent.reverse).receipts = Log.receipts id r.log := by
    rw [← tray]
    rfl
  refine ⟨tray, ?_, ?_, ?_, ?_⟩
  · rw [List.length_map, ← offered]
    exact replayed.earlier
  · rw [receipts]
    exact fun open_ => congrArg _ (served.whole open_)
  · exact served.cut.map _
  · rw [receipts]
    exact served.last

/-- The numbers of a member are those of its receipts and of what was waiting
for it. -/
theorem account_of_served (h : Accounted r) (served : Served r id) (free : r.flight = none) :
    let m := Log.membership id r.log
    let receipts := (r.tray id).receipts
    r.store.account id = if m.active = true ∧ .closed ∉ receipts then
      some (receipts.count .taken + m.waiting.length, receipts.count .full) else none := by
  intro m receipts
  have standing := served.standing
  rw [unsettled_of_free free, and_iff_left List.not_mem_nil] at standing
  have registered : Log.registered id r.log = true ↔ m.active = true ∧ .closed ∉ receipts :=
    standing
  rw [account_of_accounted h free id, Log.earned_eq_count, Log.earned_eq_count, ← served.waiting]
  simp only [registered]
  rfl

/-- Two subscribers of two runs, with the same capacity, the same membership
and the same deeds, have the same in their trays and the same numbers. -/
theorem tray_and_account {r₁ r₂ : Run} {v₁ v₂ : Veil} {script : List (Nat × Deed)}
    (accounted₁ : Accounted r₁) (accounted₂ : Accounted r₂)
    (served₁ : Served r₁ id) (served₂ : Served r₂ id)
    (replayed₁ : Replayed id script r₁) (replayed₂ : Replayed id script r₂)
    (free₁ : r₁.flight = none) (free₂ : r₂.flight = none)
    (capacity : (r₁.store.box id).capacity = (r₂.store.box id).capacity)
    (membership : (Log.membership id r₁.log).veiled v₁ = (Log.membership id r₂.log).veiled v₂) :
    (r₁.tray id).veiled v₁ = (r₂.tray id).veiled v₂ ∧
      r₁.store.account id = r₂.store.account id := by
  obtain ⟨tray₁, course₁⟩ :=
    course served₁ replayed₁ ((accounted₁.feed id).told_of_free free₁) v₁
  obtain ⟨tray₂, course₂⟩ :=
    course served₂ replayed₂ ((accounted₂.feed id).told_of_free free₂) v₂
  have first : (r₁.firstTray id).veiled v₁ = (r₂.firstTray id).veiled v₂ := by
    have split : ∀ (r : Run) (v : Veil), (r.firstTray id).veiled v =
        .first (r.store.box id).capacity ((Log.membership id r.log).veiled v) := fun _ _ => rfl
    rw [split, split, capacity, membership]
  rw [first, membership] at course₁
  have sent := course₁.unique course₂
  have tray : (r₁.tray id).veiled v₁ = (r₂.tray id).veiled v₂ := by
    rw [tray₁, tray₂, first, sent]
  have receipts : (r₁.tray id).receipts = (r₂.tray id).receipts := by
    have same := congrArg Tray.receipts tray
    exact same
  have active : (Log.membership id r₁.log).active = (Log.membership id r₂.log).active := by
    have same := congrArg Membership.active membership
    exact same
  have waiting : (Log.membership id r₁.log).waiting.length =
      (Log.membership id r₂.log).waiting.length := by
    simpa [Membership.veiled] using congrArg (fun m => m.waiting.length) membership
  refine ⟨tray, ?_⟩
  rw [account_of_served accounted₁ served₁ free₁, account_of_served accounted₂ served₂ free₂,
    receipts, active, waiting]

/-- New stores with the same settings have the same outline. -/
theorem outline_start (config : StoreConfig) {A : SubscriberId} {v₁ v₂ : Veil}
    {instance₁ instance₂ : String} (named : v₁.name instance₁ = v₂.name instance₂)
    (started₁ started₂ : Stamp) :
    (start config instance₁ started₁).outline A v₁ =
      (start config instance₂ started₂).outline A v₂ := by
  have bare : (start config instance₁ started₁).store.bare v₁ =
      (start config instance₂ started₂).store.bare v₂ := by
    simp [start, Store.empty, Store.bare, named]
  simp only [outline, bare]
  rfl

/-- The outline at a moment of a run in which nobody hits the limit. -/
theorem outline_of_prefix (A : SubscriberId) (v : Veil) (r : Run) {before acts : List Act}
    (le : before <+: acts) (room : ∀ e ∈ (r.after acts).log, e.hitsLimit = false) :
    (r.after before).outline A v =
      ((r.calls A before).map (·.veiled v)).foldl Outline.step (r.outline A v) := by
  obtain ⟨rest, rfl⟩ := le
  refine outline_after before r fun limit mem => ?_
  obtain ⟨later, log⟩ := after_log rest (r.after before)
  have hit := room (.turnedAway (.subscriberLimit limit))
  rw [after_append, log] at hit
  cases hit (List.mem_append_right _ mem)

end Run

/-- A subscriber is isolated from all others, over every pair of runs of new
stores with the same settings.

The runs make the same calls in the same order, each seen through a veil of
its own: the same candidates under the same policies, the same cold starts,
the same registrations and removals.  The capacity that `A` asks for may
differ, and so may all that `A` receives, when it gives its mailbox up, and how
the fan-outs go.  Nobody is turned away because of the limit.

At any two moments with equally many calls before them all writes and cold
starts got the same answers, the same snapshot is current, and the sets, the
conflicts, the rejections and the refreshes are the same.  If no fan-out is
under way at these moments, every other subscriber that did the same things
after the same numbers of offers to it has the same in its mailbox, took the
same out of it, is registered in both runs or in none, and has the same numbers
of delivered and of missed notifications. -/
theorem subscribers_are_isolated (config : StoreConfig) (A : SubscriberId) (v₁ v₂ : Veil)
    (instance₁ instance₂ : String) (started₁ started₂ : Stamp) (acts₁ acts₂ : List Act) :
    let s₁ := Run.start config instance₁ started₁
    let s₂ := Run.start config instance₂ started₂
    v₁.name instance₁ = v₂.name instance₂ →
    (s₁.calls A acts₁).map (·.veiled v₁) = (s₂.calls A acts₂).map (·.veiled v₂) →
    (∀ e ∈ (s₁.after acts₁).log, e.hitsLimit = false) →
    (∀ e ∈ (s₂.after acts₂).log, e.hitsLimit = false) →
    ∀ before₁ before₂, before₁ <+: acts₁ → before₂ <+: acts₂ →
      (s₁.calls A before₁).length = (s₂.calls A before₂).length →
      let r₁ := s₁.after before₁
      let r₂ := s₂.after before₂
      (Log.answers r₁.log).map (Except.map (·.veiled v₁)) =
        (Log.answers r₂.log).map (Except.map (·.veiled v₂)) ∧
      r₁.store.current.map (·.veiled v₁) = r₂.store.current.map (·.veiled v₂) ∧
      r₁.store.counters.totalSets = r₂.store.counters.totalSets ∧
      r₁.store.counters.versionConflicts = r₂.store.counters.versionConflicts ∧
      r₁.store.counters.rejectedSets = r₂.store.counters.rejectedSets ∧
      r₁.store.counters.refreshes = r₂.store.counters.refreshes ∧
      (r₁.flight = none → r₂.flight = none → ∀ B, B ≠ A →
        s₁.deeds B before₁ = s₂.deeds B before₂ →
          (r₁.store.box B).queue.map (·.veiled v₁) = (r₂.store.box B).queue.map (·.veiled v₂) ∧
          (Log.taken B r₁.log).map (·.veiled v₁) = (Log.taken B r₂.log).map (·.veiled v₂) ∧
          r₁.store.account B = r₂.store.account B) := by
  intro s₁ s₂ named calls room₁ room₂ before₁ before₂ prefix₁ prefix₂ equallyMany r₁ r₂
  -- the same calls were made before the two moments
  have made : (s₁.calls A before₁).map (·.veiled v₁) = (s₂.calls A before₂).map (·.veiled v₂) := by
    obtain ⟨rest₁, rfl⟩ := prefix₁
    obtain ⟨rest₂, rfl⟩ := prefix₂
    rw [Run.calls_append, Run.calls_append, List.map_append, List.map_append] at calls
    exact (List.append_inj calls (by rw [List.length_map, List.length_map, equallyMany])).1
  have outline : r₁.outline A v₁ = r₂.outline A v₂ := by
    show (s₁.after before₁).outline A v₁ = (s₂.after before₂).outline A v₂
    rw [Run.outline_of_prefix A v₁ s₁ prefix₁ room₁, Run.outline_of_prefix A v₂ s₂ prefix₂ room₂,
      made, Run.outline_start config named started₁ started₂]
  have store : r₁.store.bare v₁ = r₂.store.bare v₂ := congrArg Outline.store outline
  obtain ⟨sets, conflicts, rejected, refreshes⟩ :
      r₁.store.counters.totalSets = r₂.store.counters.totalSets ∧
      r₁.store.counters.versionConflicts = r₂.store.counters.versionConflicts ∧
      r₁.store.counters.rejectedSets = r₂.store.counters.rejectedSets ∧
      r₁.store.counters.refreshes = r₂.store.counters.refreshes := by
    simpa [Store.bare] using congrArg Store.counters store
  refine ⟨congrArg Outline.answers outline, congrArg Store.current store, sets, conflicts,
    rejected, refreshes, ?_⟩
  intro free₁ free₂ B other deeds
  have capacity : (r₁.store.box B).capacity = (r₂.store.box B).capacity := by
    have same := congrFun (congrArg Outline.capacity outline) B
    simpa [Run.outline, other] using same
  have replayed₁ := Run.replayed_after config instance₁ started₁ B before₁
  have replayed₂ := Run.replayed_after config instance₂ started₂ B before₂
  change Run.Replayed B (s₁.deeds B before₁) r₁ at replayed₁
  rw [deeds] at replayed₁
  obtain ⟨tray, account⟩ := Run.tray_and_account
    (Run.accounted_after config instance₁ started₁ before₁)
    (Run.accounted_after config instance₂ started₂ before₂)
    (Run.served_after config instance₁ started₁ before₁ B)
    (Run.served_after config instance₂ started₂ before₂ B)
    replayed₁ replayed₂ free₁ free₂ capacity (congrFun (congrArg Outline.membership outline) B)
  exact ⟨congrArg (fun t => t.box.queue) tray, congrArg Tray.taken tray, account⟩

/-- The second of three subscribers gives its mailbox up after the first
publication, and is found closed by the second one. -/
def stalledActs : List Act :=
  [.subscribe "first" 1, .subscribe "second" 1, .subscribe "third" 2, .begin (markOf "a"), .tell,
    .tell, .tell, .settle, .receive ⟨1⟩, .detach ⟨2⟩, .write ⟨1, .epoch⟩ .strict movedFact, .tell,
    .tell, .tell, .settle, .drain ⟨3⟩]

/-- The same calls under other identifiers and at other times, with a second
subscriber that has room and receives. -/
def roomyActs : List Act :=
  [.subscribe "first" 1, .subscribe "second" 5, .subscribe "third" 2, .begin (markOf "x"), .tell,
    .tell, .receive ⟨2⟩, .tell, .settle, .receive ⟨1⟩,
    .write ⟨7, .epoch⟩ .strict
      ((Snapshot.coldStart (markOf "x") "other").derive (markOf "z") .idle "change" none),
    .tell, .tell, .tell, .settle, .read, .drain ⟨3⟩]

/-- The identifiers of the second run as those of the first one. -/
def translation : Veil where
  name := (Equiv.swap "other" "run").trans ((Equiv.swap "x" "a").trans (Equiv.swap "z" "c"))
  apart := fun _ _ same => Equiv.injective _ same
  empty := by decide

/-- The second subscriber is pruned in one run and not in the other, and the
third one has the same. -/
theorem subscribers_are_isolated_stalled :
    let r₁ := (Run.start .standard "run" ⟨1, .epoch⟩).after stalledActs
    let r₂ := (Run.start .standard "other" ⟨5, .epoch⟩).after roomyActs
    r₁.store.roster = [⟨1⟩, ⟨3⟩] ∧ r₂.store.roster = [⟨1⟩, ⟨2⟩, ⟨3⟩] ∧
      (Log.taken ⟨3⟩ r₁.log).length = 2 ∧
      (Log.taken ⟨3⟩ r₁.log).map (·.veiled .plain) =
        (Log.taken ⟨3⟩ r₂.log).map (·.veiled translation) ∧
      r₁.store.account ⟨3⟩ = some (2, 0) ∧ r₂.store.account ⟨3⟩ = some (2, 0) := by
  intro r₁ r₂
  have numbers : r₁.store.account ⟨3⟩ = some (2, 0) := by decide
  obtain ⟨-, -, -, -, -, -, others⟩ := subscribers_are_isolated .standard ⟨2⟩ .plain translation
    "run" "other" ⟨1, .epoch⟩ ⟨5, .epoch⟩ stalledActs roomyActs (by decide) (by decide) (by decide)
    (by decide) stalledActs roomyActs List.prefix_rfl List.prefix_rfl (by decide)
  obtain ⟨-, taken, account⟩ := others (by decide) (by decide) ⟨3⟩ (by decide) (by decide)
  exact ⟨by decide, by decide, by decide, taken, numbers, account.symm.trans numbers⟩

end AgentState
