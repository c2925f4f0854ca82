/-
AgentState.Proofs.Store.Whole — whole writes as runs.

A write that nobody disturbs is a run of its own: the commit, one offer for
every subscriber, the accounting.  So what holds of all runs holds of
`Store.set` and `Store.begin`, whoever acts before and after them.

* `Delivery.tell_absent`, `Delivery.tells_absent` — offers that nobody
  disturbs.
* `Store.spread_eq` — a fan-out, but for the mailboxes and the receipts.
* `spread_eq_run` — a fan-out as offers and accounting.
* `set_eq_run`, `begin_eq_run` — whole writes.
* `set_answer`, `set_of_refuse`, `set_of_refresh`, `set_of_publish` — what a
  write answers and leaves, by its verdict alone.
* `set_eq_of_refuse`, `set_eq_of_refresh`, `set_eq_of_publish` — the whole
  store after a write, by its verdict.
-/
import AgentState.Store.Write
import AgentState.Proofs.Store.Quiet
import AgentState.Proofs.Store.Registry
import AgentState.Proofs.Store.Verdict

namespace AgentState

namespace Mailboxes

theorem putIn_of_lookup {id : SubscriberId} {m : Mailbox} :
    ∀ {es : List (SubscriberId × Mailbox)}, es.lookup id = some m → putIn id m es = es
  | [], h => by cases h
  | (key, old) :: rest, h => by
      by_cases same : key = id
      · subst same
        simp only [List.lookup_cons, beq_self_eq_true, Option.some.injEq] at h
        simp [putIn, h]
      · have away : (id == key) = false := by simp [Ne.symm same]
        simp only [List.lookup_cons, away] at h
        simp [putIn, same, putIn_of_lookup h]

/-- Putting an attached mailbox where it is changes nothing. -/
theorem put_box_of_attached {ms : Mailboxes} {id : SubscriberId}
    (attached : (ms.box id).attached = true) : ms.put id (ms.box id) = ms := by
  unfold box at attached ⊢
  cases found : ms.entries.lookup id with
  | none => simp [found, Mailbox.abandoned] at attached
  | some m => simp [put, putIn_of_lookup found]

end Mailboxes

/-- An offer that finds a mailbox full leaves the store as it is. -/
theorem Store.offer_full {s : Store} {id : SubscriberId} {x : Snapshot}
    (full : (s.offer id x).1 = .full) : (s.offer id x).2 = s := by
  have receipt : ((s.box id).offer x).1 = .full := full
  have box : ((s.box id).offer x).2 = s.box id := Mailbox.offer_not_taken (by rw [receipt]; decide)
  have attached : (s.mailboxes.box id).attached = true := by
    change (s.box id).attached = true
    cases held : (s.box id).attached with
    | true => rfl
    | false => simp [Mailbox.offer, held] at receipt
  show s.putBox id ((s.box id).offer x).2 = s
  rw [box]
  show { s with mailboxes := s.mailboxes.put id (s.mailboxes.box id) } = s
  rw [Mailboxes.put_box_of_attached attached]

/-- How long an offer with this outcome waits. -/
def Receipt.wait (timeout : Nat) : Receipt → Nat
  | .full => timeout
  | .taken | .closed => 0

/-- A writer waits once for each offer that finds a mailbox full. -/
theorem Receipt.wait_add (timeout : Nat) (id : SubscriberId) (r : Receipt)
    (rs : List (SubscriberId × Receipt)) :
    r.wait timeout + timeout * rs.countP (fun e => e.2 = .full) =
      timeout * ((id, r) :: rs).countP (fun e => e.2 = .full) := by
  cases r <;> simp [wait, Nat.mul_add, Nat.add_comm]

/-- An offer that nobody disturbs ends as the mailbox says, at once or when
its time is over. -/
theorem Delivery.tell_absent (timeout : Nat) (s : Store) (f : FanOut) (elapsed : Nat)
    (id : SubscriberId) :
    (⟨s, f, elapsed, .absent⟩ : Delivery Empty).tell timeout id =
      ⟨(s.offer id f.snapshot).2, f.note id (s.offer id f.snapshot).1,
        elapsed + (s.offer id f.snapshot).1.wait timeout, .absent⟩ := by
  cases offered : s.offer id f.snapshot with
  | mk receipt store =>
    cases receipt with
    | taken => simp [tell, offered, record, Receipt.wait]
    | closed => simp [tell, offered, record, Receipt.wait]
    | full =>
      have same : store = s := by
        have full : (s.offer id f.snapshot).2 = s := Store.offer_full (by rw [offered])
        rw [offered] at full
        exact full
      subst same
      simp [tell, offered, visitBefore, record, Receipt.wait]

/-- Offers that nobody disturbs change mailboxes and nothing else, and wait
once for each mailbox that they find full.  If nobody is told twice, each
mailbox is the one that was there before with one offer made to it. -/
theorem Delivery.tells_absent (timeout : Nat) :
    ∀ (ids : List SubscriberId) (s : Store) (f : FanOut) (elapsed : Nat),
      ∃ (ms : Mailboxes) (rs : List (SubscriberId × Receipt)),
        ids.foldl (tell timeout) (⟨s, f, elapsed, .absent⟩ : Delivery Empty) =
          ⟨{ s with mailboxes := ms }, { f with receipts := f.receipts ++ rs },
            elapsed + timeout * rs.countP (fun e => e.2 = .full), .absent⟩ ∧
        (ids.Nodup →
          rs = ids.map (fun id => (id, ((s.box id).offer f.snapshot).1)) ∧
          ∀ id, ms.box id =
            if id ∈ ids then ((s.box id).offer f.snapshot).2 else s.box id)
  | [], s, f, elapsed => ⟨s.mailboxes, [], by simp, fun _ => ⟨rfl, fun _ => rfl⟩⟩
  | id :: rest, s, f, elapsed => by
      obtain ⟨ms, rs, told, apart⟩ := tells_absent timeout rest (s.offer id f.snapshot).2
        (f.note id (s.offer id f.snapshot).1)
        (elapsed + (s.offer id f.snapshot).1.wait timeout)
      refine ⟨ms, (id, (s.offer id f.snapshot).1) :: rs, ?_, fun once => ?_⟩
      · rw [List.foldl_cons, tell_absent, told, Nat.add_assoc, Receipt.wait_add timeout id]
        simp [FanOut.note, Store.offer, Store.putBox]
      · obtain ⟨other, once⟩ := List.nodup_cons.1 once
        obtain ⟨receipts, boxes⟩ := apart once
        -- the offer to `id` is not seen by those who come after it
        have kept : ∀ i, i ≠ id → (s.offer id f.snapshot).2.box i = s.box i :=
          fun i differs => by rw [Store.offer_box, if_neg differs]
        refine ⟨?_, fun i => ?_⟩
        · rw [receipts, List.map_cons, Store.offer_receipt]
          congr 1
          refine List.map_congr_left fun i mem => ?_
          rw [kept i (fun same => other (same ▸ mem))]
          rfl
        · rw [boxes i]
          by_cases same : i = id
          · subst same
            simp [other, Store.offer_box]
          · simp [same, kept i same, FanOut.note]

/-- A fan-out that nobody disturbs, but for the mailboxes and the receipts
that it makes. -/
theorem Store.spread_eq (s : Store) (f : FanOut) :
    ∃ (ms : Mailboxes) (rs : List (SubscriberId × Receipt)),
      s.spread f = ⟨f.snapshot,
        { s with mailboxes := ms }.settle { f with receipts := f.receipts ++ rs },
        s.timeout * rs.countP (fun e => e.2 = .full)⟩ ∧
      (f.targets.Nodup →
        rs = f.targets.map (fun id => (id, ((s.box id).offer f.snapshot).1)) ∧
        ∀ id, ms.box id =
          if id ∈ f.targets then ((s.box id).offer f.snapshot).2 else s.box id) := by
  obtain ⟨ms, rs, told, apart⟩ := Delivery.tells_absent s.timeout f.targets s f 0
  exact ⟨ms, rs, by simp [spread, Delivery.run, told], apart⟩

namespace Run

/-- Offers that nobody disturbs are the steps of a run. -/
theorem tells_eq_run (timeout : Nat) :
    ∀ (ids : List SubscriberId) (s : Store) (f : FanOut) (log : Log) (elapsed : Nat),
      f.pending = ids →
      ∃ s' f' log' later,
        ids.foldl (Delivery.tell timeout) (⟨s, f, elapsed, .absent⟩ : Delivery Empty) =
          ⟨s', f', later, .absent⟩ ∧
        after ⟨s, some f, log⟩ (List.replicate ids.length .tell) = ⟨s', some f', log'⟩ ∧
        f'.pending = [] ∧ f'.snapshot = f.snapshot
  | [], s, f, log, elapsed, done => ⟨s, f, log, elapsed, rfl, rfl, done, rfl⟩
  | id :: rest, s, f, log, elapsed, next => by
      have told := Delivery.tell_absent timeout s f elapsed id
      have step : Run.step ⟨s, some f, log⟩ .tell =
          ⟨(s.offer id f.snapshot).2, some (f.note id (s.offer id f.snapshot).1),
            .told id f.snapshot (s.offer id f.snapshot).1 :: log⟩ := by
        simp [Run.step, next]
      obtain ⟨s', f', log', last, all, run, done, same⟩ :=
        tells_eq_run timeout rest _ _ (.told id f.snapshot (s.offer id f.snapshot).1 :: log)
          _ (FanOut.pending_note next _)
      refine ⟨s', f', log', last, ?_, ?_, done, same⟩
      · rw [List.foldl_cons, told, all]
      · rw [List.length_cons, List.replicate_succ]
        show after (Run.step ⟨s, some f, log⟩ .tell) _ = _
        rw [step, run]

/-- The acts of a fan-out to some subscribers that nobody disturbs. -/
def telling (count : Nat) : List Act := List.replicate count .tell ++ [.settle]

/-- A fan-out that nobody disturbs is a run. -/
theorem spread_eq_run (s : Store) (f : FanOut) (log : Log) (fresh : f.receipts = []) :
    (s.spread f).result = f.snapshot ∧
      (after ⟨s, some f, log⟩ (telling f.targets.length)).store = (s.spread f).store ∧
      (after ⟨s, some f, log⟩ (telling f.targets.length)).flight = none := by
  have next : f.pending = f.targets := FanOut.pending_of_receipts_nil fresh
  obtain ⟨s', f', log', later, all, run, done, -⟩ := tells_eq_run s.timeout f.targets s f log 0 next
  have spread : s.spread f = ⟨f.snapshot, s'.settle f', later⟩ := by
    simp [Store.spread, Delivery.run, all]
  rw [telling, after_append, run, spread]
  simp [after, step, done]

/-- Without a fan-out, offers and accounting do nothing. -/
theorem telling_free (s : Store) (log : Log) (count : Nat) :
    after ⟨s, none, log⟩ (telling count) = ⟨s, none, log⟩ := by
  have idle : ∀ n, after ⟨s, none, log⟩ (List.replicate n .tell) = ⟨s, none, log⟩ := by
    intro n
    induction n with
    | zero => rfl
    | succ n ih => exact ih
  rw [telling, after_append, idle]
  rfl

/-- Offers beyond the last subscriber do nothing. -/
theorem telling_more (s : Store) (f : FanOut) (log : Log) (fresh : f.receipts = []) (count : Nat)
    (enough : f.targets.length ≤ count) :
    after ⟨s, some f, log⟩ (telling count) =
      after ⟨s, some f, log⟩ (telling f.targets.length) := by
  have idle : ∀ (s : Store) (f : FanOut) (log : Log), f.pending = [] → ∀ n,
      after ⟨s, some f, log⟩ (List.replicate n .tell) = ⟨s, some f, log⟩ := by
    intro s f log done n
    induction n with
    | zero => rfl
    | succ n ih =>
      rw [List.replicate_succ]
      show after (step ⟨s, some f, log⟩ .tell) _ = _
      have same : step ⟨s, some f, log⟩ .tell = ⟨s, some f, log⟩ := by simp [step, done]
      rw [same, ih]
  obtain ⟨s', f', log', -, -, run, done, -⟩ :=
    tells_eq_run s.timeout f.targets s f log 0 (FanOut.pending_of_receipts_nil fresh)
  have split : count = f.targets.length + (count - f.targets.length) := by omega
  rw [telling, telling, after_append, after_append, split,
    ← List.replicate_append_replicate, after_append, run, idle s' f' log' done]

/-- Nobody is told in a way that changes what is current. -/
theorem telling_current (count : Nat) :
    ∀ r : Run, (r.after (telling count)).store.current = r.store.current := by
  induction count with
  | zero => exact fun r => (quiet_settle r).current
  | succ n ih =>
    intro r
    show ((r.step .tell).after (telling n)).store.current = _
    rw [ih, (quiet_tell r).current]

/-- A whole write that finds the gate free is a run, and leaves it free. -/
theorem set_eq_run (r : Run) (free : r.flight = none) (now : Stamp) (policy : VersionPolicy)
    (candidate : Snapshot) :
    let r' := (r.step (.write now policy candidate)).after (telling r.store.roster.length)
    r'.store = (r.store.set now policy candidate).store ∧ r'.flight = none := by
  intro r'
  simp only [r', step, free, Store.set]
  cases committed : r.store.commit now policy candidate with
  | mk answer store =>
    cases answer with
    | error e =>
      rw [show (Except.error e : Except StoreError FanOut).toOption = none from rfl, telling_free]
      exact ⟨rfl, rfl⟩
    | ok f =>
      have targets : f.receipts = [] ∧ f.targets.length ≤ r.store.roster.length := by
        unfold Store.commit at committed
        cases judged : judge r.store.current policy candidate with
        | refuse why => simp [judged] at committed
        | refresh x =>
          simp only [judged, Prod.mk.injEq, Except.ok.injEq] at committed
          rw [← committed.1]
          exact ⟨rfl, Nat.zero_le _⟩
        | publish x repaired =>
          simp only [judged, Prod.mk.injEq, Except.ok.injEq] at committed
          rw [← committed.1]
          exact ⟨rfl, by simp⟩
      rw [show (Except.ok f : Except StoreError FanOut).toOption = some f from rfl,
        telling_more _ _ _ targets.1 _ targets.2]
      exact (spread_eq_run store f _ targets.1).2

/-- A whole cold start that finds the gate free is a run, and leaves it
free. -/
theorem begin_eq_run (r : Run) (free : r.flight = none) (mark : Mark) :
    let r' := (r.step (.begin mark)).after (telling r.store.roster.length)
    r'.store = (r.store.begin mark).store ∧ r'.flight = none := by
  intro r'
  simp only [r', step, free, Store.begin]
  cases current : r.store.current with
  | none =>
    simp only [Store.coldStart, current]
    have targets : (r.store.announce (.coldStart mark r.store.instanceId)).targets.length =
        r.store.roster.length := rfl
    rw [← targets]
    exact (spread_eq_run _ _ _ rfl).2
  | some c =>
    simp only [Store.coldStart, current]
    rw [telling_more _ _ _ rfl _ (Nat.zero_le _)]
    exact (spread_eq_run _ _ _ rfl).2

end Run

namespace Store

/-- A write answers what its commit answers. -/
theorem set_result (s : Store) (now : Stamp) (policy : VersionPolicy) (candidate : Snapshot) :
    (s.set now policy candidate).result =
      (s.commit now policy candidate).1.map FanOut.snapshot := by
  unfold set
  cases s.commit now policy candidate with
  | mk answer store => cases answer <;> rfl

/-- A write answers what the verdict on its candidate says. -/
theorem set_answer (s : Store) (now : Stamp) (policy : VersionPolicy) (candidate : Snapshot) :
    (s.set now policy candidate).result = (judge s.current policy candidate).answer := by
  rw [set_result, commit]
  cases judge s.current policy candidate <;> rfl

/-- A write leaves as current what its commit leaves. -/
theorem set_current (s : Store) (now : Stamp) (policy : VersionPolicy) (candidate : Snapshot) :
    (s.set now policy candidate).store.current = (s.commit now policy candidate).2.current := by
  have whole := (Run.set_eq_run ⟨s, none, []⟩ rfl now policy candidate).1
  rw [← whole, Run.telling_current]
  rfl

/-- A write that is refused says why and leaves the current snapshot. -/
theorem set_of_refuse {s : Store} {policy : VersionPolicy} {candidate : Snapshot}
    {why : StoreError} (judged : judge s.current policy candidate = .refuse why) (now : Stamp) :
    (s.set now policy candidate).result = .error why ∧
      (s.set now policy candidate).store.current = s.current := by
  rw [set_result, set_current]
  simp [commit, judged, Except.map]

/-- A refresh is answered with the candidate, which is current then. -/
theorem set_of_refresh {s : Store} {policy : VersionPolicy} {candidate x : Snapshot}
    (judged : judge s.current policy candidate = .refresh x) (now : Stamp) :
    (s.set now policy candidate).result = .ok x ∧
      (s.set now policy candidate).store.current = some x := by
  rw [set_result, set_current]
  simp [commit, judged, Except.map]

/-- A publication is answered with what is published, which is current
then. -/
theorem set_of_publish {s : Store} {policy : VersionPolicy} {candidate x : Snapshot}
    {repaired : Bool} (judged : judge s.current policy candidate = .publish x repaired)
    (now : Stamp) :
    (s.set now policy candidate).result = .ok x ∧
      (s.set now policy candidate).store.current = some x := by
  rw [set_result, set_current]
  simp [commit, judged, Except.map]

/-- The store with one more conflict and one more rejection for each of some
refusals. -/
def rejecting (s : Store) (n : Nat) : Store :=
  { s with
    counters := { s.counters with
      versionConflicts := s.counters.versionConflicts + n
      rejectedSets := s.counters.rejectedSets + n } }

/-- A refusal is at most counted. -/
theorem tally_refuse (s : Store) (e : StoreError) :
    ∃ n ≤ 1, s.tally (.refuse e) = s.rejecting n := by
  cases e with
  | versionConflict candidate current => exact ⟨1, Nat.le_refl 1, rfl⟩
  | defective | emptyQueue | hugeQueue | subscriberLimit => exact ⟨0, Nat.zero_le 1, rfl⟩

/-- A write that is refused does nothing but count. -/
theorem set_eq_of_refuse {s : Store} {policy : VersionPolicy} {candidate : Snapshot}
    {why : StoreError} (judged : judge s.current policy candidate = .refuse why) (now : Stamp) :
    s.set now policy candidate = ⟨.error why, s.tally (.refuse why), 0⟩ := by
  simp [set, commit, judged]

/-- A refresh is committed, and nobody is told. -/
theorem set_eq_of_refresh {s : Store} {policy : VersionPolicy} {candidate x : Snapshot}
    (judged : judge s.current policy candidate = .refresh x) (now : Stamp) :
    s.set now policy candidate =
      let w := ((s.tally (.refresh x)).install now x).spread ⟨x, [], []⟩
      ⟨.ok x, w.store, w.elapsed⟩ := by
  simp [set, commit, judged, spread]

/-- A write that publishes tells everybody who is registered. -/
theorem set_eq_of_publish {s : Store} {policy : VersionPolicy} {candidate x : Snapshot}
    {repaired : Bool} (judged : judge s.current policy candidate = .publish x repaired)
    (now : Stamp) :
    s.set now policy candidate =
      let w := ((s.tally (.publish x repaired)).install now x).spread (s.announce x)
      ⟨.ok x, w.store, w.elapsed⟩ := by
  simp [set, commit, judged, announce, spread]

/-- A write that is refused is at most counted. -/
theorem set_of_error {s : Store} {now : Stamp} {policy : VersionPolicy} {candidate : Snapshot}
    {e : StoreError} (refused : (s.set now policy candidate).result = .error e) :
    ∃ n ≤ 1, (s.set now policy candidate).store = s.rejecting n := by
  cases judged : judge s.current policy candidate with
  | refuse why =>
    rw [set_eq_of_refuse judged]
    exact s.tally_refuse why
  | refresh x =>
    rw [(set_of_refresh judged now).1] at refused
    cases refused
  | publish x repaired =>
    rw [(set_of_publish judged now).1] at refused
    cases refused

/-- A defective candidate is refused and leaves the store as it was. -/
theorem set_of_defect {candidate : Snapshot} {d : Defect} (defective : candidate.defect? = some d)
    (s : Store) (now : Stamp) (policy : VersionPolicy) :
    s.set now policy candidate = ⟨.error (.defective d), s, 0⟩ :=
  set_eq_of_refuse (by simp [judge, defective]) now

end Store

end AgentState
