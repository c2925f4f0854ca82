/-
AgentState.Proofs.Store.Outline — what the calls to a store settle, whoever
receives what it sends.

A store with its subscribers is more than what its callers can tell: a
mailbox may be full or given up, and a fan-out may wait for it.  What writes
and cold starts are answered, what is current and what is counted about
versions is settled by the calls alone, in their order; and so is what each
subscriber would be sent if nobody gave a mailbox up.

* `Call` — a call to a store, without clocks; `Run.calls` — the calls of a
  run, but for the capacity that one subscriber asks for.
* `Membership` — what a subscriber would be sent.
* `Outline` — what the calls settle, `Outline.step` — how one call does.
* `Run.outline_step` — a step of a run is one call in outline, or none;
  `Run.outline_after` — the same for a whole run.
-/
import AgentState.Proofs.Store.Run
import AgentState.Proofs.Store.Veil

namespace AgentState

/-! ## Calls -/

/-- A call to a store that may change what it does next. -/
inductive Call where
  | write (policy : VersionPolicy) (candidate : Snapshot)
  | begin (id : String)
  | subscribe (capacity : UInt64)
  | unsubscribe (id : SubscriberId)
  deriving DecidableEq

/-- A call as it is seen through a veil. -/
def Call.veiled (v : Veil) : Call → Call
  | .write policy candidate => .write policy (candidate.veiled v)
  | .begin id => .begin (v.name id)
  | .subscribe capacity => .subscribe capacity
  | .unsubscribe id => .unsubscribe id

/-- Whether a mailbox of a capacity can be made. -/
def Mailbox.Makeable (capacity : UInt64) : Prop :=
  capacity ≠ 0 ∧ capacity.toNat ≤ Mailbox.largest

instance (capacity : UInt64) : Decidable (Mailbox.Makeable capacity) :=
  inferInstanceAs (Decidable (_ ∧ _))

theorem Mailbox.Makeable.pos {capacity : UInt64} (h : Mailbox.Makeable capacity) :
    1 ≤ capacity.toNat :=
  Nat.one_le_iff_ne_zero.2 fun none => h.1 (UInt64.toNat_inj.1 none)

/-- The capacity that is asked for, but for one subscriber who can have what
it asks for. -/
def Store.asked (A : SubscriberId) (s : Store) (capacity : UInt64) : UInt64 :=
  if s.nextSubscriber = A.number ∧ Mailbox.Makeable capacity then 1 else capacity

theorem Store.asked_toNat {A : SubscriberId} {s : Store} {capacity : UInt64}
    (makeable : Mailbox.Makeable capacity) :
    (s.asked A capacity).toNat = if (⟨s.nextSubscriber⟩ : SubscriberId) = A then 1
      else capacity.toNat := by
  have same : (⟨s.nextSubscriber⟩ : SubscriberId) = A ↔ s.nextSubscriber = A.number := by
    cases A
    exact SubscriberId.mk.injEq _ _ ▸ Iff.rfl
  simp only [asked, same, makeable, and_true]
  split <;> rfl

namespace Run

/-- The call that an act is.  A writer who does not find the gate free has not
called yet, and a cold start that finds a snapshot makes up no identifier. -/
def call? (A : SubscriberId) (r : Run) : Act → Option Call
  | .write _ policy candidate =>
      if r.flight.isNone then some (.write policy candidate) else none
  | .begin mark =>
      if r.flight.isNone then
        some (.begin (if r.store.current.isNone then mark.id else ""))
      else none
  | .subscribe _ capacity => some (.subscribe (r.store.asked A capacity))
  | .unsubscribe id => some (.unsubscribe id)
  | .tell | .settle | .read | .receive _ | .drain _ | .detach _ => none

/-- The calls among some acts, but for the capacity that `A` asks for. -/
def calls (A : SubscriberId) (r : Run) : List Act → List Call
  | [] => []
  | a :: rest => (r.call? A a).toList ++ calls A (r.step a) rest

/-- The calls among some acts come before those among the acts after them. -/
theorem calls_append (A : SubscriberId) (bs : List Act) : ∀ (as : List Act) (r : Run),
    r.calls A (as ++ bs) = r.calls A as ++ (r.after as).calls A bs
  | [], _ => rfl
  | a :: as, r => by
      rw [List.cons_append, calls, calls, calls_append A bs as (r.step a), List.append_assoc]
      rfl

end Run

/-! ## Answers and memberships -/

/-- What is told about a write with this verdict. -/
def Verdict.published? : Verdict → Option Snapshot
  | .publish x _ => some x
  | .refuse _ | .refresh _ => none

/-- The answer to a verdict, and what is told of it, through a veil. -/
theorem Verdict.answer_veiled (v : Veil) (w : Verdict) :
    w.answer.map (·.veiled v) = (w.veiled v).answer ∧
      w.published?.map (·.veiled v) = (w.veiled v).published? := by
  cases w <;> exact ⟨rfl, rfl⟩

/-- The answer that a caller gets. -/
def Event.answer? : Event → Option (Except StoreError Snapshot)
  | .written _ _ v => some v.answer
  | .begun x _ => some (.ok x)
  | _ => none

/-- The answers to writes and cold starts, in their order. -/
def Log.answers : Log → List (Except StoreError Snapshot)
  | [] => []
  | e :: past => answers past ++ e.answer?.toList

/-- What a subscriber would be sent if it never gave its mailbox up: what was
waiting in the mailbox when it was registered, and what was published from
then on until it was removed at somebody's wish. -/
structure Membership where
  waiting : List Snapshot
  admitted : Bool
  active : Bool
  addressed : List Snapshot

namespace Membership

/-- Before the registration. -/
def none : Membership := ⟨[], false, false, []⟩

/-- A registration. -/
def join (waiting : List Snapshot) : Membership := ⟨waiting, true, true, []⟩

/-- A removal. -/
def leave (m : Membership) : Membership := { m with active := false }

/-- A publication, if there is one. -/
def hear (m : Membership) (published : Option Snapshot) : Membership :=
  { m with addressed := m.addressed ++ if m.active then published.toList else [] }

@[simp] theorem hear_none (m : Membership) : m.hear Option.none = m := by
  simp [hear]

/-- A membership as it is seen through a veil. -/
def veiled (v : Veil) (m : Membership) : Membership :=
  { m with waiting := m.waiting.map (·.veiled v), addressed := m.addressed.map (·.veiled v) }

theorem veiled_hear (v : Veil) (m : Membership) (published : Option Snapshot) :
    (m.hear published).veiled v = (m.veiled v).hear (published.map (·.veiled v)) := by
  cases published <;> cases active : m.active <;> simp [hear, veiled, active]

end Membership

/-- What a subscriber would be sent. -/
def Log.membership (id : SubscriberId) : Log → Membership
  | [] => .none
  | .subscribed i waiting :: past => if i = id then .join waiting else membership id past
  | .unsubscribed i _ :: past => if i = id then (membership id past).leave else membership id past
  | e :: past => (membership id past).hear e.published?

/-! ## The outline of a run -/

/-- What calls settle. -/
structure Outline where
  store : Store
  answers : List (Except StoreError Snapshot)
  capacity : SubscriberId → Nat
  membership : SubscriberId → Membership

namespace Outline

/-- The outline after a writer's turn. -/
def turn (o : Outline) (store : Store) (answer : Except StoreError Snapshot)
    (published : Option Snapshot) : Outline :=
  { o with
    store
    answers := o.answers ++ [answer]
    membership := fun id => (o.membership id).hear published }

/-- The outline after a call. -/
def step (o : Outline) : Call → Outline
  | .write policy candidate =>
      let v := judge o.store.current policy candidate
      o.turn (o.store.commit .blank policy candidate).2 v.answer v.published?
  | .begin id =>
      let (f, store) := o.store.coldStart ⟨id, .blank⟩
      o.turn store (.ok f.snapshot) (if o.store.current.isNone then some f.snapshot else none)
  | .subscribe capacity =>
      let id : SubscriberId := ⟨o.store.nextSubscriber⟩
      let store := { o.store with nextSubscriber := o.store.nextSubscriber + 1 }
      if capacity = 0 then o
      else if Mailbox.largest < capacity.toNat then { o with store }
      else
        { o with
          store
          capacity := fun other => if other = id then capacity.toNat else o.capacity other
          membership := fun other =>
            if id = other then .join o.store.current.toList else o.membership other }
  | .unsubscribe id =>
      { o with
        membership := fun other =>
          if id = other then (o.membership other).leave else o.membership other }

end Outline

/-- An offer leaves the capacity as it is. -/
theorem Mailbox.offer_capacity (m : Mailbox) (x : Snapshot) :
    (m.offer x).2.capacity = m.capacity := by
  unfold offer
  split
  · rfl
  · split <;> rfl

namespace Store

/-- Receivers, and what is put into mailboxes, leave their capacity as it is. -/
theorem putBox_capacity (s : Store) (id : SubscriberId) {m : Mailbox}
    (same : m.capacity = (s.box id).capacity) (other : SubscriberId) :
    ((s.putBox id m).box other).capacity = (s.box other).capacity := by
  rw [putBox_box]
  split
  · next h => rw [h, same]
  · rfl

/-- A store without its subscribers, their numbers and its clocks, as it is
seen through a veil. -/
def bare (v : Veil) (s : Store) : Store :=
  { s with
    instanceId := v.name s.instanceId
    started := .blank
    current := s.current.map (·.veiled v)
    subscribers := []
    mailboxes := .empty
    counters := { s.counters with totalGets := 0, delivered := 0, missed := 0, pruned := 0 }
    lastUpdate := s.lastUpdate.map fun _ => .blank }

/-- What is waiting for a new subscriber. -/
theorem bare_waiting (v : Veil) (s : Store) :
    (s.bare v).current.toList = s.current.toList.map (·.veiled v) := by
  cases s with
  | mk _ _ _ current => cases current <;> rfl

/-- What a write leaves of a store, its subscribers apart. -/
theorem bare_commit (v : Veil) (s : Store) (now : Stamp) (policy : VersionPolicy) (x : Snapshot) :
    (s.commit now policy x).2.bare v = ((s.bare v).commit .blank policy (x.veiled v)).2 := by
  have judged := judge_veiled v s.current policy x
  change judge (s.bare v).current policy (x.veiled v) = _ at judged
  simp only [commit, judged]
  rcases judge s.current policy x with (_ | _ | _ | _ | _) | y | ⟨y, _ | _⟩ <;> rfl

/-- What a cold start leaves of a store and answers. -/
theorem bare_coldStart (v : Veil) (s : Store) (mark : Mark) :
    let cold := (s.bare v).coldStart
      ⟨v.name (if s.current.isNone then mark.id else ""), .blank⟩
    (s.coldStart mark).2.bare v = cold.2 ∧
      (s.coldStart mark).1.snapshot.veiled v = cold.1.snapshot := by
  have current : (s.bare v).current = s.current.map (·.veiled v) := rfl
  simp only [coldStart, current]
  cases filled : s.current with
  | none => exact ⟨rfl, rfl⟩
  | some c => exact ⟨rfl, rfl⟩

end Store

namespace Run

/-- What the calls of a run settle, as it is seen through a veil and but for
the capacity that `A` asks for. -/
def outline (A : SubscriberId) (v : Veil) (r : Run) : Outline where
  store := r.store.bare v
  answers := (Log.answers r.log).map (Except.map (·.veiled v))
  capacity id := if id = A then min 1 (r.store.box id).capacity else (r.store.box id).capacity
  membership id := (Log.membership id r.log).veiled v

variable {A : SubscriberId} {v : Veil} {r : Run}

/-- A step that tells nobody anything new and changes no more than what is in
mailboxes does not show in outline. -/
theorem outline_quiet {r' : Run} (store : r'.store.bare v = r.store.bare v)
    (answers : Log.answers r'.log = Log.answers r.log)
    (capacity : ∀ id, (r'.store.box id).capacity = (r.store.box id).capacity)
    (membership : ∀ id, Log.membership id r'.log = Log.membership id r.log) :
    r'.outline A v = r.outline A v := by
  simp only [outline, store, answers, capacity, membership]

/-- A write in its turn. -/
theorem outline_write (free : r.flight = none) (now : Stamp) (policy : VersionPolicy)
    (x : Snapshot) :
    (r.step (.write now policy x)).outline A v =
      (r.outline A v).step (.write policy (x.veiled v)) := by
  have judged := judge_veiled v r.store.current policy x
  change judge (r.store.bare v).current policy (x.veiled v) = _ at judged
  obtain ⟨answer, published⟩ := Verdict.answer_veiled v (judge r.store.current policy x)
  have event : (Event.written policy x (judge r.store.current policy x)).published? =
      (judge r.store.current policy x).published? := by
    cases judge r.store.current policy x <;> rfl
  simp only [step, free, outline, Outline.step, Outline.turn, Outline.mk.injEq, judged]
  refine ⟨Store.bare_commit v r.store now policy x, ?_, ?_, ?_⟩
  · simp [Log.answers, Event.answer?, answer]
  · simp only [Store.commit_box]
  · funext id
    simp only [Log.membership, Membership.veiled_hear, event, published]

/-- A cold start in its turn. -/
theorem outline_begin (free : r.flight = none) (mark : Mark) :
    (r.step (.begin mark)).outline A v =
      (r.outline A v).step (.begin (v.name (if r.store.current.isNone then mark.id else ""))) := by
  obtain ⟨store, snapshot⟩ := Store.bare_coldStart v r.store mark
  have empty : (r.store.bare v).current.isNone = r.store.current.isNone := by
    simp [Store.bare]
  simp only [step, free, outline, Outline.step, Outline.turn, Outline.mk.injEq, empty, ← snapshot]
  refine ⟨store, ?_, ?_, ?_⟩
  · simp [Log.answers, Event.answer?, Except.map]
  · simp only [Store.coldStart_box]
  · funext id
    simp only [Log.membership, Membership.veiled_hear]
    cases r.store.current.isNone <;> rfl

/-- A registration that is let in. -/
theorem outline_admitted (label : String) {capacity : UInt64} (makeable : Mailbox.Makeable capacity)
    (space : ¬r.store.config.maxSubscribers.toNat ≤ r.store.subscribers.length) :
    (r.step (.subscribe label capacity)).outline A v =
      (r.outline A v).step (.subscribe (r.store.asked A capacity)) := by
  have fits : r.store.asked A capacity ≠ 0 ∧
      ¬Mailbox.largest < (r.store.asked A capacity).toNat := by
    unfold Store.asked
    split
    · decide
    · exact ⟨makeable.1, Nat.not_lt.2 makeable.2⟩
  simp only [Outline.step, fits.1, fits.2, if_false]
  simp only [step, Store.subscribe, makeable.1, space, Nat.not_lt.2 makeable.2, if_false]
  simp only [outline, Outline.mk.injEq]
  refine ⟨rfl, congrArg _ (List.append_nil _), ?_, ?_⟩
  · funext id
    have next : (r.store.bare v).nextSubscriber = r.store.nextSubscriber := rfl
    simp only [Store.box, Mailboxes.box_put, next, Store.asked_toNat makeable]
    by_cases new : id = ⟨r.store.nextSubscriber⟩
    · have one : min 1 capacity.toNat = 1 := Nat.min_eq_left makeable.pos
      simp only [new, if_true, Mailbox.empty, one]
    · simp only [new, if_false]
  · funext id
    simp only [Log.membership, Store.box, Mailboxes.box_put_self]
    rw [apply_ite (Membership.veiled v), Store.bare_waiting]
    rfl

/-- A registration that the limit does not stop. -/
theorem outline_subscribe (label : String) (capacity : UInt64)
    (room : ∀ limit, (r.store.subscribe label capacity).1 ≠ .error (.subscriberLimit limit)) :
    (r.step (.subscribe label capacity)).outline A v =
      (r.outline A v).step (.subscribe (r.store.asked A capacity)) := by
  by_cases zero : capacity = 0
  · have asked : r.store.asked A capacity = 0 := by simp [Store.asked, Mailbox.Makeable, zero]
    simp only [asked, Outline.step, if_true]
    simp only [step, Store.subscribe, zero, if_true]
    exact outline_quiet rfl (List.append_nil _) (fun _ => rfl) (fun _ => Membership.hear_none _)
  by_cases full : r.store.config.maxSubscribers.toNat ≤ r.store.subscribers.length
  · exact absurd (by simp [Store.subscribe, zero, full]) (room r.store.config.maxSubscribers)
  by_cases huge : Mailbox.largest < capacity.toNat
  · have asked : r.store.asked A capacity = capacity := by
      simp [Store.asked, Mailbox.Makeable, Nat.not_le.2 huge]
    simp only [asked, Outline.step, zero, huge, if_true, if_false]
    simp only [step, Store.subscribe, zero, full, huge, if_true, if_false]
    simp only [outline, Outline.mk.injEq]
    exact ⟨rfl, congrArg _ (List.append_nil _), rfl,
      funext fun _ => congrArg _ (Membership.hear_none _)⟩
  · exact outline_admitted label ⟨zero, Nat.not_lt.1 huge⟩ full

/-- A removal. -/
theorem outline_unsubscribe (id : SubscriberId) :
    (r.step (.unsubscribe id)).outline A v = (r.outline A v).step (.unsubscribe id) := by
  simp only [step, outline, Outline.step, Outline.mk.injEq]
  refine ⟨rfl, by simp [Log.answers, Event.answer?], rfl, ?_⟩
  funext other
  by_cases same : id = other
  · simp [Log.membership, same, Membership.leave, Membership.veiled]
  · simp [Log.membership, same]

/-- A step is one call in outline, or none. -/
theorem outline_step (a : Act)
    (room : ∀ limit, .turnedAway (.subscriberLimit limit) ∉ (r.step a).log) :
    (r.step a).outline A v =
      ((r.call? A a).toList.map (·.veiled v)).foldl Outline.step (r.outline A v) := by
  cases a with
  | write now policy x =>
    cases flight : r.flight with
    | none =>
      simp only [call?, flight]
      exact outline_write flight now policy x
    | some f => simp [call?, flight, step]
  | begin mark =>
    cases flight : r.flight with
    | none =>
      simp only [call?, flight]
      exact outline_begin flight mark
    | some f => simp [call?, flight, step]
  | subscribe label capacity =>
    refine outline_subscribe label capacity fun limit refused => room limit ?_
    rcases step_subscribe r label capacity with ⟨id, ok, -⟩ | ⟨why, error, moment⟩
    · rw [refused] at ok
      cases ok
    · rw [refused] at error
      cases error
      rw [moment]
      exact List.mem_cons_self
  | unsubscribe id => exact outline_unsubscribe id
  | read =>
    exact outline_quiet rfl (List.append_nil _) (fun _ => rfl) (fun _ => Membership.hear_none _)
  | tell =>
    simp only [step]
    split
    · rfl
    · split
      · rfl
      · exact outline_quiet rfl (List.append_nil _)
          (Store.putBox_capacity r.store _ (Mailbox.offer_capacity _ _))
          (fun _ => Membership.hear_none _)
  | settle =>
    simp only [step]
    split
    · rfl
    · split
      · exact outline_quiet rfl (List.append_nil _) (fun _ => rfl)
          (fun _ => Membership.hear_none _)
      · rfl
  | receive id =>
    have same : (r.store.box id).receive.2.capacity = (r.store.box id).capacity := by
      rw [Mailbox.receive_eq]
    exact outline_quiet rfl (List.append_nil _) (Store.putBox_capacity r.store id same)
      (fun _ => Membership.hear_none _)
  | drain id =>
    exact outline_quiet rfl (List.append_nil _) (Store.putBox_capacity r.store id rfl)
      (fun _ => Membership.hear_none _)
  | detach id =>
    exact outline_quiet rfl (List.append_nil _) (Store.putBox_capacity r.store id rfl)
      (fun _ => Membership.hear_none _)

/-- The outline of a run is settled by its calls, in their order. -/
theorem outline_after : ∀ (acts : List Act) (r : Run),
    (∀ limit, .turnedAway (.subscriberLimit limit) ∉ (r.after acts).log) →
      (r.after acts).outline A v =
        ((r.calls A acts).map (·.veiled v)).foldl Outline.step (r.outline A v)
  | [], _, _ => rfl
  | a :: rest, r, room => by
      have first : ∀ limit, .turnedAway (.subscriberLimit limit) ∉ (r.step a).log := by
        intro limit turned
        obtain ⟨later, log⟩ := after_log rest (r.step a)
        refine room limit ?_
        show _ ∈ ((r.step a).after rest).log
        rw [log]
        exact List.mem_append_right _ turned
      rw [calls, List.map_append, List.foldl_append, ← outline_step a first]
      exact outline_after rest (r.step a) room

end Run

end AgentState
