/-
AgentState.Proofs.Store.Pruning — what becomes of subscribers whose mailbox
was given up.

Such a subscriber stays registered until an offer finds its mailbox closed,
and offers are made of publications alone.

* `Run.dropped` — the subscribers that were given up before a moment.
* `Run.Doomed` — the invariant of a publication: whoever was given up
  before it is still to be told, or was found closed, or is gone.
* `Run.Held` — the invariant of a time without publications: nobody is
  removed.
* `dropped_until_published` — the statement over runs.
-/
import AgentState.Proofs.Store.Accounts

namespace AgentState

namespace Mailbox

/-- Nothing is put into a mailbox that nobody receives from. -/
theorem offer_of_closed {m : Mailbox} (closed : m.attached = false) (x : Snapshot) :
    m.offer x = (.closed, m) := by
  simp [offer, closed]

end Mailbox

/-- Whether a subscriber that was registered at some time is one whose mailbox
was given up. -/
def Run.dropped (r : Run) (id : SubscriberId) : Bool :=
  decide (id.number < r.store.nextSubscriber) && !(r.store.box id).attached

/-- Whether an event publishes nothing and does not end a subscription. -/
def Event.Spares (id : SubscriberId) (e : Event) : Prop :=
  e.published? = none ∧ ∀ found, e ≠ .unsubscribed id found

namespace Run

variable {r r' : Run} {id : SubscriberId}

theorem dropped_iff :
    r.dropped id = true ↔
      id.number < r.store.nextSubscriber ∧ (r.store.box id).attached = false := by
  simp [dropped]

/-- Whoever was given up stays so: numbers are not given again. -/
theorem dropped_move (move : Move r r') (h : r.dropped id = true) : r'.dropped id = true := by
  obtain ⟨known, closed⟩ := dropped_iff.1 h
  rw [dropped_iff]
  cases move with
  | refused | refreshed | published =>
    exact ⟨by simpa using known, by simpa using closed⟩
  | coldStarted | begunBefore | settled | read | unsubscribed =>
    exact ⟨known, closed⟩
  | told f other =>
    refine ⟨known, ?_⟩
    rw [Store.offer_box]
    split
    · next same =>
      subst same
      rw [Mailbox.offer_of_closed closed]
      exact closed
    · exact closed
  | subscribed label capacity other ok =>
    obtain ⟨-, -, -, next, boxes⟩ := Store.subscribe_ok ok
    have apart : id ≠ other := Store.ne_of_subscribe_ok ok known
    exact ⟨next ▸ Nat.lt_succ_of_lt known, by rw [boxes, if_neg apart]; exact closed⟩
  | turnedAway label capacity why error =>
    obtain ⟨-, -, next, boxes⟩ := Store.subscribe_error error
    exact ⟨Nat.lt_of_lt_of_le known next, by rw [boxes]; exact closed⟩
  | took other xs left =>
    refine ⟨known, ?_⟩
    rw [Store.putBox_box]
    split
    · next same => subst same; exact closed
    · exact closed
  | detached other =>
    refine ⟨known, ?_⟩
    show ((r.store.putBox other _).box id).attached = false
    rw [Store.putBox_box]
    split
    · rfl
    · exact closed

/-! ## While a publication is told -/

/-- A subscriber that was given up before the last publication: if it is
still registered, the fan-out is under way, and has still to tell it or found
it closed. -/
structure Doomed (id : SubscriberId) (r : Run) : Prop where
  dropped : r.dropped id = true
  awaited : id ∈ r.store.roster →
    ∃ f, r.flight = some f ∧ (id ∈ f.pending ∨ id ∈ f.having .closed)

namespace Doomed

/-- A publication dooms whoever was given up before. -/
theorem publish {x : Snapshot} (dropped : r'.dropped id = true)
    (roster : r'.store.roster = r.store.roster) (flight : r'.flight = some (r.store.announce x)) :
    Doomed id r' where
  dropped := dropped
  awaited := by
    intro member
    refine ⟨_, flight, .inl ?_⟩
    rw [FanOut.pending_of_receipts_nil rfl, Store.announce_targets, ← roster]
    exact member

/-- With the gate free a doomed subscriber is gone. -/
theorem gone (h : Doomed id r) (free : r.flight = none) : id ∉ r.store.roster := by
  intro member
  obtain ⟨f, flight, -⟩ := h.awaited member
  rw [free] at flight
  cases flight

/-- A step that registers nobody new and leaves the fan-out alone. -/
theorem quiet (h : Doomed id r) (dropped : r'.dropped id = true)
    (roster : id ∈ r'.store.roster → id ∈ r.store.roster) (flight : r'.flight = r.flight) :
    Doomed id r' where
  dropped := dropped
  awaited := by
    intro member
    rw [flight]
    exact h.awaited (roster member)

/-- A writer's turn with the gate free. -/
theorem turn (h : Doomed id r) (free : r.flight = none) (dropped : r'.dropped id = true)
    (roster : r'.store.roster = r.store.roster) : Doomed id r' where
  dropped := dropped
  awaited := by
    intro member
    rw [roster] at member
    exact absurd member (h.gone free)

/-- An offer to a doomed subscriber finds its mailbox closed. -/
theorem told (h : Doomed id r) {f : FanOut} {other : SubscriberId} {rest : List SubscriberId}
    (flight : r.flight = some f) (next : f.pending = other :: rest)
    (dropped : r'.dropped id = true) (roster : r'.store.roster = r.store.roster)
    (flight' : r'.flight = some (f.note other (r.store.offer other f.snapshot).1)) :
    Doomed id r' where
  dropped := dropped
  awaited := by
    intro member
    rw [roster] at member
    refine ⟨_, flight', ?_⟩
    rw [FanOut.pending_note next, FanOut.having_note]
    obtain ⟨g, under, told⟩ := h.awaited member
    rw [flight] at under
    cases under
    rcases told with pending | closed
    · rw [next] at pending
      rcases List.mem_cons.1 pending with rfl | pending
      · right
        have receipt : (r.store.offer id f.snapshot).1 = .closed := by
          rw [Store.offer_receipt, Mailbox.offer_of_closed (dropped_iff.1 h.dropped).2]
        rw [receipt, if_pos rfl]
        exact List.mem_append_right _ (List.mem_singleton_self id)
      · exact .inl pending
    · exact .inr (List.mem_append_left _ closed)

/-- The accounting removes a doomed subscriber. -/
theorem settled (h : Doomed id r) {f : FanOut} (flight : r.flight = some f)
    (done : f.pending = []) (dropped : r'.dropped id = true)
    (store : r'.store = r.store.settle f) : Doomed id r' where
  dropped := dropped
  awaited := by
    intro member
    rw [store, Store.settle_roster] at member
    obtain ⟨there, spared⟩ := List.mem_filter.1 member
    obtain ⟨g, under, told⟩ := h.awaited there
    rw [flight] at under
    cases under
    rcases told with pending | closed
    · rw [done] at pending
      cases pending
    · exact absurd closed (of_decide_eq_true spared)

theorem move (move : Move r r') (h : Doomed id r) : Doomed id r' := by
  have dropped := dropped_move move h.dropped
  cases move with
  | refused policy candidate why free => exact h.turn free dropped (by simp)
  | refreshed now policy candidate x free => exact h.turn free dropped (by simp)
  | published now policy candidate x repaired free => exact h.turn free dropped (by simp)
  | coldStarted mark free => exact h.turn free dropped rfl
  | begunBefore c free => exact h.turn free dropped rfl
  | told f other rest flight next => exact h.told flight next dropped rfl rfl
  | settled f flight done => exact h.settled flight done dropped rfl
  | subscribed label capacity other ok =>
    obtain ⟨number, -, roster, -, -⟩ := Store.subscribe_ok ok
    refine h.quiet dropped (fun member => ?_) rfl
    rw [roster] at member
    rcases List.mem_append.1 member with there | new
    · exact there
    · have known := (dropped_iff.1 h.dropped).1
      rw [List.mem_singleton.1 new, number] at known
      exact absurd known (Nat.lt_irrefl _)
  | turnedAway label capacity why error =>
    obtain ⟨-, roster, -, -⟩ := Store.subscribe_error error
    exact h.quiet dropped (fun member => roster ▸ member) rfl
  | unsubscribed other =>
    refine h.quiet dropped (fun member => ?_) rfl
    rw [Store.unsubscribe_roster] at member
    exact (List.mem_filter.1 member).1
  | read | took | detached => exact h.quiet dropped (fun member => member) rfl

end Doomed

/-! ## While nothing is published -/

/-- A registered subscriber at a moment at which nobody has to be told
anything. -/
structure Held (id : SubscriberId) (r : Run) : Prop where
  registered : id ∈ r.store.roster
  idle : ∀ f, r.flight = some f → f.pending = [] ∧ f.having .closed = []

theorem Held.move {e : Event} (move : Move r r') (log : r'.log = e :: r.log)
    (spares : Event.Spares id e) (h : Held id r) : Held id r' := by
  have calm : ∀ x : Snapshot, ∀ f, some (⟨x, [], []⟩ : FanOut) = some f →
      f.pending = [] ∧ f.having .closed = [] := by
    rintro x f ⟨⟩
    exact ⟨rfl, rfl⟩
  cases move with
  | refused => exact ⟨by simpa using h.registered, by rintro f ⟨⟩⟩
  | refreshed now policy candidate x => exact ⟨by simpa using h.registered, calm x⟩
  | published | coldStarted =>
    cases log
    cases spares.1
  | begunBefore c => exact ⟨h.registered, calm c⟩
  | told f other rest flight next =>
    have none := (h.idle f flight).1
    rw [next] at none
    cases none
  | settled f flight done =>
    refine ⟨?_, by rintro g ⟨⟩⟩
    rw [Store.settle_roster, (h.idle f flight).2]
    simpa using h.registered
  | read | took | detached => exact ⟨h.registered, h.idle⟩
  | subscribed label capacity other ok =>
    obtain ⟨-, -, roster, -, -⟩ := Store.subscribe_ok ok
    exact ⟨by rw [roster]; exact List.mem_append_left _ h.registered, h.idle⟩
  | turnedAway label capacity why error =>
    obtain ⟨-, roster, -, -⟩ := Store.subscribe_error error
    exact ⟨by rw [roster]; exact h.registered, h.idle⟩
  | unsubscribed other =>
    cases log
    refine ⟨?_, h.idle⟩
    have apart : id ≠ other := by
      rintro rfl
      exact spares.2 _ rfl
    rw [Store.unsubscribe_roster]
    exact List.mem_filter.2 ⟨h.registered, decide_eq_true apart⟩

/-- Nobody is removed while nothing is published. -/
theorem Held.after (acts : List Act) : ∀ {r : Run} {later : Log}, Held id r →
    (r.after acts).log = later ++ r.log → (∀ e ∈ later, Event.Spares id e) →
      Held id (r.after acts) := by
  induction acts with
  | nil => exact fun h _ _ => h
  | cons a rest ih =>
    intro r later h log spares
    show Held id ((r.step a).after rest)
    have log' : ((r.step a).after rest).log = later ++ r.log := log
    rcases step_move r a with same | move
    · rw [same] at log' ⊢
      exact ih h log' spares
    · obtain ⟨e, one⟩ := move.log
      obtain ⟨more, split⟩ := after_log rest (r.step a)
      have all : more ++ [e] = later := by
        rw [split, one] at log'
        exact List.append_cancel_right (by rw [← log', List.append_assoc]; rfl)
      refine ih (h.move move one (spares e ?_)) split (fun e' mem => spares e' ?_)
      · rw [← all]
        exact List.mem_append_right _ (List.mem_singleton_self e)
      · rw [← all]
        exact List.mem_append_left _ mem

/-- A write that publishes begins to tell everybody who is registered. -/
theorem step_of_publish (free : r.flight = none) {policy : VersionPolicy}
    {candidate x : Snapshot} {repaired : Bool}
    (judged : judge r.store.current policy candidate = .publish x repaired) (now : Stamp) :
    (r.step (.write now policy candidate)).flight = some (r.store.announce x) ∧
      (r.step (.write now policy candidate)).store.roster = r.store.roster := by
  simp only [step, free, Store.commit, judged, Except.toOption]
  exact ⟨by simp, by simp⟩

/-- Whoever was given up before a publication is not registered any more when
the gate is free again, nor at any later time. -/
theorem pruned_of_publish (free : r.flight = none) {policy : VersionPolicy}
    {candidate x : Snapshot} {repaired : Bool}
    (judged : judge r.store.current policy candidate = .publish x repaired) (now : Stamp)
    (during : List Act) (idle : ((r.step (.write now policy candidate)).after during).flight = none)
    (dropped : r.dropped id = true) :
    id ∉ ((r.step (.write now policy candidate)).after during).store.roster := by
  obtain ⟨flight, roster⟩ := step_of_publish free judged now
  have begun : Doomed id (r.step (.write now policy candidate)) :=
    .publish (dropped_move (step_write r now policy candidate free) dropped) roster flight
  have ended := after_of_move (fun _ _ => Doomed.move) during begun
  exact ended.gone idle

/-- Without a publication nobody is removed who does not leave. -/
theorem registered_of_unpublished (free : r.flight = none) (member : id ∈ r.store.roster)
    {acts : List Act} {later : Log} (log : (r.after acts).log = later ++ r.log)
    (spares : ∀ e ∈ later, e.Spares id) : id ∈ (r.after acts).store.roster := by
  have held : Held id r := ⟨member, by rw [free]; rintro f ⟨⟩⟩
  exact (Held.after acts held log spares).registered

/-- A registered subscriber whose mailbox is given up is one that was given
up from then on. -/
theorem dropped_of_detach (registry : Registry r) (member : id ∈ r.store.roster)
    (rest : List Act) : (r.after (.detach id :: rest)).dropped id = true := by
  have given : (r.step (.detach id)).dropped id = true := by
    refine dropped_iff.2 ⟨registry.below id member, ?_⟩
    show ((r.store.putBox id _).box id).attached = false
    rw [Store.putBox_box, if_pos rfl]
    rfl
  exact after_of_move (fun _ _ => dropped_move) rest given

end Run

/-- A registration is refused for the limit when so many are registered. -/
theorem Store.subscribe_limit {s : Store} {label : String} {capacity limit : UInt64}
    (refused : (s.subscribe label capacity).1 = .error (.subscriberLimit limit)) :
    limit.toNat ≤ s.roster.length := by
  have ends := s.subscribe_registers label capacity
  generalize s.subscribe label capacity = r at refused ends
  cases ends with
  | full _ full =>
    cases refused
    simpa [roster] using full
  | empty | huge | admitted => cases refused

/-- What a write does to the subscribers whose mailbox was given up before
it, at any moment of a run with the gate free, and whoever acts while it is
told and after it.

If it publishes, none of them is registered when the gate is free again, and
none counts when somebody is turned away because of the limit.  If it
refreshes, nobody is removed: whoever was registered stays so until
something is published or it is unsubscribed. -/
theorem dropped_until_published (config : StoreConfig) (instanceId : String) (started : Stamp)
    (before : List Act) (now : Stamp) (policy : VersionPolicy) (candidate : Snapshot)
    (during : List Act) :
    let r := (Run.start config instanceId started).after before
    let r' := (r.step (.write now policy candidate)).after during
    r.flight = none → r'.flight = none →
      (∀ x repaired, judge r.store.current policy candidate = .publish x repaired →
        (∀ first rest id, before = first ++ .detach id :: rest →
          id ∈ ((Run.start config instanceId started).after first).store.roster →
            id ∉ r'.store.roster) ∧
        ∀ label capacity limit,
          (r'.store.subscribe label capacity).1 = .error (.subscriberLimit limit) →
            limit.toNat ≤ (r'.store.roster.filter (fun id => !r.dropped id)).length) ∧
      ∀ x, judge r.store.current policy candidate = .refresh x →
        ∀ id ∈ r.store.roster, ∀ later,
          r'.log = later ++ .written policy candidate (.refresh x) :: r.log →
            (∀ e ∈ later, e.Spares id) → id ∈ r'.store.roster := by
  intro r r' free idle
  refine ⟨fun x repaired judged => ⟨?_, ?_⟩, ?_⟩
  · intro first rest id split member
    have dropped : r.dropped id = true := by
      show ((Run.start config instanceId started).after before).dropped id = true
      rw [split, Run.after_append]
      exact Run.dropped_of_detach (Run.registry_after config instanceId started first) member rest
    exact Run.pruned_of_publish free judged now during idle dropped
  · intro label capacity limit refused
    have all : r'.store.roster.filter (fun id => !r.dropped id) = r'.store.roster := by
      refine List.filter_eq_self.2 fun id member => ?_
      cases dropped : r.dropped id with
      | false => rfl
      | true => exact absurd member (Run.pruned_of_publish free judged now during idle dropped)
    rw [all]
    exact Store.subscribe_limit refused
  · intro x judged id member later log spares
    have whole : (r.after (.write now policy candidate :: during)).log =
        (later ++ [.written policy candidate (.refresh x)]) ++ r.log := by
      rw [List.append_assoc]
      exact log
    refine Run.registered_of_unpublished free member whole fun e mem => ?_
    rcases List.mem_append.1 mem with mem | mem
    · exact spares e mem
    · rw [List.mem_singleton.1 mem]
      exact ⟨rfl, fun found h => by cases h⟩

/-- Settings that let one subscriber in at a time. -/
def tightConfig : StoreConfig := { StoreConfig.standard with maxSubscribers := 1 }

/-- A subscriber registers with a store that has begun, and gives its mailbox
up. -/
def leftActs : List Act :=
  [.begin (markOf "a"), .settle, .subscribe "gone" 1, .detach ⟨1⟩]

/-- A publication removes the subscriber, and a refresh keeps it. -/
theorem dropped_until_published_left :
    let r := (Run.start tightConfig "run" ⟨1, .epoch⟩).after leftActs
    let told := (r.step (.write ⟨1, .epoch⟩ .strict movedFact)).after [.tell, .settle]
    let kept := (r.step (.write ⟨1, .epoch⟩ .strict keptFact)).after [.settle]
    (r.flight = none ∧ told.flight = none ∧ kept.flight = none) ∧
      r.store.roster = [⟨1⟩] ∧ ⟨1⟩ ∉ told.store.roster ∧ ⟨1⟩ ∈ kept.store.roster := by
  intro r told kept
  have free : r.flight = none := by decide
  have registered : r.store.roster = [⟨1⟩] := by decide
  obtain ⟨published, -⟩ := dropped_until_published tightConfig "run" ⟨1, .epoch⟩ leftActs
    ⟨1, .epoch⟩ .strict movedFact [.tell, .settle] free (by decide)
  obtain ⟨-, refreshed⟩ := dropped_until_published tightConfig "run" ⟨1, .epoch⟩ leftActs
    ⟨1, .epoch⟩ .strict keptFact [.settle] free (by decide)
  refine ⟨⟨free, by decide, by decide⟩, registered, ?_, ?_⟩
  · exact (published movedFact false (by decide)).1
      [.begin (markOf "a"), .settle, .subscribe "gone" 1] [] ⟨1⟩ rfl (by decide)
  · refine refreshed keptFact (by decide) ⟨1⟩ (by decide) [.settled ⟨keptFact, [], []⟩] rfl ?_
    intro e mem
    rw [List.mem_singleton.1 mem]
    exact ⟨rfl, fun found h => by cases h⟩

/-! ## The exception -/

/-- A write that refreshes leaves a subscriber registered whose mailbox was
given up before it, and nobody else is let in because of that. -/
theorem refresh_keeps_dropped :
    let r := (Run.start tightConfig "run" ⟨1, .epoch⟩).after leftActs
    let r' := (r.step (.write ⟨1, .epoch⟩ .strict keptFact)).after [.settle]
    r.flight = none ∧ r.dropped ⟨1⟩ = true ∧
      (r.store.set ⟨1, .epoch⟩ .strict keptFact).result = .ok keptFact ∧
      r'.flight = none ∧ r'.store.current = some keptFact ∧ r'.store.roster = [⟨1⟩] ∧
      (r'.store.subscribe "next" 1).1 = .error (.subscriberLimit 1) := by
  intro r r'
  have judged : judge r.store.current .strict keptFact = .refresh keptFact := by decide
  exact ⟨by decide, by decide, (Store.set_of_refresh judged ⟨1, .epoch⟩).1, by decide, by decide,
    by decide, by decide⟩

end AgentState
