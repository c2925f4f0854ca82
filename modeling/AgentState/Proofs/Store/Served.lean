/-
AgentState.Proofs.Store.Served — how much a subscriber is sent of what it
could be sent.

A member is sent all that is published, until an offer finds its mailbox
closed.  That offer is the last one, and it costs the subscriber its place at
the next accounting.

* `Run.Served` — the invariant, for one subscriber.
* `Served.publish`, `Served.told_self`, `Served.settled`, … — one lemma for
  each kind of step that the subscriber can notice; `Served.quiet` is for all
  others.
* `Run.served_after` — it holds along every run of a new store.
-/
import AgentState.Proofs.Store.Tray

namespace AgentState

namespace Run

/-- What is due to a subscriber is what a member would be sent, or the
beginning of it up to the offer that found the mailbox closed. -/
structure Served (r : Run) (id : SubscriberId) : Prop where
  waiting : (Log.membership id r.log).waiting = (Log.caughtUp id r.log).toList
  standing : (Log.registered id r.log = true ∧ id ∉ r.unsettled .closed) ↔
    ((Log.membership id r.log).active = true ∧ .closed ∉ Log.receipts id r.log)
  whole : .closed ∉ Log.receipts id r.log →
    Log.due id r.log = (Log.membership id r.log).addressed
  cut : Log.due id r.log <+: (Log.membership id r.log).addressed
  onWay : r.pending id ≠ [] → .closed ∉ Log.receipts id r.log
  last : .closed ∉ (Log.receipts id r.log).dropLast

namespace Served

variable {r r' : Run} {id : SubscriberId}

theorem start (config : StoreConfig) (instanceId : String) (started : Stamp) :
    Served (Run.start config instanceId started) id where
  waiting := rfl
  standing := by simp [Run.start, Log.registered, Log.membership, Membership.none]
  whole := fun _ => rfl
  cut := List.prefix_rfl
  onWay := fun way => absurd rfl way
  last := by rintro ⟨⟩

/-- A step that the subscriber does not notice. -/
theorem quiet (h : Served r id) {e : Event} (log : r'.log = e :: r.log)
    (offers : Log.offers id (e :: r.log) = Log.offers id r.log)
    (due : Log.due id (e :: r.log) = Log.due id r.log)
    (caughtUp : Log.caughtUp id (e :: r.log) = Log.caughtUp id r.log)
    (registered : Log.registered id (e :: r.log) = Log.registered id r.log)
    (membership : Log.membership id (e :: r.log) = Log.membership id r.log)
    (unsettled : id ∈ r'.unsettled .closed ↔ id ∈ r.unsettled .closed)
    (pending : r'.pending id = r.pending id) : Served r' id := by
  have receipts : Log.receipts id r'.log = Log.receipts id r.log := by
    rw [log, Log.receipts, offers, Log.receipts]
  rw [← log] at due caughtUp registered membership
  constructor
  · rw [membership, caughtUp]
    exact h.waiting
  · rw [registered, membership, receipts, unsettled]
    exact h.standing
  · rw [receipts, due, membership]
    exact h.whole
  · rw [due, membership]
    exact h.cut
  · rw [pending, receipts]
    exact h.onWay
  · rw [receipts]
    exact h.last

/-- A publication. -/
theorem publish (h : Served r id) {e : Event} {x : Snapshot} (free : r.flight = none)
    (registry : Registry r) (log : r'.log = e :: r.log) (published : e.published? = some x)
    (offers : Log.offers id (e :: r.log) = Log.offers id r.log)
    (caughtUp : Log.caughtUp id (e :: r.log) = Log.caughtUp id r.log)
    (registered : Log.registered id (e :: r.log) = Log.registered id r.log)
    (membership : Log.membership id (e :: r.log) = (Log.membership id r.log).hear (some x))
    (flight : r'.flight = some (r.store.announce x)) : Served r' id := by
  have receipts : Log.receipts id r'.log = Log.receipts id r.log := by
    rw [log, Log.receipts, offers, Log.receipts]
  have uncounted : ∀ s : Run, s.flight = none ∨ s.flight = some (r.store.announce x) →
      id ∉ s.unsettled .closed := by
    rintro s (idle | begun)
    · simp [unsettled, idle]
    · simp [unsettled, begun, FanOut.having, Store.announce]
  -- no receipt is still to be counted, so whoever is registered is a member
  -- whose mailbox was never found closed
  have standing : Log.registered id r.log = true ↔
      (Log.membership id r.log).active = true ∧ .closed ∉ Log.receipts id r.log := by
    rw [← h.standing]
    exact (and_iff_left (uncounted r (.inl free))).symm
  have due : Log.due id r'.log =
      Log.due id r.log ++ if Log.registered id r.log = true then [x] else [] := by
    rw [log, Log.due, published]
  rw [← log] at caughtUp registered membership
  have whole : .closed ∉ Log.receipts id r.log →
      Log.due id r'.log = (Log.membership id r'.log).addressed := by
    intro open_
    rw [due, membership, h.whole open_]
    simp only [standing, Membership.hear, open_, not_false_eq_true, and_true, Option.toList_some]
  constructor
  · rw [membership, caughtUp]
    exact h.waiting
  · rw [registered, membership, receipts, standing]
    exact and_iff_left (uncounted r' (.inr flight))
  · rw [receipts]
    exact whole
  · by_cases closed : .closed ∈ Log.receipts id r.log
    · have gone : ¬Log.registered id r.log = true := fun now => (standing.1 now).2 closed
      rw [due, membership, if_neg gone, List.append_nil]
      exact h.cut.trans (List.prefix_append _ _)
    · exact ⟨[], by rw [List.append_nil, whole closed]⟩
  · intro way
    rw [receipts]
    have member : id ∈ r.store.roster := by
      by_contra away
      refine way ?_
      have targets : (r.store.announce x).pending = r.store.roster :=
        FanOut.pending_of_receipts_nil rfl
      simp [pending, flight, targets, away]
    exact (standing.1 ((registry.roster id).1 member)).2
  · rw [receipts]
    exact h.last

/-- An offer to the subscriber. -/
theorem told_self (h : Served r id) {f : FanOut} {rest : List SubscriberId} (registry : Registry r)
    (flight : r.flight = some f) (next : f.pending = id :: rest) (store : Store)
    (receipt : Receipt) :
    Served ⟨store, some (f.note id receipt), .told id f.snapshot receipt :: r.log⟩ id := by
  have way : r.pending id ≠ [] := by simp [pending, flight, next]
  have open_ := h.onWay way
  have receipts : Log.receipts id (.told id f.snapshot receipt :: r.log) =
      Log.receipts id r.log ++ [receipt] := by simp [Log.receipts, Log.offers]
  have away : id ∉ rest := by
    have distinct := registry.distinct f flight
    rw [next] at distinct
    exact (List.nodup_cons.1 distinct).1
  have standing := h.standing
  simp only [unsettled, flight] at standing
  have membership : Log.membership id (.told id f.snapshot receipt :: r.log) =
      Log.membership id r.log := Membership.hear_none _
  constructor
  · rw [membership]
    exact h.waiting
  · show (Log.registered id r.log = true ∧ id ∉ (f.note id receipt).having .closed) ↔ _
    rw [membership, receipts, FanOut.having_note]
    cases receipt with
    | taken | full => simpa using standing
    | closed => simp
  · intro still
    rw [membership]
    exact h.whole open_
  · rw [membership]
    exact h.cut
  · intro later
    refine absurd ?_ later
    simp [pending, FanOut.pending_note next, away]
  · rw [receipts, List.dropLast_concat]
    exact open_

/-- The accounting removes those whose mailbox was found closed. -/
theorem settled (h : Served r id) {f : FanOut} (flight : r.flight = some f) :
    Served ⟨r.store.settle f, none, .settled f :: r.log⟩ id := by
  have standing := h.standing
  simp only [unsettled, flight] at standing
  have membership : Log.membership id (.settled f :: r.log) = Log.membership id r.log :=
    Membership.hear_none _
  constructor
  · rw [membership]
    exact h.waiting
  · rw [membership]
    refine Iff.trans ?_ standing
    simp [Log.registered, unsettled, and_comm]
  · rw [membership]
    exact h.whole
  · rw [membership]
    exact h.cut
  · exact fun way => absurd rfl way
  · exact h.last

/-- The registration of the subscriber. -/
theorem subscribed_self (feed : Feed r id) (ordered : Ordered r)
    (inLine : InLine r) {label : String} {capacity : UInt64}
    (ok : (r.store.subscribe label capacity).1 = .ok id) :
    Served ⟨(r.store.subscribe label capacity).2, r.flight,
      .subscribed id r.store.current.toList :: r.log⟩ id := by
  obtain ⟨number, -, -, -, -⟩ := Store.subscribe_ok ok
  have old := feed.unheard (Nat.le_of_eq (by rw [number]))
  have uncounted : id ∉ r.unsettled .closed :=
    fun mem => Store.ne_of_subscribe_ok ok (inLine.unsettled_known mem) rfl
  have receipts : Log.receipts id (.subscribed id r.store.current.toList :: r.log) = [] := by
    show (Log.offers id r.log).map Prod.snd = []
    rw [old.offers]
    rfl
  have due : Log.due id (.subscribed id r.store.current.toList :: r.log) = [] := old.due
  have membership : Log.membership id (.subscribed id r.store.current.toList :: r.log) =
      .join r.store.current.toList := by simp [Log.membership]
  constructor
  · rw [membership]
    simp [Log.caughtUp, ordered.latest, Membership.join]
  · rw [membership, receipts]
    have uncounted' : id ∉ unsettled ⟨(r.store.subscribe label capacity).2, r.flight,
        .subscribed id r.store.current.toList :: r.log⟩ .closed := uncounted
    simp [Log.registered, uncounted', Membership.join]
  · rw [due, membership]
    exact fun _ => rfl
  · rw [due]
    exact List.nil_prefix
  · rw [receipts]
    exact fun _ => by rintro ⟨⟩
  · rw [receipts]
    rintro ⟨⟩

/-- The removal of the subscriber at somebody's wish. -/
theorem unsubscribed_self (h : Served r id) (found : Bool) :
    Served ⟨(r.store.unsubscribe id).2, r.flight, .unsubscribed id found :: r.log⟩ id := by
  have membership : Log.membership id (.unsubscribed id found :: r.log) =
      (Log.membership id r.log).leave := by simp [Log.membership]
  refine ⟨?_, ?_, ?_, ?_, h.onWay, h.last⟩ <;> rw [membership]
  · exact h.waiting
  · simp [Log.registered, Membership.leave]
  · exact h.whole
  · exact h.cut

theorem move (move : Move r r') (ordered : Ordered r) (registry : Registry r) (feed : Feed r id)
    (inLine : InLine r) (h : Served r id) : Served r' id := by
  have idle : ∀ e : Event, e.published? = none → Log.membership id (e :: r.log) =
      (Log.membership id r.log).hear e.published? →
        Log.membership id (e :: r.log) = Log.membership id r.log := by
    intro e none membership
    rw [membership, none, Membership.hear_none]
  cases move with
  | refused policy candidate why free =>
    refine h.quiet rfl rfl rfl rfl rfl (idle _ rfl rfl) ?_
      (pending_of_free free id).symm
    rw [unsettled_of_free free, unsettled_of_free rfl]
  | refreshed now policy candidate x free =>
    refine h.quiet rfl rfl rfl rfl rfl (idle _ rfl rfl) ?_ ?_
    · rw [unsettled_begun free rfl rfl]
    · rw [pending_of_free free]
      exact pending_of_done rfl rfl id
  | published now policy candidate x repaired free =>
    exact h.publish free registry rfl rfl rfl rfl rfl rfl rfl
  | coldStarted mark free => exact h.publish free registry rfl rfl rfl rfl rfl rfl rfl
  | begunBefore c free =>
    refine h.quiet rfl rfl rfl rfl rfl (idle _ rfl rfl) ?_ ?_
    · rw [unsettled_begun free rfl rfl]
    · rw [pending_of_free free]
      exact pending_of_done rfl rfl id
  | told f other rest flight next =>
    by_cases mine : other = id
    · subst mine
      exact h.told_self registry flight next _ _
    · refine h.quiet rfl (by simp [Log.offers, mine]) rfl rfl rfl (idle _ rfl rfl) ?_ ?_
      · have apart : id ∉ if (r.store.offer other f.snapshot).1 = .closed then [other] else [] := by
          split <;> simp [Ne.symm mine]
        simp [unsettled, flight, FanOut.having_note, apart]
      · simp [Run.pending, flight, next, FanOut.pending_note next, FanOut.note_snapshot,
          Ne.symm mine]
  | settled f flight => exact h.settled flight
  | subscribed label capacity other ok =>
    by_cases mine : other = id
    · subst mine
      exact .subscribed_self feed ordered inLine ok
    · refine h.quiet rfl rfl rfl (by simp [Log.caughtUp, mine]) ?_ ?_ Iff.rfl rfl
      · simp [Log.registered, mine]
      · simp [Log.membership, mine]
  | unsubscribed other =>
    by_cases mine : other = id
    · subst mine
      exact h.unsubscribed_self _
    · refine h.quiet rfl rfl rfl rfl ?_ ?_ Iff.rfl rfl
      · simp [Log.registered, mine]
      · simp [Log.membership, mine]
  | read | turnedAway | took | detached =>
    exact h.quiet rfl rfl rfl rfl rfl (idle _ rfl rfl) Iff.rfl rfl

end Served

theorem served_after (config : StoreConfig) (instanceId : String) (started : Stamp)
    (acts : List Act) (id : SubscriberId) :
    Served ((start config instanceId started).after acts) id := by
  refine (after_of_move (P := fun r => Accounted r ∧ Served r id) ?_ acts
    ⟨accounted_after config instanceId started [], .start _ _ _⟩).2
  intro r r' move before
  obtain ⟨accounted, served⟩ := before
  exact ⟨accounted.move move, served.move move accounted.ordered accounted.registry
    (accounted.feed id) accounted.inLine⟩

end Run

end AgentState
