/-
AgentState.Proofs.Store.Numbering — a number stands for one subscriber.

Numbers come from a counter, subscribers leave in two ways, and the
accounting of a fan-out looks for them by number long after the offers were
made.  That is sound because a number is given once: whoever bears it later
is the one who bore it before.

* `Log.pruned`, `Log.spoilt`, `Log.outcomes` — what happened.
* `Run.Numbered` — the invariant: all numbers given so far increase, and
  whoever was admitted is registered, was removed by an accounting, or left.
* `Run.same_registration` — whoever has a known number later has it now, with
  the same label and capacity.
* `Run.flight_began` — the moment at which the fan-out under way began.
* `Store.accounted_settle` — what an accounting does to each subscriber.
* `numbers_are_given_once` — the statement over runs.
-/
import AgentState.Proofs.Store.Known

namespace AgentState

/-! ## What happened -/

namespace Log

/-- The registered subscribers that an accounting removed, in this order. -/
def pruned : Log → List SubscriberId
  | [] => []
  | .settled f :: past => pruned past ++ (f.having .closed).filter (fun id => registered id past)
  | _ :: past => pruned past

/-- How many registrations ended at a queue that cannot be made. -/
def spoilt : Log → Nat
  | [] => 0
  | .turnedAway .hugeQueue :: past => spoilt past + 1
  | _ :: past => spoilt past

/-- The receipts of all offers, in this order. -/
def outcomes : Log → List (SubscriberId × Receipt)
  | [] => []
  | .told id _ receipt :: past => outcomes past ++ [(id, receipt)]
  | _ :: past => outcomes past

end Log

/-! ## Registrations and removals -/

namespace Store

/-- A refusal changes nothing.  Only one that comes to a queue that cannot be
made uses a number up. -/
theorem subscribe_refused {s : Store} {label : String} {capacity : UInt64} {why : StoreError}
    (h : (s.subscribe label capacity).1 = .error why) :
    (s.subscribe label capacity).2 = if why = .hugeQueue then
      { s with nextSubscriber := s.nextSubscriber + 1 } else s := by
  have ends := s.subscribe_registers label capacity
  generalize s.subscribe label capacity = r at h ends ⊢
  cases ends with
  | empty | full | huge => cases h; rfl
  | admitted => cases h

/-- Nobody is removed whose number is not registered. -/
theorem unsubscribe_unknown {s : Store} {id : SubscriberId} (away : id ∉ s.roster) :
    s.unsubscribe id = (false, s) := by
  have found : s.isRegistered id = false := by simpa [isRegistered_eq] using away
  have kept : s.subscribers.filter (fun e => e.id ≠ id) = s.subscribers := by
    refine List.filter_eq_self.2 fun e he => decide_eq_true ?_
    rintro rfl
    exact away (List.mem_map_of_mem he)
  rw [unsubscribe, found, kept]

/-- The one whose number is registered is removed, and nobody else. -/
theorem unsubscribe_known {s : Store} {id : SubscriberId} (nodup : s.roster.Nodup)
    (known : id ∈ s.roster) :
    ∃ front e back, s.subscribers = front ++ e :: back ∧ e.id = id ∧
      s.unsubscribe id = (true, { s with subscribers := front ++ back }) := by
  obtain ⟨e, he, rfl⟩ := List.mem_map.1 known
  obtain ⟨front, back, split⟩ := List.append_of_mem he
  refine ⟨front, e, back, split, rfl, ?_⟩
  have found : s.isRegistered e.id = true := by simpa [isRegistered_eq] using known
  rw [roster, split, List.map_append, List.map_cons] at nodup
  obtain ⟨away, -⟩ := List.nodup_cons.1 (List.perm_middle.nodup_iff.1 nodup)
  have others : ∀ e' ∈ front ++ back, decide (e'.id ≠ e.id) = true := by
    intro e' he'
    refine decide_eq_true fun same => away ?_
    rw [← List.map_append, ← same]
    exact List.mem_map_of_mem he'
  have kept : s.subscribers.filter (fun e' => e'.id ≠ e.id) = front ++ back := by
    rw [split, List.filter_append, List.filter_cons_of_neg (by simp), ← List.filter_append]
    exact List.filter_eq_self.2 others
  rw [unsubscribe, found, kept]

/-! ## The accounting -/

/-- What an accounting has done to a subscriber with a receipt. -/
def AccountedFor (s : Store) (e : Subscriber) : Receipt → Prop
  | .taken => { e with delivered := e.delivered + 1 } ∈ s.subscribers
  | .full => { e with missed := e.missed + 1 } ∈ s.subscribers
  | .closed => e.id ∉ s.roster

variable {s : Store} {f : FanOut} {e : Subscriber}

/-- Whoever was not found closed stays, with its numbers. -/
theorem mem_settle (he : e ∈ s.subscribers) (open_ : e.id ∉ f.having .closed) :
    credit f e ∈ (s.settle f).subscribers := by
  refine List.mem_filter.2 ⟨List.mem_map_of_mem he, ?_⟩
  rw [credit_id]
  exact decide_eq_true open_

/-- A subscriber without a receipt is left as it is. -/
theorem settle_untouched (he : e ∈ s.subscribers) (none : ∀ k, (e.id, k) ∉ f.receipts) :
    e ∈ (s.settle f).subscribers := by
  have away (k : Receipt) : e.id ∉ f.having k := fun mem => none k (FanOut.mem_having.1 mem)
  have same : credit f e = e := by rw [credit, if_neg (away .taken), if_neg (away .full)]
  have stays := mem_settle he (away .closed)
  rwa [same] at stays

/-- A subscriber with a receipt has what it says: one more delivered, one more
missed, or no place any more. -/
theorem accounted_settle (once : (f.receipts.map Prod.fst).Nodup) (he : e ∈ s.subscribers)
    {k : Receipt} (receipt : (e.id, k) ∈ f.receipts) : (s.settle f).AccountedFor e k := by
  have mem := FanOut.mem_having.2 receipt
  cases k with
  | taken =>
    have stays := mem_settle he (FanOut.having_disjoint once (by decide) mem)
    rwa [credit, if_pos mem] at stays
  | full =>
    have stays := mem_settle he (FanOut.having_disjoint once (by decide) mem)
    rwa [credit, if_neg (FanOut.having_disjoint once (by decide) mem), if_pos mem] at stays
  | closed =>
    intro member
    rw [settle_roster] at member
    exact of_decide_eq_true (List.mem_filter.1 member).2 mem

end Store

namespace Run

/-! ## Numbers along a run -/

/-- The numbers given so far increase and are those below the next one, but
for the ones that were spoilt; and everybody who got one is registered, was
removed by an accounting, or left. -/
structure Numbered (r : Run) : Prop where
  ascending : (Log.admitted r.log).Pairwise (fun a b => a.number < b.number)
  below : ∀ id ∈ Log.admitted r.log, id.number < r.store.nextSubscriber
  next : r.store.nextSubscriber = 1 + (Log.admitted r.log).length + Log.spoilt r.log
  whereabouts : (Log.admitted r.log).Perm
    (r.store.roster ++ (Log.pruned r.log ++ Log.departed r.log))

namespace Numbered

theorem start (config : StoreConfig) (instanceId : String) (started : Stamp) :
    Numbered (Run.start config instanceId started) where
  ascending := List.Pairwise.nil
  below := by rintro id ⟨⟩
  next := rfl
  whereabouts := List.Perm.nil

theorem nodup {r : Run} (h : Numbered r) : (Log.admitted r.log).Nodup :=
  h.ascending.imp (fun {a b} lt same => by rw [same] at lt; exact Nat.lt_irrefl _ lt)

/-- A step by which nobody comes or goes and no number is used up. -/
theorem quiet {r r' : Run} {e : Event} (h : Numbered r) (log : r'.log = e :: r.log)
    (events : Log.admitted (e :: r.log) = Log.admitted r.log ∧
      Log.pruned (e :: r.log) = Log.pruned r.log ∧
      Log.departed (e :: r.log) = Log.departed r.log ∧
      Log.spoilt (e :: r.log) = Log.spoilt r.log)
    (roster : r'.store.roster = r.store.roster)
    (next : r'.store.nextSubscriber = r.store.nextSubscriber) : Numbered r' := by
  obtain ⟨admitted, pruned, departed, spoilt⟩ := events
  rw [← log] at admitted pruned departed spoilt
  refine ⟨by rw [admitted]; exact h.ascending, by rw [admitted, next]; exact h.below,
    by rw [admitted, next, spoilt]; exact h.next, ?_⟩
  rw [admitted, pruned, departed, roster]
  exact h.whereabouts

/-- A new subscriber has the next number. -/
theorem subscribed {r : Run} (h : Numbered r) {label : String} {capacity : UInt64}
    {id : SubscriberId} (ok : (r.store.subscribe label capacity).1 = .ok id)
    (waiting : List Snapshot) :
    Numbered ⟨(r.store.subscribe label capacity).2, r.flight,
      .subscribed id waiting :: r.log⟩ := by
  obtain ⟨number, -, roster, next, -⟩ := Store.subscribe_ok ok
  have above : ∀ other ∈ Log.admitted r.log, other.number < id.number := by
    rw [number]
    exact h.below
  refine ⟨?_, ?_, ?_, ?_⟩
  · refine List.pairwise_append.2 ⟨h.ascending, List.pairwise_singleton _ _, ?_⟩
    intro a ha b hb
    rw [List.mem_singleton.1 hb]
    exact above a ha
  · intro other hother
    rw [next]
    rcases List.mem_append.1 hother with hother | hother
    · exact Nat.lt_succ_of_lt (h.below other hother)
    · rw [List.mem_singleton.1 hother, number]
      exact Nat.lt_succ_self _
  · rw [next, h.next]
    show _ = 1 + (Log.admitted r.log ++ [id]).length + Log.spoilt r.log
    rw [List.length_append, List.length_singleton]
    omega
  · show (Log.admitted r.log ++ [id]).Perm ((r.store.subscribe label capacity).2.roster ++
      (Log.pruned r.log ++ Log.departed r.log))
    rw [roster, List.append_assoc]
    refine (h.whereabouts.append_right [id]).trans ?_
    rw [List.append_assoc]
    exact List.perm_append_comm.append_left _

/-- A refusal uses no number up, or spoils it. -/
theorem turnedAway {r : Run} (h : Numbered r) {label : String} {capacity : UInt64}
    {why : StoreError} (error : (r.store.subscribe label capacity).1 = .error why) :
    Numbered ⟨(r.store.subscribe label capacity).2, r.flight, .turnedAway why :: r.log⟩ := by
  have refused := Store.subscribe_refused error
  by_cases huge : why = .hugeQueue
  · subst huge
    rw [refused, if_pos rfl]
    refine ⟨h.ascending, fun id mem => Nat.lt_succ_of_lt (h.below id mem), ?_, h.whereabouts⟩
    show r.store.nextSubscriber + 1 = 1 + (Log.admitted r.log).length + (Log.spoilt r.log + 1)
    rw [h.next]
    omega
  · rw [refused, if_neg huge]
    have spoilt : Log.spoilt (.turnedAway why :: r.log) = Log.spoilt r.log := by
      cases why with
      | hugeQueue => exact absurd rfl huge
      | defective | emptyQueue | versionConflict | subscriberLimit => rfl
    exact h.quiet rfl ⟨rfl, rfl, rfl, spoilt⟩ rfl rfl

/-- The one who leaves goes from the roster to those who left. -/
theorem unsubscribed {r : Run} (h : Numbered r) (registry : Registry r) (id : SubscriberId) :
    Numbered ⟨(r.store.unsubscribe id).2, r.flight,
      .unsubscribed id (r.store.isRegistered id) :: r.log⟩ := by
  by_cases known : id ∈ r.store.roster
  · obtain ⟨front, e, back, split, rfl, gone⟩ := Store.unsubscribe_known registry.nodup known
    have found : r.store.isRegistered e.id = true := by simpa [Store.isRegistered_eq] using known
    rw [gone, found]
    refine ⟨h.ascending, h.below, h.next, ?_⟩
    show (Log.admitted r.log).Perm ((front ++ back).map Subscriber.id ++
      (Log.pruned r.log ++ (Log.departed r.log ++ [e.id])))
    refine List.perm_iff_count.2 fun i => ?_
    have before := h.whereabouts.count_eq i
    simp only [Store.roster, split, List.map_append, List.map_cons, List.count_append,
      List.count_cons, List.count_nil] at before ⊢
    omega
  · have found : r.store.isRegistered id = false := by simpa [Store.isRegistered_eq] using known
    rw [Store.unsubscribe_unknown known, found]
    exact h.quiet rfl ⟨rfl, rfl, rfl, rfl⟩ rfl rfl

/-- Those who are found closed go from the roster to those who were
removed. -/
theorem settled {r : Run} (h : Numbered r) (registry : Registry r) (inLine : InLine r)
    {f : FanOut} (flight : r.flight = some f) :
    Numbered ⟨r.store.settle f, none, .settled f :: r.log⟩ := by
  refine ⟨h.ascending, h.below, h.next, ?_⟩
  have once : (f.having .closed).Nodup :=
    (inLine f flight).told.sublist (List.filter_sublist.map _)
  -- both are the registered ones among those who were found closed
  have removed : (r.store.roster.filter (fun id => id ∈ f.having .closed)).Perm
      ((f.having .closed).filter (fun id => Log.registered id r.log)) := by
    refine (List.perm_ext_iff_of_nodup (registry.nodup.filter _) (once.filter _)).2 fun id => ?_
    simp [List.mem_filter, registry.roster id, and_comm]
  have parts := List.filter_append_perm (fun id => decide (id ∈ f.having .closed)) r.store.roster
  have kept : (r.store.settle f).roster =
      r.store.roster.filter (fun id => !decide (id ∈ f.having .closed)) := by
    rw [Store.settle_roster]
    congr 1
    funext id
    simp
  show (Log.admitted r.log).Perm ((r.store.settle f).roster ++
    ((Log.pruned r.log ++ (f.having .closed).filter (fun id => Log.registered id r.log)) ++
      Log.departed r.log))
  refine List.perm_iff_count.2 fun i => ?_
  have before := h.whereabouts.count_eq i
  have split := parts.count_eq i
  have gone := removed.count_eq i
  simp only [kept, List.count_append] at before split gone ⊢
  omega

theorem move {r r' : Run} (move : Move r r') (registry : Registry r) (inLine : InLine r)
    (h : Numbered r) : Numbered r' := by
  cases move with
  | refused | refreshed | published =>
    exact h.quiet rfl ⟨rfl, rfl, rfl, rfl⟩ (by simp) (by simp)
  | settled f flight => exact h.settled registry inLine flight
  | subscribed label capacity id ok => exact h.subscribed ok _
  | turnedAway label capacity why error => exact h.turnedAway error
  | unsubscribed id => exact h.unsubscribed registry id
  | coldStarted | begunBefore | told | read | took | detached =>
    exact h.quiet rfl ⟨rfl, rfl, rfl, rfl⟩ rfl rfl

/-- A number is registered if it was given, and its bearer was neither removed
nor left. -/
theorem mem_roster_iff {r : Run} (h : Numbered r) (id : SubscriberId) :
    id ∈ r.store.roster ↔
      id ∈ Log.admitted r.log ∧ id ∉ Log.pruned r.log ∧ id ∉ Log.departed r.log := by
  have nodup := h.whereabouts.nodup_iff.1 h.nodup
  obtain ⟨-, -, apart⟩ := List.nodup_append.1 nodup
  rw [h.whereabouts.mem_iff, List.mem_append, List.mem_append]
  constructor
  · intro member
    have away : id ∉ Log.pruned r.log ++ Log.departed r.log :=
      fun mem => apart id member id mem rfl
    rw [List.mem_append, not_or] at away
    exact ⟨.inl member, away⟩
  · rintro ⟨member | pruned | departed, notPruned, notDeparted⟩
    · exact member
    · exact absurd pruned notPruned
    · exact absurd departed notDeparted

/-- Nobody leaves twice. -/
theorem departed_nodup {r : Run} (h : Numbered r) : (Log.departed r.log).Nodup := by
  have nodup := h.whereabouts.nodup_iff.1 h.nodup
  exact (List.nodup_append.1 (List.nodup_append.1 nodup).2.1).2.1

end Numbered

/-- The numbers along every run of a new store. -/
theorem numbered_after (config : StoreConfig) (instanceId : String) (started : Stamp)
    (acts : List Act) : Numbered ((start config instanceId started).after acts) := by
  have all := after_of_move (P := fun r => Registry r ∧ InLine r ∧ Numbered r) ?_ acts
    (r := start config instanceId started) ⟨.start _ _ _, .start _ _ _, .start _ _ _⟩
  · exact all.2.2
  · rintro r r' move ⟨registry, inLine, numbered⟩
    exact ⟨registry.move move, inLine.move move registry, numbered.move move registry inLine⟩

/-! ## The same subscriber later -/

/-- Whoever is registered later under a number that is known now is registered
now, with the same label and capacity. -/
theorem same_registration (r : Run) (more : List Act) :
    ∀ e ∈ (r.after more).store.subscribers, e.id.number < r.store.nextSubscriber →
      ∃ e₀ ∈ r.store.subscribers, e₀.id = e.id ∧ e₀.label = e.label ∧ e₀.capacity = e.capacity := by
  suffices both : r.store.nextSubscriber ≤ (r.after more).store.nextSubscriber ∧
      ∀ e ∈ (r.after more).store.subscribers, e.id.number < r.store.nextSubscriber →
        ∃ e₀ ∈ r.store.subscribers,
          e₀.id = e.id ∧ e₀.label = e.label ∧ e₀.capacity = e.capacity from both.2
  refine after_of_move (P := fun r' => r.store.nextSubscriber ≤ r'.store.nextSubscriber ∧
    ∀ e ∈ r'.store.subscribers, e.id.number < r.store.nextSubscriber →
      ∃ e₀ ∈ r.store.subscribers, e₀.id = e.id ∧ e₀.label = e.label ∧ e₀.capacity = e.capacity)
    ?_ more ⟨Nat.le_refl _, fun e he _ => ⟨e, he, rfl, rfl, rfl⟩⟩
  rintro r₁ r₂ move ⟨le, before⟩
  refine ⟨Nat.le_trans le (move_next move), fun e he known => ?_⟩
  cases move with
  | refused | refreshed | published => exact before e (by simpa using he) known
  | settled f =>
    obtain ⟨e', he', rfl⟩ := List.mem_map.1 (List.mem_filter.1 he).1
    rw [Store.credit_id] at known ⊢
    obtain ⟨e₀, he₀, id, label, capacity⟩ := before e' he' known
    refine ⟨e₀, he₀, id, label.trans ?_, capacity.trans ?_⟩ <;>
    · unfold Store.credit
      split
      · rfl
      · split <;> rfl
  | subscribed label capacity id ok =>
    rw [(Store.subscribe_ok_numbers ok).1] at he
    rcases List.mem_append.1 he with he | he
    · exact before e he known
    · -- the new one has a number that was not known
      obtain rfl := List.mem_singleton.1 he
      rw [(Store.subscribe_ok ok).1] at known
      exact absurd known (Nat.not_lt.2 le)
  | turnedAway label capacity why error =>
    exact before e ((Store.subscribe_error_numbers error).1 ▸ he) known
  | unsubscribed id => exact before e (List.mem_filter.1 he).1 known
  | coldStarted | begunBefore | told | read | took | detached => exact before e he known

/-! ## Since a fan-out began -/

/-- A fan-out under way began with one act at a moment at which the gate was
free.  Its targets were registered then, and its receipts are those of the
offers since. -/
theorem flight_began (r : Run) (free : r.flight = none) (acts : List Act) {f : FanOut}
    (flight : (r.after acts).flight = some f) :
    ∃ past a since, acts = past ++ a :: since ∧ (r.after past).flight = none ∧
      (∀ id ∈ f.targets, id ∈ (r.after past).store.roster) ∧
      ∃ later, (r.after acts).log = later ++ (r.after past).log ∧
        f.receipts = Log.outcomes later := by
  induction acts using List.reverseRecOn generalizing f with
  | nil => cases free.symm.trans flight
  | append_singleton acts a ih =>
    -- the fan-out was under way before the last act
    have earlier (later : Log) {g : FanOut} (before : (r.after acts).flight = some g)
        (log : (r.after (acts ++ [a])).log = later ++ (r.after acts).log)
        (targets : f.targets = g.targets)
        (receipts : f.receipts = g.receipts ++ Log.outcomes later)
        (one : ∀ past, Log.outcomes (later ++ past) = Log.outcomes past ++ Log.outcomes later) :
        ∃ past b since, acts ++ [a] = past ++ b :: since ∧ (r.after past).flight = none ∧
          (∀ id ∈ f.targets, id ∈ (r.after past).store.roster) ∧
          ∃ later, (r.after (acts ++ [a])).log = later ++ (r.after past).log ∧
            f.receipts = Log.outcomes later := by
      obtain ⟨past, b, since, rfl, began, known, later', log', receipts'⟩ := ih before
      refine ⟨past, b, since ++ [a], by simp, began, by rwa [targets], later ++ later', ?_, ?_⟩
      · rw [log, log', List.append_assoc]
      · rw [receipts, receipts', one]
    -- the fan-out began with the last act
    have now (before : (r.after acts).flight = none)
        (targets : f.targets = (r.after acts).store.roster ∨ f.targets = [])
        {e : Event} (log : (r.after (acts ++ [a])).log = e :: (r.after acts).log)
        (receipts : f.receipts = Log.outcomes [e]) :
        ∃ past b since, acts ++ [a] = past ++ b :: since ∧ (r.after past).flight = none ∧
          (∀ id ∈ f.targets, id ∈ (r.after past).store.roster) ∧
          ∃ later, (r.after (acts ++ [a])).log = later ++ (r.after past).log ∧
            f.receipts = Log.outcomes later := by
      refine ⟨acts, a, [], rfl, before, ?_, [e], log, receipts⟩
      rcases targets with all | none
      · simp [all]
      · simp [none]
    have last : r.after (acts ++ [a]) = (r.after acts).step a := after_append r acts [a]
    rw [last] at flight earlier now ⊢
    rcases step_move (r.after acts) a with same | move
    · rw [same] at flight earlier ⊢
      exact earlier [] flight rfl rfl (List.append_nil _).symm
        (fun _ => (List.append_nil _).symm)
    generalize (r.after acts).step a = r' at move flight earlier now ⊢
    cases move with
    | refused | settled => cases flight
    | refreshed now' policy candidate x before | begunBefore x before =>
      cases flight
      exact now before (.inr rfl) rfl rfl
    | published now' policy candidate x repaired before | coldStarted mark before =>
      cases flight
      exact now before (.inl rfl) rfl rfl
    | told g id rest before next =>
      cases flight
      exact earlier [_] before rfl rfl rfl (fun _ => rfl)
    | read | subscribed | turnedAway | unsubscribed | took | detached =>
      exact earlier [_] flight rfl rfl (List.append_nil _).symm
        (fun _ => (List.append_nil _).symm)

end Run

/-- Numbers of subscribers at any moment of a run, also while a fan-out is
under way.

The roster and all numbers given so far increase and stay below the next one,
which counts the registrations that succeeded; so no number is given twice.
A refused registration changes nothing (one that ends at a queue that cannot
be made is not refused, and spoils a number).  Whoever was admitted is
registered, was removed by an accounting, or left, and only one of these.  So
a removal finds exactly the numbers that were given and whose bearers neither
left nor were removed; it takes out the one subscriber, or changes nothing;
and nobody leaves twice.  The fan-out under way began with one act, and its
receipts are those of the offers since.  Who has a receipt is the subscriber
that had the number when the fan-out began, with the label and the capacity,
and the accounting gives it what the receipt says; who has none, above all
whoever was registered since, is left as it is. -/
theorem numbers_are_given_once (config : StoreConfig) (instanceId : String) (started : Stamp)
    (acts : List Act) :
    let r := (Run.start config instanceId started).after acts
    (r.store.roster.Pairwise (fun a b => a.number < b.number) ∧
      ∀ id ∈ r.store.roster, id.number < r.store.nextSubscriber) ∧
    ((Log.admitted r.log).Pairwise (fun a b => a.number < b.number) ∧
      (∀ id ∈ Log.admitted r.log, id.number < r.store.nextSubscriber) ∧
      r.store.nextSubscriber = 1 + (Log.admitted r.log).length + Log.spoilt r.log) ∧
    (∀ label capacity,
      let answer := r.store.subscribe label capacity
      (∀ id, answer.1 = .ok id → id = ⟨r.store.nextSubscriber⟩ ∧ id ∉ Log.admitted r.log ∧
        answer.2.roster = r.store.roster ++ [id]) ∧
      ∀ why, answer.1 = .error why → why ≠ .hugeQueue → answer.2 = r.store) ∧
    ((Log.admitted r.log).Perm (r.store.roster ++ (Log.pruned r.log ++ Log.departed r.log)) ∧
      (Log.departed r.log).Nodup ∧ r.store.counters.pruned = (Log.pruned r.log).length) ∧
    (∀ id,
      let answer := r.store.unsubscribe id
      (answer.1 = true ↔
        id ∈ Log.admitted r.log ∧ id ∉ Log.pruned r.log ∧ id ∉ Log.departed r.log) ∧
      (answer.1 = true → ∃ front e back, r.store.subscribers = front ++ e :: back ∧ e.id = id ∧
        answer.2 = { r.store with subscribers := front ++ back }) ∧
      (answer.1 = false → answer.2 = r.store)) ∧
    ∀ f, r.flight = some f → ∃ past a since, acts = past ++ a :: since ∧
      let began := (Run.start config instanceId started).after past
      began.flight = none ∧ (∀ id ∈ f.targets, id ∈ began.store.roster) ∧
      (∃ later, r.log = later ++ began.log ∧ f.receipts = Log.outcomes later) ∧
      ∀ e ∈ r.store.subscribers,
        (∀ k, (e.id, k) ∈ f.receipts → (r.store.settle f).AccountedFor e k ∧
          ∃ e₀ ∈ began.store.subscribers,
            e₀.id = e.id ∧ e₀.label = e.label ∧ e₀.capacity = e.capacity) ∧
        ((∀ k, (e.id, k) ∉ f.receipts) → e ∈ (r.store.settle f).subscribers) ∧
        (began.store.nextSubscriber ≤ e.id.number → ∀ k, (e.id, k) ∉ f.receipts) := by
  intro r
  have accounted := Run.accounted_after config instanceId started acts
  have registry := accounted.registry
  have numbered : Run.Numbered r := Run.numbered_after config instanceId started acts
  refine ⟨⟨registry.sorted, registry.below⟩, ⟨numbered.ascending, numbered.below, numbered.next⟩,
    fun label capacity => ⟨fun id ok => ?_, fun why error refused => ?_⟩,
    ⟨numbered.whereabouts, numbered.departed_nodup, ?_⟩, fun id => ?_, fun f flight => ?_⟩
  · obtain ⟨number, -, roster, -⟩ := Store.subscribe_ok ok
    refine ⟨number, fun given => ?_, roster⟩
    exact Store.ne_of_subscribe_ok ok (numbered.below id given) rfl
  · exact (Store.subscribe_refused error).trans (if_neg refused)
  · have all := numbered.whereabouts.length_eq
    have counted : (Log.admitted r.log).length = r.store.subscribers.length +
        r.store.counters.pruned + (Log.departed r.log).length := accounted.totals.members
    rw [List.length_append, List.length_append, Store.roster, List.length_map] at all
    omega
  · intro answer
    by_cases known : id ∈ r.store.roster
    · obtain ⟨front, e, back, split, same, removed⟩ := Store.unsubscribe_known registry.nodup known
      have removed : answer = _ := removed
      rw [removed]
      exact ⟨iff_of_true rfl ((numbered.mem_roster_iff id).1 known),
        fun _ => ⟨front, e, back, split, same, rfl⟩,
        fun absent => absurd absent.symm Bool.false_ne_true⟩
    · have kept : answer = _ := Store.unsubscribe_unknown known
      rw [kept]
      exact ⟨iff_of_false Bool.false_ne_true (mt (numbered.mem_roster_iff id).2 known),
        fun found => absurd found Bool.false_ne_true, fun _ => rfl⟩
  · obtain ⟨past, a, since, rfl, free, known, later, log, receipts⟩ :=
      Run.flight_began _ rfl acts flight
    have line := accounted.inLine f flight
    have began := Run.registry_after config instanceId started past
    -- whoever has a receipt was registered when the fan-out began
    have old : ∀ id k, (id, k) ∈ f.receipts →
        id.number < ((Run.start config instanceId started).after past).store.nextSubscriber := by
      intro id k receipt
      have told : id ∈ f.receipts.map Prod.fst := List.mem_map_of_mem receipt
      refine began.below id (known id ?_)
      rw [← line.inOrder]
      exact List.mem_append_left _ told
    refine ⟨past, a, since, rfl, free, known, ⟨later, log, receipts⟩, fun e he =>
      ⟨fun k receipt => ⟨Store.accounted_settle line.told he receipt, ?_⟩,
        Store.settle_untouched he, fun new k receipt => ?_⟩⟩
    · refine Run.same_registration _ (a :: since) e ?_ (old e.id k receipt)
      rw [← Run.after_append]
      exact he
    · exact absurd (old e.id k receipt) (Nat.not_lt.2 new)

/-- Of two subscribers the first gives its mailbox up, so that its offer finds
it closed, and leaves; a third one comes before the accounting. -/
def relievedRun : Run :=
  (Run.start .standard "run" ⟨1, .epoch⟩).after
    [.subscribe "first" 1, .subscribe "second" 1, .begin (markOf "a"), .detach ⟨1⟩, .tell, .tell,
      .unsubscribe ⟨1⟩, .subscribe "third" 1]

/-- The fan-out that is to be accounted for. -/
def relievedFanOut : FanOut := ⟨firstFact, [⟨1⟩, ⟨2⟩], [(⟨1⟩, .closed), (⟨2⟩, .taken)]⟩

/-- The accounting counts one more for the second subscriber, who was
registered when the fan-out began, and leaves the third one alone; to remove
the first one again finds nobody. -/
theorem numbers_are_given_once_amid_fan_out :
    relievedRun.flight = some relievedFanOut ∧
      (relievedRun.store.unsubscribe ⟨1⟩).2 = relievedRun.store ∧
      ⟨⟨3⟩, "third", 1, 1, 0⟩ ∈ (relievedRun.store.settle relievedFanOut).subscribers ∧
      (relievedRun.store.settle relievedFanOut).AccountedFor ⟨⟨2⟩, "second", 1, 0, 0⟩ .taken ∧
      ∃ past, ∃ e₀ ∈ ((Run.start .standard "run" ⟨1, .epoch⟩).after past).store.subscribers,
        e₀.id = ⟨2⟩ ∧ e₀.label = "second" := by
  have flight : relievedRun.flight = some relievedFanOut := by decide
  obtain ⟨-, -, -, -, removals, fanOut⟩ := numbers_are_given_once .standard "run" ⟨1, .epoch⟩
    [.subscribe "first" 1, .subscribe "second" 1, .begin (markOf "a"), .detach ⟨1⟩, .tell, .tell,
      .unsubscribe ⟨1⟩, .subscribe "third" 1]
  obtain ⟨past, -, -, -, -, -, -, each⟩ := fanOut _ flight
  obtain ⟨accounted, e₀, he₀, id, label, -⟩ :=
    (each ⟨⟨2⟩, "second", 1, 0, 0⟩ (by decide)).1 .taken (by decide)
  have third := (each ⟨⟨3⟩, "third", 1, 1, 0⟩ (by decide)).2.1 (fun k => by cases k <;> decide)
  exact ⟨flight, (removals ⟨1⟩).2.2 (by decide), third, accounted, past, e₀, he₀, id, label⟩

end AgentState
