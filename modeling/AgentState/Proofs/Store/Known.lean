/-
AgentState.Proofs.Store.Known — what happens later to subscribers that are
known at a moment.

Numbers are given once, so nobody is registered again.  From a moment on a
subscriber is offered what is published, each snapshot once, until it is no
longer registered; and while it is and has room, it is fed all of it.

* `Log.Newcomers` — all that is registered by some events is new.
* `Run.later_newcomers` — so it is from any moment of a run to a later one.
* `Log.due_append`, `Log.offers_append`, `Log.fed_append` — what is recorded
  about a subscriber, before a moment and after it.
* `Run.Accounted.fed_later` — what a registered subscriber with room is fed
  between two moments.
-/
import AgentState.Proofs.Store.Accounts
import AgentState.Proofs.Store.Chronicle

namespace AgentState

namespace Log

/-- Every subscriber that some events register has this number or a greater
one. -/
def Newcomers (next : Nat) (later : Log) : Prop :=
  ∀ id waiting, Event.subscribed id waiting ∈ later → next ≤ id.number

/-! ## A subscriber before a moment and after it -/

theorem published_append (past : Log) : ∀ later : Log,
    published (later ++ past) = published past ++ published later
  | [] => (List.append_nil _).symm
  | e :: later => by
      rw [List.cons_append, published, published, published_append past later, List.append_assoc]

variable (id : SubscriberId) (past : Log)

theorem offers_append : ∀ later : Log, offers id (later ++ past) = offers id past ++ offers id later
  | [] => (List.append_nil _).symm
  | .told i x r :: later => by
      simp only [List.cons_append, offers, offers_append later, List.append_assoc]
  | .written _ _ _ :: later | .begun _ _ :: later | .settled _ :: later | .read _ :: later
  | .subscribed _ _ :: later | .turnedAway _ :: later | .unsubscribed _ _ :: later
  | .taken _ _ :: later | .detached _ :: later => offers_append later

theorem fed_append : ∀ later : Log, fed id (later ++ past) = fed id past ++ fed id later
  | [] => (List.append_nil _).symm
  | .told i x .taken :: later | .subscribed i x :: later => by
      simp only [List.cons_append, fed, fed_append later, List.append_assoc]
  | .told _ _ .full :: later | .told _ _ .closed :: later
  | .written _ _ _ :: later | .begun _ _ :: later | .settled _ :: later | .read _ :: later
  | .turnedAway _ :: later | .unsubscribed _ _ :: later | .taken _ _ :: later
  | .detached _ :: later => fed_append later

variable {id past}

/-- A known subscriber that is registered after some events was registered
before them, and all that they publish is due to it. -/
theorem due_append : ∀ {later : Log}, Newcomers (id.number + 1) later →
    registered id (later ++ past) = true →
      registered id past = true ∧ due id (later ++ past) = due id past ++ published later
  | [], _, now => ⟨now, (List.append_nil _).symm⟩
  | e :: later, new, now => by
      have new' : Newcomers (id.number + 1) later :=
        fun i waiting mem => new i waiting (List.mem_cons_of_mem e mem)
      have before : registered id (later ++ past) = true := by
        cases e with
        | subscribed i waiting =>
          have apart : i ≠ id := by
            rintro rfl
            exact absurd (new i waiting List.mem_cons_self) (Nat.not_succ_le_self _)
          simpa [registered, apart] using now
        | unsubscribed | settled => exact (Bool.and_eq_true_iff.1 now).2
        | written | begun | told | read | turnedAway | taken | detached => exact now
      obtain ⟨known, split⟩ := due_append new' before
      refine ⟨known, ?_⟩
      simp only [List.cons_append, due, published, before, if_true, split]
      cases e.published? <;> simp

/-- What a known subscriber is fed are the offers that it takes. -/
theorem fed_of_newcomers : ∀ {later : Log}, Newcomers (id.number + 1) later →
    fed id later = ((offers id later).filter (fun o => o.2 = .taken)).map Prod.fst
  | [], _ => rfl
  | e :: later, new => by
      have new' : Newcomers (id.number + 1) later :=
        fun i waiting mem => new i waiting (List.mem_cons_of_mem e mem)
      have ih := fed_of_newcomers new'
      cases e with
      | subscribed i waiting =>
        have apart : i ≠ id := by
          rintro rfl
          exact absurd (new i waiting List.mem_cons_self) (Nat.not_succ_le_self _)
        simpa [fed, offers, apart] using ih
      | told i x receipt =>
        by_cases same : i = id <;> cases receipt <;> simp [fed, offers, same, ih]
      | written | begun | settled | read | turnedAway | unsubscribed | taken | detached => exact ih

end Log

namespace Run

/-! ## Newcomers along a run -/

/-- No number is given back. -/
theorem move_next {r r' : Run} (move : Move r r') :
    r.store.nextSubscriber ≤ r'.store.nextSubscriber := by
  cases move with
  | refused | refreshed | published => simp
  | subscribed label capacity id ok =>
    rw [(Store.subscribe_ok ok).2.2.2.1]
    exact Nat.le_succ _
  | turnedAway label capacity why error => exact (Store.subscribe_error error).2.2.1
  | coldStarted | begunBefore | told | settled | read | unsubscribed | took | detached =>
    exact Nat.le_refl _

/-- A number that is given is the next one. -/
theorem Move.newcomer {r r' : Run} (move : Move r r') {id : SubscriberId}
    {waiting : List Snapshot} (log : r'.log = .subscribed id waiting :: r.log) :
    id.number = r.store.nextSubscriber := by
  cases move <;> cases log
  next ok => rw [(Store.subscribe_ok ok).1]

/-- Whoever is registered between two moments is new. -/
theorem later_newcomers {r r' : Run} (later : Later r r') :
    ∃ events, r'.log = events ++ r.log ∧ Log.Newcomers r.store.nextSubscriber events := by
  obtain ⟨acts, rfl⟩ := later
  have kept := after_of_move (P := fun r' => r.store.nextSubscriber ≤ r'.store.nextSubscriber ∧
    ∃ events, r'.log = events ++ r.log ∧ Log.Newcomers r.store.nextSubscriber events) ?_ acts
    (r := r) ⟨Nat.le_refl _, [], rfl, by rintro id waiting ⟨⟩⟩
  · exact kept.2
  · intro r₁ r₂ move before
    obtain ⟨le, events, split, new⟩ := before
    obtain ⟨e, log⟩ := move.log
    refine ⟨Nat.le_trans le (move_next move), e :: events, by rw [log, split]; rfl, ?_⟩
    intro id waiting mem
    rcases List.mem_cons.1 mem with rfl | mem
    · rw [move.newcomer log]
      exact le
    · exact new id waiting mem

/-- What a subscriber is fed between two moments at which it is registered and
no fan-out is under way: all that is published between them, if no offer
times out. -/
theorem Accounted.fed_later {r r' : Run} (h : Accounted r) (h' : Accounted r')
    (free : r.flight = none) (free' : r'.flight = none) {events : Log}
    (split : r'.log = events ++ r.log) (new : Log.Newcomers r.store.nextSubscriber events)
    {id : SubscriberId} (member : id ∈ r.store.roster) (member' : id ∈ r'.store.roster)
    (prompt : ∀ o ∈ Log.offers id events, o.2 ≠ .full) :
    Log.fed id r'.log = Log.fed id r.log ++ Log.published events := by
  have new : Log.Newcomers (id.number + 1) events := fun i waiting mem =>
    Nat.le_trans (h.registry.below id member) (new i waiting mem)
  -- what is offered between the moments is what is published between them
  have told := (h.feed id).told_of_free free
  have told' := (h'.feed id).told_of_free free'
  rw [split, Log.offers_append, List.map_append, told,
    (Log.due_append new (by rw [← split]; exact (h'.registry.roster id).1 member')).2] at told'
  have offered := List.append_cancel_left told'
  -- and all of it is taken
  have taken := taken_of_prompt prompt fun o mem =>
    h'.open_of_registered free' member' o (by
      rw [split, Log.offers_append]
      exact List.mem_append_right _ mem)
  rw [split, Log.fed_append, Log.fed_of_newcomers new, taken, offered]

end Run

end AgentState
