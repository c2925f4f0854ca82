/-
AgentState.Proofs.Store.Order — the order of versions in a store.

* `NotOlder` — the order of what two reads find: once there is a snapshot
  there always is one, and its version never goes back.
* `Run.move_notOlder` — the order along one step.
* `Run.Ordered` — the invariant: the log and the store agree on the current
  snapshot, and nothing that was committed or read is newer than it.
* `versions_in_order` — the order over whole runs.
-/
import AgentState.Proofs.Store.Run
import AgentState.Proofs.Store.Verdict

namespace AgentState

/-- What `b` finds is at least as new as what `a` found. -/
def NotOlder (a b : Option Snapshot) : Prop :=
  ∀ x, a = some x → ∃ y, b = some y ∧ x.version ≤ y.version

namespace NotOlder

theorem refl (a : Option Snapshot) : NotOlder a a := fun x h => ⟨x, h, UInt64.le_refl _⟩

theorem trans {a b c : Option Snapshot} (hab : NotOlder a b) (hbc : NotOlder b c) :
    NotOlder a c := by
  intro x hx
  obtain ⟨y, hy, hxy⟩ := hab x hx
  obtain ⟨z, hz, hyz⟩ := hbc y hy
  exact ⟨z, hz, UInt64.le_trans hxy hyz⟩

/-- A published snapshot is newer than the one before it. -/
theorem of_publish {current : Option Snapshot} {policy : VersionPolicy} {candidate x : Snapshot}
    {repaired : Bool} (h : judge current policy candidate = .publish x repaired) :
    NotOlder current (some x) := by
  rintro c rfl
  exact ⟨x, rfl, UInt64.le_of_lt (lt_of_publish h)⟩

/-- A refresh is as new as the snapshot before it. -/
theorem of_refresh {current : Option Snapshot} {policy : VersionPolicy} {candidate x : Snapshot}
    (h : judge current policy candidate = .refresh x) : NotOlder current (some x) := by
  obtain ⟨c, rfl, same⟩ := refreshes_of_refresh h
  intro c' hc
  cases hc
  exact ⟨x, rfl, UInt64.le_of_eq ((refreshes_iff x c).1 same).1.symm⟩

end NotOlder

namespace Run

/-- No step makes the current snapshot older or takes it away. -/
theorem move_notOlder {r r' : Run} (move : Move r r') :
    NotOlder r.store.current r'.store.current := by
  cases move with
  | refused policy candidate why => simpa using NotOlder.refl r.store.current
  | refreshed now policy candidate x free judged => exact NotOlder.of_refresh judged
  | published now policy candidate x repaired free judged => exact NotOlder.of_publish judged
  | coldStarted mark free empty =>
    rw [empty]
    intro x hx
    cases hx
  | subscribed label capacity id ok =>
    rw [(Store.subscribe_ok ok).2.1]
    exact NotOlder.refl _
  | turnedAway label capacity why error =>
    rw [(Store.subscribe_error error).1]
    exact NotOlder.refl _
  | begunBefore | told | settled | read | unsubscribed | took | detached =>
    exact NotOlder.refl _

/-- The current snapshot never gets older. -/
theorem after_notOlder (r : Run) (acts : List Act) :
    NotOlder r.store.current (r.after acts).store.current :=
  after_of_move (P := fun r' => NotOlder r.store.current r'.store.current)
    (fun _ _ move h => h.trans (move_notOlder move)) acts (NotOlder.refl _)

/-- What an event has to be after what was before it: a published snapshot
is newer than every commit before it, and any other commit is a refresh of
the snapshot that it replaces. -/
def InOrder (e : Event) (past : Log) : Prop :=
  ∀ x, e.committed? = some x →
    (e.published? = some x ∧ ∀ y ∈ Log.commits past, y.version < x.version) ∨
    (e.published? = none ∧ ∃ c, Log.latest past = some c ∧ x.refreshes c = true)

/-- An event that commits nothing is in order. -/
theorem InOrder.of_none {e : Event} {past : Log} (h : e.committed? = none) : InOrder e past := by
  intro x hx
  rw [h] at hx
  cases hx

/-- The log and the store agree on the current snapshot, nothing that was
committed or read is newer than it, and all events are in order. -/
structure Ordered (r : Run) : Prop where
  latest : Log.latest r.log = r.store.current
  commits : ∀ x ∈ Log.commits r.log, NotOlder (some x) r.store.current
  reads : ∀ a ∈ Log.reads r.log, NotOlder a r.store.current
  sorted : (Log.reads r.log).Pairwise NotOlder
  events : Log.Each InOrder r.log

namespace Ordered

theorem start (config : StoreConfig) (instanceId : String) (started : Stamp) :
    Ordered (Run.start config instanceId started) where
  latest := rfl
  commits := by simp [Run.start, Log.commits]
  reads := by simp [Run.start, Log.reads]
  sorted := List.Pairwise.nil
  events := trivial

/-- A step that commits nothing and reads nothing keeps the order. -/
theorem quiet {r r' : Run} {e : Event} (h : Ordered r) (log : r'.log = e :: r.log)
    (current : r'.store.current = r.store.current) (none : e.committed? = none)
    (reads : Log.reads (e :: r.log) = Log.reads r.log) : Ordered r' where
  latest := by rw [log, Log.latest_cons, none, current]; exact h.latest
  commits := by
    rw [log, current, Log.commits_cons_quiet none]
    exact h.commits
  reads := by rw [log, current, reads]; exact h.reads
  sorted := by rw [log, reads]; exact h.sorted
  events := by rw [log]; exact ⟨.of_none none, h.events⟩

/-- A step that commits a snapshot in order, and not an older one, keeps
the order. -/
theorem commit {r r' : Run} {e : Event} {x : Snapshot} (h : Ordered r)
    (log : r'.log = e :: r.log) (current : r'.store.current = some x)
    (some : e.committed? = some x) (reads : Log.reads (e :: r.log) = Log.reads r.log)
    (newer : NotOlder r.store.current (Option.some x)) (inOrder : InOrder e r.log) :
    Ordered r' where
  latest := by rw [log, Log.latest_cons, some, current]; rfl
  commits := by
    rw [log, current, Log.commits_cons some]
    intro y hy
    rcases List.mem_append.1 hy with hy | hy
    · exact (h.commits y hy).trans newer
    · rw [List.mem_singleton.1 hy]
      exact NotOlder.refl _
  reads := by
    rw [log, current, reads]
    exact fun a ha => (h.reads a ha).trans newer
  sorted := by rw [log, reads]; exact h.sorted
  events := by rw [log]; exact ⟨inOrder, h.events⟩

/-- All commits are older than what is published next. -/
theorem lt_of_publish {r : Run} (h : Ordered r) {policy : VersionPolicy}
    {candidate x : Snapshot} {repaired : Bool}
    (judged : judge r.store.current policy candidate = .publish x repaired) :
    ∀ y ∈ Log.commits r.log, y.version < x.version := by
  intro y hy
  obtain ⟨c, hc, hyc⟩ := h.commits y hy y rfl
  rw [hc] at judged
  exact UInt64.lt_of_le_of_lt hyc (AgentState.lt_of_publish judged)

/-- What was committed before something was published is older than what is
current. -/
theorem newer_of_published {r : Run} (h : Ordered r) {events past : Log}
    (split : r.log = events ++ past) {c : Snapshot} (stored : c ∈ Log.commits past)
    (published : ∃ e ∈ events, e.published?.isSome = true) :
    ∃ now, r.store.current = some now ∧ c.version < now.version := by
  obtain ⟨e, mem, some⟩ := published
  obtain ⟨x, published⟩ := Option.isSome_iff_exists.1 some
  have committed : e.committed? = Option.some x := Event.committed?_of_published published
  obtain ⟨after, before, rfl⟩ := List.append_of_mem mem
  rw [List.append_assoc, List.cons_append] at split
  have stored' : c ∈ Log.commits (before ++ past) := by
    obtain ⟨more, commits⟩ := Log.commits_append before past
    rw [commits]
    exact List.mem_append_left _ stored
  have mem' : x ∈ Log.commits r.log := by
    obtain ⟨more, commits⟩ := Log.commits_append after (e :: (before ++ past))
    rw [split, commits, Log.commits_cons committed]
    exact List.mem_append_left _ (List.mem_append_right _ List.mem_cons_self)
  have newer : c.version < x.version := by
    rcases h.events.at split x committed with ⟨-, newer⟩ | ⟨none, -⟩
    · exact newer c stored'
    · rw [published] at none
      cases none
  obtain ⟨now, current, notOlder⟩ := h.commits x mem' x rfl
  exact ⟨now, current, UInt64.lt_of_lt_of_le newer notOlder⟩

/-- A store without a current snapshot has no commits behind it. -/
theorem commits_nil {r : Run} (h : Ordered r) (empty : r.store.current = none) :
    Log.commits r.log = [] := by
  refine List.eq_nil_iff_forall_not_mem.2 fun y hy => ?_
  obtain ⟨c, hc, -⟩ := h.commits y hy y rfl
  rw [empty] at hc
  cases hc

theorem move {r r' : Run} (move : Move r r') (h : Ordered r) : Ordered r' := by
  cases move with
  | refused policy candidate why => exact h.quiet rfl (by simp) rfl rfl
  | refreshed now policy candidate x free judged =>
    refine h.commit rfl rfl rfl rfl (.of_refresh judged) ?_
    intro y hy
    cases hy
    obtain ⟨c, hc, same⟩ := refreshes_of_refresh judged
    exact .inr ⟨rfl, c, h.latest.trans hc, same⟩
  | published now policy candidate x repaired free judged =>
    refine h.commit rfl rfl rfl rfl (.of_publish judged) ?_
    intro y hy
    cases hy
    exact .inl ⟨rfl, h.lt_of_publish judged⟩
  | coldStarted mark free empty =>
    refine h.commit rfl rfl rfl rfl (by rw [empty]; intro c hc; cases hc) ?_
    intro y hy
    cases hy
    exact .inl ⟨rfl, by simp [h.commits_nil empty]⟩
  | read =>
    refine ⟨?_, ?_, ?_, ?_, ⟨.of_none rfl, h.events⟩⟩
    · rw [Log.latest_cons]
      exact h.latest
    · exact h.commits
    · intro a ha
      rcases List.mem_append.1 ha with ha | ha
      · exact h.reads a ha
      · rw [List.mem_singleton.1 ha]
        exact NotOlder.refl _
    · refine List.pairwise_append.2 ⟨h.sorted, List.pairwise_singleton _ _, ?_⟩
      intro a ha b hb
      rw [List.mem_singleton.1 hb]
      exact h.reads a ha
  | subscribed label capacity id ok => exact h.quiet rfl (Store.subscribe_ok ok).2.1 rfl rfl
  | turnedAway label capacity why error =>
    exact h.quiet rfl (Store.subscribe_error error).1 rfl rfl
  | begunBefore | told | settled | unsubscribed | took | detached => exact h.quiet rfl rfl rfl rfl

end Ordered

/-- Every run of a new store is in order. -/
theorem ordered_after (config : StoreConfig) (instanceId : String) (started : Stamp)
    (acts : List Act) : Ordered ((start config instanceId started).after acts) :=
  after_of_move (fun _ _ => Ordered.move) acts (Ordered.start config instanceId started)

end Run

/-- The order of versions over every run of a new store.  The current
snapshot is the one that was committed last; it stays or gives way to one
that is not older; reads find it in this order; what is published is newer
than every commit before it; and a commit that keeps the version of the
snapshot that it replaces is a refresh of it, which nobody is told of. -/
theorem versions_in_order (config : StoreConfig) (instanceId : String) (started : Stamp)
    (acts more : List Act) :
    let r := (Run.start config instanceId started).after acts
    Log.latest r.log = r.store.current ∧
    NotOlder r.store.current (r.after more).store.current ∧
    (Log.reads r.log).Pairwise NotOlder ∧
    ∀ later e past, r.log = later ++ e :: past → ∀ x, e.committed? = some x →
      (e.published? = some x → ∀ y ∈ Log.commits past, y.version < x.version) ∧
      (∀ c, Log.latest past = some c → x.version = c.version →
        e.published? = none ∧ x.state = c.state ∧ x.parentId = some c.id) := by
  intro r
  have ordered := Run.ordered_after config instanceId started acts
  refine ⟨ordered.latest, Run.after_notOlder r more, ordered.sorted, ?_⟩
  intro later e past split x committed
  rcases ordered.events.at split x committed with ⟨published, newer⟩ | ⟨unpublished, c, hc, same⟩
  · refine ⟨fun _ => newer, fun c latest keeps => ?_⟩
    -- what is published cannot keep the version of a commit before it
    have lt := newer c (List.mem_of_getLast? latest)
    rw [keeps] at lt
    exact absurd lt (UInt64.lt_irrefl _)
  · refine ⟨fun published => ?_, fun c' latest _ => ?_⟩
    · rw [unpublished] at published
      cases published
    · rw [hc] at latest
      cases latest
      exact ⟨unpublished, ((refreshes_iff x c).1 same).2⟩

end AgentState
