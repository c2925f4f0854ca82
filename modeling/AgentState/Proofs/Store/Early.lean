/-
AgentState.Proofs.Store.Early — subscribers that were there before anything
was published.

They are caught up with nothing, and what was published since they
registered is all that was ever published.

* `Run.Early` — such a subscriber at a moment of a run.
* `Early.of_registered`, `Early.later` — who is one, and that it stays one.
* `Steered.fed_of_early` — what it is put by a store that a table steers.
-/
import AgentState.Proofs.Store.Accounts
import AgentState.Proofs.Store.Chronicle

namespace AgentState

/-- Before anybody writes nothing was published, and nobody was caught up. -/
theorem Log.nothing_of_quiet (id : SubscriberId) :
    ∀ {log : Log}, (∀ e ∈ log, e.isQuiet = true) →
      publishedSince id log = [] ∧ caughtUp id log = none
  | [], _ => ⟨rfl, rfl⟩
  | e :: past, quiet => by
      have quiet' : ∀ e' ∈ past, e'.isQuiet = true :=
        fun e' mem => quiet e' (List.mem_cons_of_mem e mem)
      obtain ⟨since, caughtUp⟩ := nothing_of_quiet id quiet'
      have empty : latest past = none := by
        have none := commits_of_quiet quiet' []
        rw [List.append_nil] at none
        rw [latest, none]
        rfl
      have idle := quiet e List.mem_cons_self
      cases e with
      | written | begun => cases idle
      | subscribed i waiting =>
        by_cases same : i = id
        · simp [publishedSince, Log.caughtUp, same, empty]
        · simp [publishedSince, Log.caughtUp, same, since, caughtUp]
      | told | settled | read | turnedAway | unsubscribed | taken | detached =>
        exact ⟨since, caughtUp⟩

namespace Run

/-- A subscriber that was there before anything was published. -/
structure Early (id : SubscriberId) (r : Run) : Prop where
  known : id.number < r.store.nextSubscriber
  since : Log.publishedSince id r.log = Log.published r.log
  caughtUp : Log.caughtUp id r.log = none

namespace Early

variable {id : SubscriberId} {r r' : Run}

/-- Whoever registers while nobody writes is there before anything is
published. -/
theorem of_registered (config : StoreConfig) (instanceId : String) (started : Stamp)
    {acts : List Act} (asides : ∀ a ∈ acts, a.isAside = true)
    (registered : id ∈ ((start config instanceId started).after acts).store.roster) :
    Early id ((start config instanceId started).after acts) := by
  have registry := registry_after config instanceId started acts
  obtain ⟨log, split, mute⟩ := (quiet_asides acts (start config instanceId started) asides).1.log
  rw [show (start config instanceId started).log = [] from rfl, List.append_nil] at split
  have quiet : ∀ e ∈ log, e.isQuiet = true := fun e mem => Event.isQuiet_of_isMute (mute e mem)
  obtain ⟨since, caughtUp⟩ := Log.nothing_of_quiet id quiet
  have published := Log.published_of_quiet quiet []
  rw [List.append_nil] at published
  refine ⟨registry.below id registered, ?_, ?_⟩
  · rw [split, since, published]
    rfl
  · rw [split, caughtUp]

/-- A step that registers somebody else or nobody. -/
theorem grow {e : Event} (h : Early id r) (log : r'.log = e :: r.log)
    (since : Log.publishedSince id (e :: r.log) =
      Log.publishedSince id r.log ++ e.published?.toList)
    (caughtUp : Log.caughtUp id (e :: r.log) = Log.caughtUp id r.log)
    (next : r.store.nextSubscriber ≤ r'.store.nextSubscriber) : Early id r' where
  known := Nat.lt_of_lt_of_le h.known next
  since := by rw [log, since, h.since, Log.published]
  caughtUp := by rw [log, caughtUp, h.caughtUp]

theorem move (move : Move r r') (h : Early id r) : Early id r' := by
  cases move with
  | refused | refreshed =>
    exact h.grow rfl (List.append_nil _).symm rfl (by simp)
  | published => exact h.grow rfl rfl rfl (by simp)
  | coldStarted => exact h.grow rfl rfl rfl (Nat.le_refl _)
  | subscribed label capacity other ok =>
    obtain ⟨-, -, -, next, -⟩ := Store.subscribe_ok ok
    have apart : other ≠ id := (Store.ne_of_subscribe_ok ok h.known).symm
    refine h.grow rfl ?_ ?_ (next ▸ Nat.le_succ _)
    · simp [Log.publishedSince, apart, Event.published?]
    · simp [Log.caughtUp, apart]
  | turnedAway label capacity why error =>
    obtain ⟨-, -, next, -⟩ := Store.subscribe_error error
    exact h.grow rfl (List.append_nil _).symm rfl next
  | begunBefore | told | settled | read | unsubscribed | took | detached =>
    exact h.grow rfl (List.append_nil _).symm rfl (Nat.le_refl _)

theorem later (later : Later r r') (h : Early id r) : Early id r' := by
  obtain ⟨acts, rfl⟩ := later
  exact after_of_move (fun _ _ step early => early.move step) acts h

end Early

end Run

/-- A subscriber that was there before anything was published, is still
registered and let no offer time out, at a store that a table steers: it was
put one snapshot for each version so far, in the states that the history
tells of. -/
theorem Steered.fed_of_early {t : RuleTable} {instanceId : String} {n : Nat} {r : Run}
    (h : Steered t instanceId n r) (targets : ∀ rule ∈ t.rules, rule.target ≠ .unspecified)
    (named : instanceId ≠ "") (fits : n < UInt64.size) (free : r.flight = none)
    {id : SubscriberId} (early : Run.Early id r) (registered : id ∈ r.store.roster)
    (prompt : ∀ o ∈ Log.offers id r.log, o.2 ≠ .full) :
    (r.store.current = none → Log.fed id r.log = []) ∧
    ∀ s, r.store.current = some s →
      (Log.fed id r.log).map (fun x => x.version.toNat) = List.range (s.version.toNat + 1) ∧
      (Log.fed id r.log).map Snapshot.state =
        .booting :: s.history.transitions.map Transition.target := by
  have accounted : Run.Accounted r := by
    obtain ⟨config, started, acts, rfl⟩ := h.reached
    exact Run.accounted_after config instanceId started acts
  have fed : Log.fed id r.log = Log.published r.log := by
    rw [accounted.fed_of_prompt free registered prompt, early.caughtUp, early.since]
    rfl
  have summarized := h.summarized targets named fits
  rw [fed]
  refine ⟨fun empty => summarized.empty (h.latest.trans empty), fun s current => ?_⟩
  have summary := summarized.filled s (h.latest.trans current)
  exact ⟨by rw [summary.versions, summary.version], summary.states⟩

end AgentState
