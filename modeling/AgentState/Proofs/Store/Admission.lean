/-
AgentState.Proofs.Store.Admission — who is admitted to a store with accepted
settings.

Settings are accepted when every check holds, and one of them is that queues
are not empty.  There is none that queues are not too large to be made, so
that a registration comes to such a queue as soon as there is room for it.

* `Store.subscribe_sized` — what a registration with a queue that is not
  empty comes to.
* `subscribe_of_accepted` — the statement over every run of a store;
  `accepted_queue_out_of_reach` — an accepted document with too large a queue.
-/
import AgentState.Proofs.Store.Run
import AgentState.Proofs.Config.Validation

namespace AgentState

/-! ## Registrations -/

/-- What a registration with a queue that is not empty comes to: where as many
are registered as may be, nobody else is, and nothing changes; where there is
room, it depends on whether the queue can be made. -/
theorem Store.subscribe_sized (s : Store) (label : String) {capacity : UInt64}
    (sized : capacity ≠ 0) :
    let answer := s.subscribe label capacity
    (s.config.maxSubscribers.toNat ≤ s.subscribers.length →
      answer = (.error (.subscriberLimit s.config.maxSubscribers), s)) ∧
    (s.subscribers.length < s.config.maxSubscribers.toNat →
      (capacity.toNat ≤ Mailbox.largest →
        answer.1 = .ok ⟨s.nextSubscriber⟩ ∧ answer.2.roster = s.roster ++ [⟨s.nextSubscriber⟩]) ∧
      (Mailbox.largest < capacity.toNat → answer.1 = .error .hugeQueue)) ∧
    answer.1 ≠ .error .emptyQueue ∧ ∀ d, answer.1 ≠ .error (.defective d) := by
  intro answer
  have ends : Registers s label capacity answer := s.subscribe_registers label capacity
  generalize answer = r at ends ⊢
  cases ends with
  | empty empty => exact absurd empty sized
  | full _ full =>
    exact ⟨fun _ => rfl, fun room => absurd full (Nat.not_le.2 room), by simp, by simp⟩
  | huge _ room huge =>
    refine ⟨fun full => absurd full (Nat.not_le.2 room), fun _ => ⟨?_, fun _ => rfl⟩,
      by simp, by simp⟩
    exact fun fits => absurd fits (Nat.not_le.2 huge)
  | admitted _ room fits =>
    refine ⟨fun full => absurd full (Nat.not_le.2 room), fun _ => ⟨?_, ?_⟩, by simp, by simp⟩
    · exact fun _ => ⟨rfl, by simp [Store.enrolled, Store.roster]⟩
    · exact fun huge => absurd fits (Nat.not_le.2 huge)

/-- A registration at a store with accepted settings, at any moment.

It is refused and changes nothing if as many are registered as may be.
Otherwise it succeeds, provided that the queue of the settings can be made,
and it fails at the making of the queue if not; that is not checked when the
settings are read.  It is never refused for an empty queue or as defective. -/
theorem subscribe_of_accepted {text : String} {config : CoreConfig}
    (accepted : CoreConfig.ofToml text = .ok config) (instanceId : String) (started : Stamp)
    (acts : List Act) (label : String) :
    let s := ((Run.start config.store instanceId started).after acts).store
    let answer := s.subscribeDefault label
    (config.store.maxSubscribers.toNat ≤ s.subscribers.length →
      answer = (.error (.subscriberLimit config.store.maxSubscribers), s)) ∧
    (s.subscribers.length < config.store.maxSubscribers.toNat →
      (config.store.queueCapacity.toNat ≤ Mailbox.largest →
        answer.1 = .ok ⟨s.nextSubscriber⟩ ∧ answer.2.roster = s.roster ++ [⟨s.nextSubscriber⟩]) ∧
      (Mailbox.largest < config.store.queueCapacity.toNat → answer.1 = .error .hugeQueue)) ∧
    answer.1 ≠ .error .emptyQueue ∧ ∀ d, answer.1 ≠ .error (.defective d) := by
  intro s answer
  have settings : s.config = config.store := Run.config_after config.store instanceId started acts
  have sized : config.store.queueCapacity ≠ 0 :=
    UInt64.pos_iff_ne_zero.1 (CoreConfig.met_of_ofToml accepted .queueCapacity)
  rw [← settings] at sized ⊢
  exact s.subscribe_sized label sized

/-- A document that lets one subscriber in. -/
def singleText : String := "[store]\nmax_subscribers = 1\n"

/-- The first subscriber is let in, and the second one is not. -/
theorem subscribe_of_accepted_single :
    ∃ config, CoreConfig.ofToml singleText = .ok config ∧
      let r := Run.start config.store "run" ⟨1, .epoch⟩
      (r.store.subscribeDefault "first").1 = .ok ⟨1⟩ ∧
        let s := (r.after [.subscribe "first" 64]).store
        s.subscribeDefault "second" =
          (.error (.subscriberLimit config.store.maxSubscribers), s) := by
  have found : (CoreConfig.ofToml singleText).toOption.map
      (fun c => (c.store.maxSubscribers, c.store.queueCapacity)) = some (1, 64) := by
    decide +kernel
  obtain ⟨config, accepted, view⟩ := CoreConfig.exists_of_toOption found
  obtain ⟨one, size⟩ := Prod.mk.inj view
  refine ⟨config, accepted, ?_, ?_⟩
  · obtain ⟨-, room, -⟩ := subscribe_of_accepted accepted "run" ⟨1, .epoch⟩ [] "first"
    have nobody : 0 < config.store.maxSubscribers.toNat := by rw [one]; decide
    exact ((room nobody).1 (by rw [size]; decide)).1
  · obtain ⟨full, -⟩ :=
      subscribe_of_accepted accepted "run" ⟨1, .epoch⟩ [.subscribe "first" 64] "second"
    refine full ?_
    simp [Run.after, Run.step, Run.start, Store.subscribe, Store.empty, Mailbox.largest, one]

/-- A document with the smallest queue that is too large to be made. -/
def hugeText : String := "[store]\nqueue_capacity = 2305843009213693952\n"

/-- The document is accepted, and nobody can be let in to a new store with its
settings, although nobody is there. -/
theorem accepted_queue_out_of_reach :
    ∃ config, CoreConfig.ofToml hugeText = .ok config ∧
      let s := (Run.start config.store "run" ⟨1, .epoch⟩).store
      s.subscribers.length < config.store.maxSubscribers.toNat ∧
        ∀ label, (s.subscribeDefault label).1 = .error .hugeQueue := by
  have found : (CoreConfig.ofToml hugeText).toOption.map
      (fun c => (c.store.maxSubscribers, c.store.queueCapacity)) =
        some (32, 2305843009213693952) := by
    decide +kernel
  obtain ⟨config, accepted, view⟩ := CoreConfig.exists_of_toOption found
  obtain ⟨many, size⟩ := Prod.mk.inj view
  have nobody : 0 < config.store.maxSubscribers.toNat := by rw [many]; decide
  have sized : config.store.queueCapacity ≠ 0 := by rw [size]; decide
  have huge : Mailbox.largest < config.store.queueCapacity.toNat := by rw [size]; decide
  refine ⟨config, accepted, nobody, fun label => ?_⟩
  let s := (Run.start config.store "run" ⟨1, .epoch⟩).store
  exact ((s.subscribe_sized label sized).2.1 nobody).2 huge

end AgentState
