/-
AgentState.Proofs.Store.Soundness — what a store holds is fit to be stored.

A written candidate is looked at before it is committed, a cold start is
not.  So the current snapshot has no defect, with one exception: a store
without an instance identifier gives its own first snapshot none either.
Successors inherit the identifier, so they are refused as long as that
snapshot is current.

* `defect?_of_publish`, `defect?_of_refresh` — what a verdict lets in.
* `Run.Sound` — the invariant.
* `defect?_of_stored` — the current snapshot and its successors, over every
  run.
* `nameless_fact_is_defective` — the exception, on the shortest run.
-/
import AgentState.Proofs.Store.Lineage

namespace AgentState

/-! ## Defects -/

theorem defect?_eq_none_iff (x : Snapshot) :
    x.defect? = none ↔ x.state ≠ .unspecified ∧ x.id ≠ "" ∧ x.instanceId ≠ "" := by
  unfold Snapshot.defect?
  split
  · simp_all
  · split
    · simp_all
    · split <;> simp_all

/-- A snapshot with a state and an identifier lacks at most that of its
instance. -/
theorem defect?_of_nameless {x : Snapshot} (state : x.state ≠ .unspecified) (id : x.id ≠ "")
    (nameless : x.instanceId = "") : x.defect? = some .noInstanceId := by
  simp [Snapshot.defect?, state, id, nameless]

/-- Another version makes no defect. -/
theorem defect?_withVersion (x : Snapshot) (v : UInt64) :
    (x.withVersion v).defect? = x.defect? := rfl

/-- What is published has no defect. -/
theorem defect?_of_publish {current : Option Snapshot} {policy : VersionPolicy}
    {candidate x : Snapshot} {repaired : Bool}
    (judged : judge current policy candidate = .publish x repaired) : x.defect? = none := by
  cases judged_of_eq judged with
  | first sound => exact sound
  | advanced c sound => exact sound
  | repaired c sound => exact (defect?_withVersion candidate _).trans sound

/-- What becomes a refresh has no defect. -/
theorem defect?_of_refresh {current : Option Snapshot} {policy : VersionPolicy}
    {candidate x : Snapshot} (judged : judge current policy candidate = .refresh x) :
    x.defect? = none := by
  cases judged_of_eq judged with
  | refreshed c sound => exact sound

/-- A candidate without a defect is not refused as defective. -/
theorem judge_ne_defective {current : Option Snapshot} {policy : VersionPolicy} {x : Snapshot}
    (sound : x.defect? = none) (d : Defect) :
    judge current policy x ≠ .refuse (.defective d) := by
  intro judged
  cases judged_of_eq judged with
  | defective _ bad =>
    rw [sound] at bad
    cases bad

theorem judge_of_defect {current : Option Snapshot} {policy : VersionPolicy} {x : Snapshot}
    {d : Defect} (bad : x.defect? = some d) :
    judge current policy x = .refuse (.defective d) := by
  simp [judge, bad]

/-- A write is refused as defective exactly when its candidate has that
defect. -/
theorem Store.set_defective_iff (s : Store) (now : Stamp) (policy : VersionPolicy) (x : Snapshot)
    (d : Defect) :
    (s.set now policy x).result = .error (.defective d) ↔ x.defect? = some d := by
  constructor
  · intro refused
    cases bad : x.defect? with
    | some d' =>
      rw [(Store.set_of_refuse (judge_of_defect bad) now).1] at refused
      cases refused
      rfl
    | none =>
      cases judged : judge s.current policy x with
      | refuse why =>
        rw [(Store.set_of_refuse judged now).1] at refused
        cases refused
        exact absurd judged (judge_ne_defective bad d)
      | refresh y =>
        rw [(Store.set_of_refresh judged now).1] at refused
        cases refused
      | publish y repaired =>
        rw [(Store.set_of_publish judged now).1] at refused
        cases refused
  · intro bad
    exact (Store.set_of_refuse (judge_of_defect bad) now).1

/-! ## Along a run -/

namespace Run

/-- The current snapshot has no defect, or it is a cold start, and cold
starts carry the identifier of the instance. -/
structure Sound (home : String) (r : Run) : Prop where
  instanceId : r.store.instanceId = home
  own : ∀ x, Event.begun x true ∈ r.log → ∃ mark, x = .coldStart mark home
  current : ∀ c, r.store.current = some c → c.defect? = none ∨ Event.begun c true ∈ r.log

namespace Sound

theorem start (config : StoreConfig) (home : String) (started : Stamp) :
    Sound home (Run.start config home started) where
  instanceId := rfl
  own := by rintro x ⟨⟩
  current := by rintro c ⟨⟩

/-- A step that begins nothing and leaves the current snapshot, or commits
one without a defect, keeps what is stored sound. -/
theorem quiet {home : String} {r r' : Run} {e : Event} (h : Sound home r)
    (log : r'.log = e :: r.log) (other : ∀ x, e ≠ .begun x true)
    (same : r'.store.instanceId = r.store.instanceId)
    (current : ∀ c, r'.store.current = some c → c.defect? = none ∨ r.store.current = some c) :
    Sound home r' where
  instanceId := same.trans h.instanceId
  own := by
    intro x hx
    rw [log] at hx
    rcases List.mem_cons.1 hx with hx | hx
    · exact absurd hx.symm (other x)
    · exact h.own x hx
  current := by
    intro c hc
    rcases current c hc with sound | before
    · exact .inl sound
    · rw [log]
      exact (h.current c before).imp id (List.mem_cons_of_mem e)

/-- A cold start is the store's own. -/
theorem coldStarted {home : String} {r : Run} (h : Sound home r) (mark : Mark) :
    Sound home ⟨r.store.install mark.stamp (.coldStart mark r.store.instanceId),
      some (r.store.announce (.coldStart mark r.store.instanceId)),
      .begun (.coldStart mark r.store.instanceId) true :: r.log⟩ where
  instanceId := h.instanceId
  own := by
    intro x hx
    rcases List.mem_cons.1 hx with hx | hx
    · cases hx
      exact ⟨mark, by rw [h.instanceId]⟩
    · exact h.own x hx
  current := by
    intro c hc
    have cold : Snapshot.coldStart mark r.store.instanceId = c := Option.some.inj hc
    rw [← cold]
    exact .inr List.mem_cons_self

theorem move {home : String} {r r' : Run} (move : Move r r') (h : Sound home r) :
    Sound home r' := by
  cases move with
  | refused policy candidate why =>
    exact h.quiet rfl (by rintro x ⟨⟩) (by simp) (fun c hc => .inr (by simpa using hc))
  | refreshed now policy candidate x free judged =>
    refine h.quiet rfl (by rintro y ⟨⟩) (by simp) fun c hc => .inl ?_
    rw [← Option.some.inj hc]
    exact defect?_of_refresh judged
  | published now policy candidate x repaired free judged =>
    refine h.quiet rfl (by rintro y ⟨⟩) (by simp) fun c hc => .inl ?_
    rw [← Option.some.inj hc]
    exact defect?_of_publish judged
  | coldStarted mark free empty => exact h.coldStarted mark
  | subscribed label capacity id ok =>
    refine h.quiet rfl (by rintro x ⟨⟩) (by simp) fun c hc => .inr ?_
    rwa [(Store.subscribe_ok ok).2.1] at hc
  | turnedAway label capacity why error =>
    refine h.quiet rfl (by rintro x ⟨⟩) (by simp) fun c hc => .inr ?_
    rwa [(Store.subscribe_error error).1] at hc
  | begunBefore | told | settled | read | unsubscribed | took | detached =>
    exact h.quiet rfl (by rintro x ⟨⟩) rfl (fun c hc => .inr hc)

end Sound

/-- What a store holds along every run of a new store. -/
theorem sound_after (config : StoreConfig) (home : String) (started : Stamp)
    (acts : List Act) : Sound home ((start config home started).after acts) :=
  after_of_move (fun _ _ => Sound.move) acts (Sound.start config home started)

end Run

/-- What a store holds and what becomes of its successors, over every run of
a new store whose cold starts had an identifier.

A store is nameless if it has no instance identifier and its current
snapshot is its own cold start.  The current snapshot of a nameless store
lacks the identifier of its instance, and every write of a successor is
refused for that.  In every other store the current snapshot has no defect,
and no write of a successor in a working state is refused as defective,
however late it comes. -/
theorem defect?_of_stored (config : StoreConfig) (instanceId : String) (started : Stamp)
    (acts : List Act) (c : Snapshot)
    (named : ∀ x, Event.begun x true ∈ ((Run.start config instanceId started).after acts).log →
      x.id ≠ "")
    (current : ((Run.start config instanceId started).after acts).store.current = some c) :
    let r := (Run.start config instanceId started).after acts
    let nameless := instanceId = "" ∧ Event.begun c true ∈ r.log
    (¬nameless → c.defect? = none) ∧ (nameless → c.defect? = some .noInstanceId) ∧
    ∀ mark next reason step, mark.id ≠ "" → next ≠ .unspecified →
      ∀ more now policy,
        let answer := ((r.after more).store.set now policy (c.derive mark next reason step)).result
        (¬nameless → ∀ d, answer ≠ .error (.defective d)) ∧
        (nameless → answer = .error (.defective .noInstanceId)) := by
  intro r nameless
  have booting_works : State.booting ≠ .unspecified := by decide
  have sound := Run.sound_after config instanceId started acts
  have fine : ¬nameless → c.defect? = none := by
    intro unlike
    rcases sound.current c current with sound' | begun
    · exact sound'
    · obtain ⟨mark, cold⟩ := sound.own c begun
      have id := named c begun
      rw [cold] at id ⊢
      exact (defect?_eq_none_iff _).2 ⟨booting_works, id, fun none => unlike ⟨none, begun⟩⟩
  have bare : nameless → c.state ≠ .unspecified ∧ c.id ≠ "" ∧ c.instanceId = "" := by
    rintro ⟨none, begun⟩
    obtain ⟨mark, cold⟩ := sound.own c begun
    have id := named c begun
    rw [cold] at id ⊢
    exact ⟨booting_works, id, none⟩
  refine ⟨fine, fun h => ?_, ?_⟩
  · obtain ⟨state, id, none⟩ := bare h
    exact defect?_of_nameless state id none
  · intro mark next reason step id state more now policy answer
    -- the successor has the state and the mark it was given, and the instance of `c`
    refine ⟨fun h d refused => ?_, fun h => ?_⟩
    · have named' := ((defect?_eq_none_iff c).1 (fine h)).2.2
      have sound' : (c.derive mark next reason step).defect? = none :=
        (defect?_eq_none_iff _).2 ⟨state, id, named'⟩
      rw [(Store.set_defective_iff _ _ _ _ _).1 refused] at sound'
      cases sound'
    · exact (Store.set_defective_iff _ _ _ _ _).2 (defect?_of_nameless state id (bare h).2.2)

/-- A store with an instance identifier, after its cold start and a write
that was refused as defective. -/
theorem defect?_of_stored_named :
    let acts : List Act := [.begin (markOf "a"), .settle,
      .write ⟨1, .epoch⟩ .repair (.fresh (markOf "") "run" .idle "")]
    let r := (Run.start .standard "run" ⟨1, .epoch⟩).after acts
    (∀ x, Event.begun x true ∈ r.log → x.id ≠ "") ∧ r.store.current = some firstFact ∧
      firstFact.defect? = none ∧
      ∀ d, ((r.after []).store.set ⟨1, .epoch⟩ .strict
        (firstFact.derive (markOf "b") .idle "" none)).result ≠ .error (.defective d) := by
  intro acts r
  have named : ∀ x, Event.begun x true ∈ r.log → x.id ≠ "" := by
    intro x hx
    rcases List.mem_cons.1 hx with written | hx
    · cases written
    · rcases List.mem_cons.1 hx with settled | hx
      · cases settled
      · cases List.mem_singleton.1 hx
        decide
  have current : r.store.current = some firstFact := by decide
  obtain ⟨fine, -, successors⟩ :=
    defect?_of_stored .standard "run" ⟨1, .epoch⟩ acts firstFact named current
  have other : ¬("run" = "" ∧ Event.begun firstFact true ∈ r.log) := by
    rintro ⟨h, -⟩
    exact absurd h (by decide)
  exact ⟨named, current, fine other,
    (successors (markOf "b") .idle "" none (by decide) (by decide) [] ⟨1, .epoch⟩ .strict).1 other⟩

/-! ## The exception -/

/-- The cold start of a store without an instance identifier. -/
def namelessFact : Snapshot := .coldStart (markOf "a") ""

/-- A cold start of a store without an instance identifier. -/
def namelessRun : Run :=
  (Run.start .standard "" ⟨1, .epoch⟩).after [.begin (markOf "a"), .settle]

/-- A store that was given an empty instance identifier holds a snapshot
that it would refuse itself, and it refuses the successor under either
policy. -/
theorem nameless_fact_is_defective :
    namelessRun.store.current = some namelessFact ∧
      namelessFact.defect? = some .noInstanceId ∧
      ∀ policy, (namelessRun.store.set ⟨1, .epoch⟩ policy
        (namelessFact.derive (markOf "b") .idle "BOOT_COMPLETE" none)).result =
          .error (.defective .noInstanceId) := by
  refine ⟨by decide, by decide, fun policy => ?_⟩
  rw [Store.set_defective_iff]
  decide

end AgentState
