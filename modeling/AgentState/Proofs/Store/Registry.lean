/-
AgentState.Proofs.Store.Registry — who is registered, along a run.

* `Run.Registry` — the invariant: the roster is what the log says it is, its
  numbers increase and stay below the next one to be given, and a fan-out
  under way still has to tell different subscribers, all of them known.
* `registry_after` — it holds along every run of a new store.
-/
import AgentState.Proofs.Store.Run

namespace AgentState

namespace FanOut

/-- Without receipts everybody is still to be told. -/
theorem pending_of_receipts_nil {f : FanOut} (h : f.receipts = []) : f.pending = f.targets := by
  simp [pending, h]

theorem note_snapshot (f : FanOut) (id : SubscriberId) (receipt : Receipt) :
    (f.note id receipt).snapshot = f.snapshot := rfl

/-- A receipt strikes the first of those who are still to be told off. -/
theorem pending_note {f : FanOut} {id : SubscriberId} {rest : List SubscriberId}
    (next : f.pending = id :: rest) (receipt : Receipt) : (f.note id receipt).pending = rest := by
  have drop : f.targets.drop (f.receipts.length + 1) = (f.targets.drop f.receipts.length).tail :=
    List.tail_drop.symm
  simp only [pending, note, List.length_append, List.length_singleton] at next ⊢
  rw [drop, next, List.tail_cons]

end FanOut

namespace Run

/-- The roster agrees with the log, its numbers increase, and the fan-out
under way has its own subscribers to tell. -/
structure Registry (r : Run) : Prop where
  roster : ∀ id, id ∈ r.store.roster ↔ Log.registered id r.log = true
  sorted : r.store.roster.Pairwise (fun a b => a.number < b.number)
  below : ∀ id ∈ r.store.roster, id.number < r.store.nextSubscriber
  distinct : ∀ f, r.flight = some f → f.pending.Nodup
  known : ∀ f, r.flight = some f → ∀ id ∈ f.pending, id.number < r.store.nextSubscriber

namespace Registry

theorem start (config : StoreConfig) (instanceId : String) (started : Stamp) :
    Registry (Run.start config instanceId started) where
  roster := by simp [Run.start, Store.empty, Store.roster, Log.registered]
  sorted := List.Pairwise.nil
  below := by simp [Run.start, Store.empty, Store.roster]
  distinct := by rintro f ⟨⟩
  known := by rintro f ⟨⟩

theorem nodup {r : Run} (h : Registry r) : r.store.roster.Nodup :=
  h.sorted.imp (fun {a b} lt same => by rw [same] at lt; exact Nat.lt_irrefl _ lt)

/-- A step that keeps the roster, gives no number back and tells nobody new
keeps the registry. -/
theorem same {r r' : Run} {e : Event} (h : Registry r) (log : r'.log = e :: r.log)
    (quiet : ∀ id, Log.registered id (e :: r.log) = Log.registered id r.log)
    (roster : r'.store.roster = r.store.roster)
    (next : r.store.nextSubscriber ≤ r'.store.nextSubscriber)
    (flight : ∀ f, r'.flight = some f →
      r.flight = some f ∨ f.pending = r.store.roster ∨ f.pending = []) : Registry r' where
  roster := by
    intro id
    rw [log, roster, quiet]
    exact h.roster id
  sorted := by rw [roster]; exact h.sorted
  below := by
    rw [roster]
    exact fun id hid => Nat.lt_of_lt_of_le (h.below id hid) next
  distinct := by
    intro f hf
    rcases flight f hf with old | all | done
    · exact h.distinct f old
    · rw [all]; exact h.nodup
    · rw [done]; exact List.nodup_nil
  known := by
    intro f hf id hid
    rcases flight f hf with old | all | done
    · exact Nat.lt_of_lt_of_le (h.known f old id hid) next
    · rw [all] at hid
      exact Nat.lt_of_lt_of_le (h.below id hid) next
    · rw [done] at hid
      cases hid

/-- A step that removes subscribers, and says so, keeps the registry. -/
theorem remove {r r' : Run} {e : Event} (h : Registry r) (keep : SubscriberId → Bool)
    (log : r'.log = e :: r.log)
    (quiet : ∀ id, Log.registered id (e :: r.log) = (keep id && Log.registered id r.log))
    (roster : r'.store.roster = r.store.roster.filter keep)
    (next : r'.store.nextSubscriber = r.store.nextSubscriber)
    (flight : ∀ f, r'.flight = some f → r.flight = some f) : Registry r' where
  roster := by
    intro id
    rw [log, roster, quiet, List.mem_filter, h.roster, Bool.and_eq_true]
    exact And.comm
  sorted := by rw [roster]; exact h.sorted.filter _
  below := by
    rw [roster, next]
    exact fun id hid => h.below id (List.mem_filter.1 hid).1
  distinct := fun f hf => h.distinct f (flight f hf)
  known := by
    rw [next]
    exact fun f hf => h.known f (flight f hf)

/-- One offer less in the fan-out under way keeps the registry. -/
theorem told {r : Run} (h : Registry r) {f : FanOut} {id : SubscriberId}
    {rest : List SubscriberId} (flight : r.flight = some f) (next : f.pending = id :: rest) :
    Registry ⟨(r.store.offer id f.snapshot).2,
      some (f.note id (r.store.offer id f.snapshot).1),
      .told id f.snapshot (r.store.offer id f.snapshot).1 :: r.log⟩ where
  roster := h.roster
  sorted := h.sorted
  below := h.below
  distinct := by
    intro g hg
    cases hg
    have distinct := h.distinct f flight
    rw [next] at distinct
    rw [FanOut.pending_note next]
    exact (List.nodup_cons.1 distinct).2
  known := by
    intro g hg other hother
    cases hg
    rw [FanOut.pending_note next] at hother
    exact h.known f flight other (next ▸ List.mem_cons_of_mem id hother)

/-- A new subscriber comes last and takes the next number. -/
theorem subscribed {r : Run} (h : Registry r) {label : String} {capacity : UInt64}
    {id : SubscriberId} (ok : (r.store.subscribe label capacity).1 = .ok id)
    (waiting : List Snapshot) :
    Registry ⟨(r.store.subscribe label capacity).2, r.flight,
      .subscribed id waiting :: r.log⟩ := by
  obtain ⟨number, -, roster, next, -⟩ := Store.subscribe_ok ok
  have above : ∀ other ∈ r.store.roster, other.number < id.number := by
    rw [number]
    exact h.below
  refine ⟨fun other => ?_, ?_, ?_, h.distinct, ?_⟩
  · rw [roster, List.mem_append, h.roster, List.mem_singleton]
    simp only [Log.registered, Bool.or_eq_true, beq_iff_eq]
    rw [or_comm, eq_comm]
  · rw [roster]
    refine List.pairwise_append.2 ⟨h.sorted, List.pairwise_singleton _ _, ?_⟩
    intro a ha b hb
    rw [List.mem_singleton.1 hb]
    exact above a ha
  · rw [roster, next]
    intro other hother
    rcases List.mem_append.1 hother with hother | hother
    · exact Nat.lt_succ_of_lt (h.below other hother)
    · rw [List.mem_singleton.1 hother, number]
      exact Nat.lt_succ_self _
  · rw [next]
    exact fun f hf other hother => Nat.lt_succ_of_lt (h.known f hf other hother)

theorem move {r r' : Run} (move : Move r r') (h : Registry r) : Registry r' := by
  cases move with
  | refused policy candidate why =>
    exact h.same rfl (fun _ => rfl) (by simp) (by simp) (by rintro f ⟨⟩)
  | refreshed now policy candidate x =>
    exact h.same rfl (fun _ => rfl) (by simp) (by simp)
      (by intro f hf; cases hf; exact .inr (.inr rfl))
  | published now policy candidate x repaired =>
    exact h.same rfl (fun _ => rfl) (by simp) (by simp)
      (by intro f hf; cases hf; exact .inr (.inl (FanOut.pending_of_receipts_nil rfl)))
  | coldStarted mark =>
    exact h.same rfl (fun _ => rfl) rfl (Nat.le_refl _)
      (by intro f hf; cases hf; exact .inr (.inl (FanOut.pending_of_receipts_nil rfl)))
  | begunBefore c =>
    exact h.same rfl (fun _ => rfl) rfl (Nat.le_refl _)
      (by intro f hf; cases hf; exact .inr (.inr rfl))
  | told f id rest flight next => exact h.told flight next
  | settled f flight done =>
    exact h.remove (fun id => !(f.having .closed).contains id) rfl (fun _ => rfl)
      (by rw [Store.settle_roster]; congr 1; funext id; simp) rfl (by rintro g ⟨⟩)
  | read => exact h.same rfl (fun _ => rfl) rfl (Nat.le_refl _) (fun f hf => .inl hf)
  | subscribed label capacity id ok => exact h.subscribed ok _
  | turnedAway label capacity why error =>
    obtain ⟨-, roster, next, -⟩ := Store.subscribe_error error
    exact h.same rfl (fun _ => rfl) roster next (fun f hf => .inl hf)
  | unsubscribed id =>
    refine h.remove (fun other => id != other) rfl (fun _ => rfl) ?_ rfl (fun f hf => hf)
    rw [Store.unsubscribe_roster]
    congr 1
    funext other
    by_cases same : id = other
    · simp [same]
    · simp [same, Ne.symm same]
  | took id xs left => exact h.same rfl (fun _ => rfl) rfl (Nat.le_refl _) (fun f hf => .inl hf)
  | detached id => exact h.same rfl (fun _ => rfl) rfl (Nat.le_refl _) (fun f hf => .inl hf)

end Registry

/-- The registry along every run of a new store. -/
theorem registry_after (config : StoreConfig) (instanceId : String) (started : Stamp)
    (acts : List Act) : Registry ((start config instanceId started).after acts) :=
  after_of_move (fun _ _ => Registry.move) acts (Registry.start config instanceId started)

end Run

end AgentState
