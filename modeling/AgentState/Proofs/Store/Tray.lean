/-
AgentState.Proofs.Store.Tray — a subscriber's own end of a store.

What is in the mailbox of a subscriber, what it took out, and what became of
the offers to it follows from the snapshots that it was offered and from what
it did itself between the offers.  Nothing else at the store matters to it.

* `Deed` — what a subscriber does itself; `Run.deeds` — what it does in a
  run, each time with the number of offers before it.
* `Tray` — what a subscriber has at a moment; `Tray.replay` — what it has
  after some offers with its deeds between them.
* `Run.Replayed` — the invariant: it has what the replay says.
-/
import AgentState.Proofs.Store.Known
import AgentState.Proofs.Store.Outline

namespace AgentState

/-! ## Deeds -/

/-- What a subscriber does itself. -/
inductive Deed where
  | receive
  | drain
  | detach
  deriving DecidableEq

/-- What an act is of a subscriber's own. -/
def Act.deed? (id : SubscriberId) : Act → Option Deed
  | .receive i => if i = id then some .receive else none
  | .drain i => if i = id then some .drain else none
  | .detach i => if i = id then some .detach else none
  | _ => none

/-- The snapshots that a subscriber was offered. -/
def Log.offered (id : SubscriberId) (log : Log) : List Snapshot := (offers id log).map Prod.fst

/-- What became of the offers to a subscriber. -/
def Log.receipts (id : SubscriberId) (log : Log) : List Receipt := (offers id log).map Prod.snd

namespace Run

/-- What an act is of a subscriber's own, with the number of offers before it.
Nobody acts before it has a number. -/
def deed? (id : SubscriberId) (r : Run) (a : Act) : Option (Nat × Deed) :=
  if id.number < r.store.nextSubscriber then
    (a.deed? id).map fun d => ((Log.offered id r.log).length, d)
  else none

/-- What a subscriber does itself among some acts, each deed with the number
of offers before it. -/
def deeds (id : SubscriberId) (r : Run) : List Act → List (Nat × Deed)
  | [] => []
  | a :: rest => (r.deed? id a).toList ++ deeds id (r.step a) rest

/-- The deeds among some acts come before those among the acts after them. -/
theorem deeds_append (id : SubscriberId) (bs : List Act) : ∀ (as : List Act) (r : Run),
    r.deeds id (as ++ bs) = r.deeds id as ++ (r.after as).deeds id bs
  | [], _ => rfl
  | a :: as, r => by
      rw [List.cons_append, deeds, deeds, deeds_append id bs as (r.step a), List.append_assoc]
      rfl

end Run

/-! ## Trays -/

/-- What a subscriber has: its mailbox, what it took out of it, and what
became of the offers to it. -/
structure Tray where
  box : Mailbox
  taken : List Snapshot
  receipts : List Receipt

namespace Tray

/-- The tray of a new subscriber. -/
def first (capacity : Nat) (m : Membership) : Tray :=
  ⟨⟨capacity, m.waiting, m.admitted⟩, [], []⟩

/-- The tray after a deed. -/
def deed (t : Tray) : Deed → Tray
  | .receive => ⟨t.box.receive.2, t.taken ++ t.box.receive.1.toList, t.receipts⟩
  | .drain => ⟨t.box.drain.2, t.taken ++ t.box.drain.1, t.receipts⟩
  | .detach => ⟨t.box.detach, t.taken, t.receipts⟩

/-- The tray after an offer. -/
def offer (t : Tray) (x : Snapshot) : Tray :=
  ⟨(t.box.offer x).2, t.taken, t.receipts ++ [(t.box.offer x).1]⟩

/-- The deeds between two offers: those with so many offers before them. -/
def deedsAt (n : Nat) (script : List (Nat × Deed)) : List Deed :=
  (script.filter (fun d => d.1 = n)).map Prod.snd

/-- The tray after some offers, the latest one first, each followed by the
deeds that come before the next one. -/
def replay (t : Tray) (script : List (Nat × Deed)) : List Snapshot → Tray
  | [] => (deedsAt 0 script).foldl deed t
  | x :: xs => (deedsAt (xs.length + 1) script).foldl deed ((replay t script xs).offer x)

variable {t : Tray} {script : List (Nat × Deed)}

/-- Deeds after the latest offer change nothing before. -/
theorem replay_later {n : Nat} (d : Deed) : ∀ {xs : List Snapshot}, xs.length < n →
    t.replay (script ++ [(n, d)]) xs = t.replay script xs
  | [], later => by
      have other : n ≠ 0 := Nat.ne_of_gt later
      simp [replay, deedsAt, other]
  | x :: xs, later => by
      have other : n ≠ xs.length + 1 := Nat.ne_of_gt later
      simp only [replay, replay_later d (Nat.lt_of_succ_lt later)]
      simp [deedsAt, other]

/-- A deed after all offers comes last. -/
theorem replay_deed (d : Deed) : ∀ xs : List Snapshot,
    t.replay (script ++ [(xs.length, d)]) xs = (t.replay script xs).deed d
  | [] => by simp [replay, deedsAt]
  | x :: xs => by
      simp only [replay, List.length_cons, replay_later d (Nat.lt_succ_self xs.length)]
      simp [deedsAt]

/-- An offer after all deeds comes last. -/
theorem replay_offer {xs : List Snapshot} (earlier : ∀ d ∈ script, d.1 ≤ xs.length)
    (x : Snapshot) : t.replay script (x :: xs) = (t.replay script xs).offer x := by
  have none : deedsAt (xs.length + 1) script = [] := by
    refine List.map_eq_nil_iff.2 (List.filter_eq_nil_iff.2 fun d mem => ?_)
    have le := earlier d mem
    simp only [decide_eq_true_eq]
    omega
  simp [replay, none]

/-- Further offers add as many receipts. -/
theorem receipts_replay {xs : List Snapshot} (earlier : ∀ d ∈ script, d.1 ≤ xs.length) :
    ∀ more : List Snapshot, ∃ rs, rs.length = more.length ∧
      (t.replay script (more ++ xs)).receipts = (t.replay script xs).receipts ++ rs
  | [] => ⟨[], rfl, (List.append_nil _).symm⟩
  | x :: more => by
      obtain ⟨rs, length, split⟩ := receipts_replay earlier more
      have earlier' : ∀ d ∈ script, d.1 ≤ (more ++ xs).length := fun d mem =>
        Nat.le_trans (earlier d mem) (by simp)
      refine ⟨rs ++ [((t.replay script (more ++ xs)).box.offer x).1], by simp [length], ?_⟩
      rw [List.cons_append, replay_offer earlier', offer, split, List.append_assoc]

/-- So much of what a subscriber could be sent is what it is sent: all of it, or
the beginning up to the first offer that finds the mailbox closed. -/
structure Course (t : Tray) (script : List (Nat × Deed)) (addressed sent : List Snapshot) :
    Prop where
  earlier : ∀ d ∈ script, d.1 ≤ sent.length
  whole : .closed ∉ (t.replay script sent.reverse).receipts → sent = addressed
  cut : sent <+: addressed
  last : .closed ∉ (t.replay script sent.reverse).receipts.dropLast

namespace Course

variable {addressed sent more : List Snapshot}

/-- Whoever is sent less found the mailbox closed, after which nobody is sent
more. -/
theorem eq_of_prefix (h : Course t script addressed sent) (h' : Course t script addressed more)
    (le : sent <+: more) : sent = more := by
  by_cases closed : .closed ∈ (t.replay script sent.reverse).receipts
  · obtain ⟨rest, rfl⟩ := le
    have earlier : ∀ d ∈ script, d.1 ≤ sent.reverse.length := by
      rw [List.length_reverse]
      exact h.earlier
    obtain ⟨rs, length, split⟩ := receipts_replay (t := t) earlier rest.reverse
    have last := h'.last
    rw [List.reverse_append, split] at last
    cases rs with
    | nil =>
      have none : rest = [] := by simpa using length.symm
      rw [none, List.append_nil]
    | cons r rs =>
      rw [List.dropLast_append_of_ne_nil (List.cons_ne_nil r rs)] at last
      exact absurd (List.mem_append_left _ closed) last
  · have whole := h.whole closed
    exact le.eq_of_length_le (whole ▸ h'.cut.length_le)

/-- What a subscriber is sent follows from what it could be sent and from its
own deeds. -/
theorem unique (h : Course t script addressed sent) (h' : Course t script addressed more) :
    sent = more := by
  rcases List.prefix_or_prefix_of_prefix h.cut h'.cut with le | le
  · exact h.eq_of_prefix h' le
  · exact (h'.eq_of_prefix h le).symm

end Course

/-! ## Trays through a veil -/

end Tray

/-- A mailbox as it is seen through a veil. -/
def Mailbox.veiled (v : Veil) (m : Mailbox) : Mailbox :=
  { m with queue := m.queue.map (·.veiled v) }

namespace Tray

/-- A tray as it is seen through a veil. -/
def veiled (v : Veil) (t : Tray) : Tray :=
  ⟨t.box.veiled v, t.taken.map (·.veiled v), t.receipts⟩

variable {t : Tray} {script : List (Nat × Deed)} (v : Veil)

theorem veiled_deed (d : Deed) : (t.deed d).veiled v = (t.veiled v).deed d := by
  obtain ⟨⟨capacity, queue, attached⟩, taken, receipts⟩ := t
  cases d with
  | receive => cases queue <;> simp [deed, veiled, Mailbox.veiled, Mailbox.receive]
  | drain => simp [deed, veiled, Mailbox.veiled, Mailbox.drain]
  | detach => simp [deed, veiled, Mailbox.veiled, Mailbox.detach]

theorem veiled_deeds (ds : List Deed) : (ds.foldl deed t).veiled v = ds.foldl deed (t.veiled v) := by
  induction ds generalizing t with
  | nil => rfl
  | cons d ds ih => rw [List.foldl_cons, List.foldl_cons, ih, veiled_deed]

/-- A mailbox does not look at what is put into it. -/
theorem veiled_offer (x : Snapshot) : (t.offer x).veiled v = (t.veiled v).offer (x.veiled v) := by
  obtain ⟨⟨capacity, queue, attached⟩, taken, receipts⟩ := t
  by_cases room : queue.length < capacity <;> cases attached <;>
    simp [offer, veiled, Mailbox.veiled, Mailbox.offer, Mailbox.hasRoom, room]

theorem veiled_replay (script : List (Nat × Deed)) : ∀ xs : List Snapshot,
    (t.replay script xs).veiled v = (t.veiled v).replay script (xs.map (·.veiled v))
  | [] => veiled_deeds v _
  | x :: xs => by
      simp only [replay, veiled_deeds, veiled_offer, veiled_replay script xs, List.map_cons,
        List.length_map]

/-- A registration alone decides what a tray begins with. -/
theorem first_hear (capacity : Nat) (m : Membership) (published : Option Snapshot) :
    first capacity (m.hear published) = first capacity m := rfl

/-- An empty tray that nobody holds stays as it is. -/
theorem deed_idle (empty : t.box.queue = []) (given : t.box.attached = false) (d : Deed) :
    t.deed d = t := by
  obtain ⟨⟨capacity, queue, attached⟩, taken, receipts⟩ := t
  cases empty
  cases given
  cases d <;> simp [deed, Mailbox.receive, Mailbox.drain, Mailbox.detach]

end Tray

/-! ## The trays of a run -/

namespace Run

/-- What a subscriber has at a moment. -/
def tray (r : Run) (id : SubscriberId) : Tray :=
  ⟨r.store.box id, Log.taken id r.log, Log.receipts id r.log⟩

/-- What it had when it was registered. -/
def firstTray (r : Run) (id : SubscriberId) : Tray :=
  .first (r.store.box id).capacity (Log.membership id r.log)

/-- A tray after an act of the subscriber's own. -/
theorem tray_own {r : Run} {id : SubscriberId} {a : Act} {d : Deed} (own : a.deed? id = some d) :
    (r.step a).tray id = (r.tray id).deed d ∧ (r.step a).firstTray id = r.firstTray id ∧
      Log.offered id (r.step a).log = Log.offered id r.log := by
  have mine : ∀ {i : SubscriberId} {d' : Deed}, (if i = id then some d' else none) = some d →
      i = id ∧ d' = d := by
    intro i d' own
    split at own
    · next same => exact ⟨same, Option.some.inj own⟩
    · cases own
  -- the capacity stays, and so does what the tray began with
  have first : ∀ (m : Mailbox) (e : Event), m.capacity = (r.store.box id).capacity →
      Log.membership id (e :: r.log) = (Log.membership id r.log).hear none →
        firstTray ⟨r.store.putBox id m, r.flight, e :: r.log⟩ id = r.firstTray id := by
    intro m e capacity membership
    simp only [firstTray, Store.putBox_capacity r.store id capacity, membership,
      Membership.hear_none]
  cases a with
  | receive i =>
    obtain ⟨rfl, rfl⟩ := mine own
    have capacity : (r.store.box i).receive.2.capacity = (r.store.box i).capacity := by
      rw [Mailbox.receive_eq]
    refine ⟨?_, first _ _ capacity rfl, rfl⟩
    simp only [step, Store.receive, tray, Store.putBox_box, if_true, Log.taken, Tray.deed]
    rfl
  | drain i =>
    obtain ⟨rfl, rfl⟩ := mine own
    refine ⟨?_, first _ _ rfl rfl, rfl⟩
    simp only [step, Store.drain, tray, Store.putBox_box, if_true, Log.taken, Tray.deed]
    rfl
  | detach i =>
    obtain ⟨rfl, rfl⟩ := mine own
    refine ⟨?_, first _ _ rfl rfl, rfl⟩
    simp only [step, Store.detach, tray, Store.putBox_box, if_true, Log.taken, Tray.deed]
    rfl
  | write | begin | tell | settle | read | subscribe | unsubscribe => cases own

/-- A subscriber has what a replay of the offers to it and of its deeds
gives it. -/
structure Replayed (id : SubscriberId) (script : List (Nat × Deed)) (r : Run) : Prop where
  fresh : r.store.nextSubscriber ≤ id.number → script = []
  earlier : ∀ d ∈ script, d.1 ≤ (Log.offered id r.log).length
  tray : r.tray id = (r.firstTray id).replay script (Log.offered id r.log).reverse

namespace Replayed

variable {r r' : Run} {id : SubscriberId} {script : List (Nat × Deed)}

theorem start (config : StoreConfig) (instanceId : String) (started : Stamp) :
    Replayed id [] (Run.start config instanceId started) :=
  ⟨fun _ => rfl, (by rintro d ⟨⟩), rfl⟩

/-- A step that the subscriber does not notice. -/
theorem quiet (h : Replayed id script r) {e : Event} (log : r'.log = e :: r.log)
    (box : r'.store.box id = r.store.box id)
    (taken : Log.taken id (e :: r.log) = Log.taken id r.log)
    (offers : Log.offers id (e :: r.log) = Log.offers id r.log)
    (first : ∀ capacity, Tray.first capacity (Log.membership id (e :: r.log)) =
      .first capacity (Log.membership id r.log))
    (next : r.store.nextSubscriber ≤ r'.store.nextSubscriber) : Replayed id script r' where
  fresh := fun new => h.fresh (Nat.le_trans next new)
  earlier := by rw [log, Log.offered, offers]; exact h.earlier
  tray := by
    have tray : r'.tray id = r.tray id := by
      simp only [Run.tray, Log.receipts, log, box, taken, offers]
    have first : r'.firstTray id = r.firstTray id := by
      simp only [firstTray, log, box, first]
    rw [tray, first, log, Log.offered, offers]
    exact h.tray

/-- A deed of the subscriber. -/
theorem did (h : Replayed id script r) (d : Deed) (known : id.number < r.store.nextSubscriber)
    (tray : r'.tray id = (r.tray id).deed d) (first : r'.firstTray id = r.firstTray id)
    (offered : Log.offered id r'.log = Log.offered id r.log)
    (next : r.store.nextSubscriber ≤ r'.store.nextSubscriber) :
    Replayed id (script ++ [((Log.offered id r.log).length, d)]) r' where
  fresh := fun new => absurd (Nat.lt_of_lt_of_le known (Nat.le_trans next new)) (Nat.lt_irrefl _)
  earlier := by
    rw [offered]
    intro d' mem
    rcases List.mem_append.1 mem with mem | mem
    · exact h.earlier d' mem
    · exact Nat.le_of_eq (by rw [List.mem_singleton.1 mem])
  tray := by
    rw [tray, first, offered, h.tray, ← List.length_reverse, Tray.replay_deed]

/-- An offer to the subscriber. -/
theorem wasOffered (h : Replayed id script r) (x : Snapshot)
    (tray : r'.tray id = (r.tray id).offer x) (first : r'.firstTray id = r.firstTray id)
    (offered : Log.offered id r'.log = Log.offered id r.log ++ [x])
    (next : r.store.nextSubscriber ≤ r'.store.nextSubscriber) : Replayed id script r' where
  fresh := fun new => h.fresh (Nat.le_trans next new)
  earlier := by
    rw [offered, List.length_append]
    exact fun d mem => Nat.le_add_right_of_le (h.earlier d mem)
  tray := by
    have earlier : ∀ d ∈ script, d.1 ≤ (Log.offered id r.log).reverse.length := by
      rw [List.length_reverse]
      exact h.earlier
    rw [tray, first, offered, h.tray, List.reverse_append, List.reverse_singleton,
      List.singleton_append, Tray.replay_offer earlier]

/-- The registration of the subscriber. -/
theorem joined (h : Replayed id script r) (feed : Feed r id) {label : String} {capacity : UInt64}
    (ok : (r.store.subscribe label capacity).1 = .ok id) :
    Replayed id script ⟨(r.store.subscribe label capacity).2, r.flight,
      .subscribed id r.store.current.toList :: r.log⟩ := by
  obtain ⟨number, -, -, next, boxes⟩ := Store.subscribe_ok ok
  have new : r.store.nextSubscriber ≤ id.number := Nat.le_of_eq (by rw [number])
  have old := feed.unheard new
  have offers : Log.offers id (.subscribed id r.store.current.toList :: r.log) = [] := old.offers
  have taken : Log.taken id (.subscribed id r.store.current.toList :: r.log) = [] := old.taken
  have box := boxes id
  rw [if_pos rfl] at box
  refine ⟨fun _ => h.fresh new, by rw [h.fresh new]; rintro d ⟨⟩, ?_⟩
  rw [h.fresh new]
  simp [Run.tray, firstTray, Log.offered, Log.receipts, offers, taken, box, Log.membership,
    Membership.join, Tray.first, Tray.replay, Tray.deedsAt]

/-- An act of the subscriber's own is a deed, if it has a number; before, it
has nothing to act on. -/
theorem own (h : Replayed id script r) (feed : Feed r id) {a : Act} {d : Deed}
    (own : a.deed? id = some d) : Replayed id (script ++ (r.deed? id a).toList) (r.step a) := by
  have next : (r.step a).store.nextSubscriber = r.store.nextSubscriber := by
    cases a <;> first | rfl | cases own
  obtain ⟨tray, first, offered⟩ : (r.step a).tray id = (r.tray id).deed d ∧
      (r.step a).firstTray id = r.firstTray id ∧
      Log.offered id (r.step a).log = Log.offered id r.log :=
    tray_own own
  unfold Run.deed?
  split
  · next known =>
    rw [own]
    exact h.did d known tray first offered (Nat.le_of_eq next.symm)
  · next new =>
    have old := feed.unheard (Nat.le_of_not_lt new)
    rw [Tray.deed_idle old.queue old.detached] at tray
    rw [Option.toList_none, List.append_nil]
    refine ⟨fun _ => h.fresh (Nat.le_of_not_lt new), ?_, ?_⟩
    · rw [offered]
      exact h.earlier
    · rw [tray, first, offered]
      exact h.tray

/-- An offer to somebody. -/
theorem told (h : Replayed id script r) (other : SubscriberId) (x : Snapshot)
    (flight : Option FanOut) :
    Replayed id script ⟨(r.store.offer other x).2, flight,
      .told other x (r.store.offer other x).1 :: r.log⟩ := by
  have capacity : ((r.store.offer other x).2.box id).capacity = (r.store.box id).capacity :=
    Store.putBox_capacity r.store other (Mailbox.offer_capacity _ _) id
  by_cases mine : other = id
  · subst mine
    refine h.wasOffered x ?_ ?_ ?_ (Nat.le_refl _)
    · simp only [Run.tray, Store.offer_box, Store.offer_receipt, if_true, Tray.offer, Log.receipts,
        Log.offers, List.map_append]
      rfl
    · simp only [firstTray, capacity, Log.membership, Tray.first_hear]
    · simp [Log.offered, Log.offers]
  · have record := SameRecord.told mine r.log x (r.store.offer other x).1
    refine h.quiet rfl ?_ record.taken record.offers (fun _ => rfl) (Nat.le_refl _)
    rw [Store.offer_box, if_neg (Ne.symm mine)]

/-- An act that is not the subscriber's own. -/
theorem others (h : Replayed id script r) (feed : Feed r id) {a : Act} (own : a.deed? id = none) :
    Replayed id script (r.step a) := by
  have apart : ∀ {i : SubscriberId} {d : Deed}, (if i = id then some d else none) = none →
      id ≠ i := by
    rintro i d own rfl
    rw [if_pos rfl] at own
    cases own
  have next : r.store.nextSubscriber ≤ (r.step a).store.nextSubscriber := by
    rcases step_move r a with same | move
    · exact Nat.le_of_eq (by rw [same])
    · exact move_next move
  cases a with
  | write now policy x =>
    simp only [step] at next ⊢
    split
    · exact h
    · next free =>
      rw [free] at next
      exact h.quiet rfl (Store.commit_box _ _ _ _ _) rfl rfl (fun _ => rfl) next
  | begin mark =>
    simp only [step] at next ⊢
    split
    · exact h
    · next free =>
      rw [free] at next
      exact h.quiet rfl (Store.coldStart_box _ _ _) rfl rfl (fun _ => rfl) next
  | tell =>
    simp only [step] at next ⊢
    split
    · exact h
    · split
      · exact h
      · exact h.told _ _ _
  | settle =>
    simp only [step] at next ⊢
    split
    · exact h
    · split
      · exact h.quiet rfl rfl rfl rfl (fun _ => rfl) (Nat.le_refl _)
      · exact h
  | read => exact h.quiet rfl rfl rfl rfl (fun _ => rfl) next
  | subscribe label capacity =>
    rcases step_subscribe r label capacity with ⟨i, ok, moment⟩ | ⟨why, error, moment⟩ <;>
      rw [moment] at next ⊢
    · by_cases mine : i = id
      · subst mine
        exact h.joined feed ok
      · have record := SameRecord.subscribed mine r.log r.store.current.toList
        refine h.quiet rfl ?_ record.taken record.offers (fun capacity => ?_) next
        · rw [(Store.subscribe_ok ok).2.2.2.2 id, if_neg (Ne.symm mine)]
        · rw [Log.membership, if_neg mine]
    · exact h.quiet rfl ((Store.subscribe_error error).2.2.2 id) rfl rfl (fun _ => rfl) next
  | unsubscribe i =>
    refine h.quiet rfl rfl rfl rfl (fun capacity => ?_) next
    simp only [Log.membership]
    split <;> rfl
  | receive i =>
    refine h.quiet rfl ?_ ?_ rfl (fun _ => rfl) next
    · exact (Store.putBox_box _ _ _ _).trans (if_neg (apart own))
    · simp [Log.taken, Ne.symm (apart own)]
  | drain i =>
    refine h.quiet rfl ?_ ?_ rfl (fun _ => rfl) next
    · exact (Store.putBox_box _ _ _ _).trans (if_neg (apart own))
    · simp [Log.taken, Ne.symm (apart own)]
  | detach i =>
    refine h.quiet rfl ?_ rfl rfl (fun _ => rfl) next
    exact (Store.putBox_box _ _ _ _).trans (if_neg (apart own))

/-- A step adds the deed that it is, if it is one. -/
theorem step (h : Replayed id script r) (feed : Feed r id) (a : Act) :
    Replayed id (script ++ (r.deed? id a).toList) (r.step a) := by
  cases own : a.deed? id with
  | some d => exact h.own feed own
  | none =>
    have none : r.deed? id a = none := by simp [Run.deed?, own]
    rw [none, Option.toList_none, List.append_nil]
    exact h.others feed own

end Replayed

/-- Along every run of a new store a subscriber has what the offers to it and
its own deeds give it. -/
theorem replayed_after (config : StoreConfig) (instanceId : String) (started : Stamp)
    (id : SubscriberId) (acts : List Act) :
    Replayed id ((start config instanceId started).deeds id acts)
      ((start config instanceId started).after acts) := by
  induction acts using List.reverseRecOn with
  | nil => exact Replayed.start config instanceId started
  | append_singleton acts a ih =>
    have feed := feed_after config instanceId started acts id
    rw [deeds_append, after_append]
    have last : ((start config instanceId started).after acts).deeds id [a] =
        (((start config instanceId started).after acts).deed? id a).toList :=
      List.append_nil _
    rw [last]
    exact ih.step feed a

end Run

end AgentState
