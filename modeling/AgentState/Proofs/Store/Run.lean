/-
AgentState.Proofs.Store.Run — what can happen at a store, in any order.

A write is a commit, one offer for every subscriber that was registered
then, and the accounting; the gate lets the next write in when that is over.
Between any two of these steps others may read, subscribe, unsubscribe,
receive, or give their mailbox up.

* `Act` — one such step, `Run.step` — what it does.  An act that cannot
  happen at the moment (a write while another one holds the gate, an offer
  without a fan-out) leaves the run as it is.
* `Event`, `Log` — what happened, newest first.  `Log.commits`, `Log.fed`,
  `Log.due` and their like read it.
* `Run.Move` — everything that a step can do, one case for each outcome;
  `Run.step_move` is the inversion that every invariant of runs rests on.
-/
import Mathlib.Data.List.Induction
import AgentState.Proofs.Store.Frame

namespace AgentState

/-- One step of somebody at a store.  A writer's turn begins with `write` or
`begin`.  `tell` ends the offer to the next subscriber in line: an offer to a
full mailbox waits, and what others do while it waits comes before it. -/
inductive Act where
  | write (now : Stamp) (policy : VersionPolicy) (candidate : Snapshot)
  | begin (mark : Mark)
  | tell
  | settle
  | read
  | subscribe (label : String) (capacity : UInt64)
  | unsubscribe (id : SubscriberId)
  | receive (id : SubscriberId)
  | drain (id : SubscriberId)
  | detach (id : SubscriberId)

/-- What happened at a store. -/
inductive Event where
  | written (policy : VersionPolicy) (candidate : Snapshot) (verdict : Verdict)
  | begun (snapshot : Snapshot) (cold : Bool)
  | told (id : SubscriberId) (snapshot : Snapshot) (receipt : Receipt)
  | settled (fanOut : FanOut)
  | read (found : Option Snapshot)
  | subscribed (id : SubscriberId) (waiting : List Snapshot)
  | turnedAway (why : StoreError)
  | unsubscribed (id : SubscriberId) (found : Bool)
  | taken (id : SubscriberId) (snapshots : List Snapshot)
  | detached (id : SubscriberId)

/-- What happened at a store, newest first. -/
abbrev Log := List Event

/-! ## Reading a log -/

namespace Event

/-- The snapshot that became the current one, to be told to everybody. -/
def published? : Event → Option Snapshot
  | .written _ _ (.publish x _) => some x
  | .begun x true => some x
  | _ => none

/-- The snapshot that became the current one. -/
def committed? : Event → Option Snapshot
  | .written _ _ (.refresh x) => some x
  | e => e.published?

/-- What is published becomes current. -/
theorem committed?_of_published {e : Event} {x : Snapshot} (published : e.published? = some x) :
    e.committed? = some x := by
  cases e with
  | written policy candidate v => cases v <;> first | exact published | cases published
  | _ => exact published

end Event

namespace Log

/-- The snapshots that became current, in this order. -/
def commits : Log → List Snapshot
  | [] => []
  | e :: past =>
      match e.committed? with
      | some x => commits past ++ [x]
      | none => commits past

/-- The snapshot that became current last. -/
def latest (log : Log) : Option Snapshot := (commits log).getLast?

theorem latest_cons (e : Event) (past : Log) :
    latest (e :: past) = e.committed?.or (latest past) := by
  simp only [latest, commits]
  cases e.committed? with
  | some x => simp
  | none => rfl

/-- A commit is not forgotten. -/
theorem mem_commits_cons {x : Snapshot} {past : Log} (e : Event) (h : x ∈ commits past) :
    x ∈ commits (e :: past) := by
  simp only [commits]
  cases e.committed? with
  | some y => exact List.mem_append_left _ h
  | none => exact h

theorem commits_cons {e : Event} {x : Snapshot} (h : e.committed? = some x) (past : Log) :
    commits (e :: past) = commits past ++ [x] := by
  simp [commits, h]

theorem commits_cons_quiet {e : Event} (h : e.committed? = none) (past : Log) :
    commits (e :: past) = commits past := by
  simp [commits, h]

/-- What the reads found, in this order. -/
def reads : Log → List (Option Snapshot)
  | [] => []
  | .read found :: past => reads past ++ [found]
  | _ :: past => reads past

/-- Whether a subscriber was registered and not removed since. -/
def registered (id : SubscriberId) : Log → Bool
  | [] => false
  | .subscribed i _ :: past => i == id || registered id past
  | .unsubscribed i _ :: past => i != id && registered id past
  | .settled f :: past => !(f.having .closed).contains id && registered id past
  | _ :: past => registered id past

/-- The snapshots that were ever put into a subscriber's mailbox, in this
order. -/
def fed (id : SubscriberId) : Log → List Snapshot
  | [] => []
  | .subscribed i waiting :: past => fed id past ++ if i = id then waiting else []
  | .told i x .taken :: past => fed id past ++ if i = id then [x] else []
  | _ :: past => fed id past

/-- The snapshots that were taken out of a subscriber's mailbox, in this
order. -/
def taken (id : SubscriberId) : Log → List Snapshot
  | [] => []
  | .taken i xs :: past => taken id past ++ if i = id then xs else []
  | _ :: past => taken id past

/-- The current snapshot at the time when a subscriber was registered. -/
def caughtUp (id : SubscriberId) : Log → Option Snapshot
  | [] => none
  | .subscribed i _ :: past => if i = id then latest past else caughtUp id past
  | _ :: past => caughtUp id past

/-- The snapshots that were published while a subscriber was registered, in
this order. -/
def due (id : SubscriberId) : Log → List Snapshot
  | [] => []
  | e :: past =>
      match e.published? with
      | some x => due id past ++ if registered id past then [x] else []
      | none => due id past

/-- The offers that were made to a subscriber, in this order. -/
def offers (id : SubscriberId) : Log → List (Snapshot × Receipt)
  | [] => []
  | .told i x r :: past => offers id past ++ if i = id then [(x, r)] else []
  | _ :: past => offers id past

/-- The snapshots whose offer timed out or found the mailbox closed. -/
def lost (id : SubscriberId) (log : Log) : List Snapshot :=
  ((offers id log).filter (fun o => o.2 ≠ .taken)).map Prod.fst

/-- What became current before stays in front. -/
theorem commits_append : ∀ later past : Log,
    ∃ more, commits (later ++ past) = commits past ++ more
  | [], past => ⟨[], (List.append_nil _).symm⟩
  | e :: later, past => by
      obtain ⟨more, split⟩ := commits_append later past
      cases committed : e.committed? with
      | some x =>
        refine ⟨more ++ [x], ?_⟩
        rw [List.cons_append, commits_cons committed, split, List.append_assoc]
      | none =>
        refine ⟨more, ?_⟩
        rw [List.cons_append, commits_cons_quiet committed, split]

/-- Something holds of every event and what was before it. -/
def Each (P : Event → Log → Prop) : Log → Prop
  | [] => True
  | e :: past => P e past ∧ Each P past

theorem Each.at {P : Event → Log → Prop} {e : Event} {past : Log} :
    ∀ {log later : Log}, Each P log → log = later ++ e :: past → P e past
  | [], later, _, h => by
      cases later <;> cases h
  | _ :: _, [], each, h => by
      cases h
      exact each.1
  | _ :: _, _ :: _, each, h => by
      cases h
      exact Each.at each.2 rfl

end Log

/-! ## Runs -/

namespace FanOut

/-- The subscribers that still have to be told. -/
def pending (f : FanOut) : List SubscriberId := f.targets.drop f.receipts.length

end FanOut

/-- A store, the write that holds its gate, and what happened so far. -/
structure Run where
  store : Store
  flight : Option FanOut
  log : Log

namespace Run

/-- Before anything happened. -/
def start (config : StoreConfig) (instanceId : String) (started : Stamp) : Run :=
  ⟨.empty config instanceId started, none, []⟩

/-- The snapshot on its way to a subscriber in the fan-out under way. -/
def pending (r : Run) (id : SubscriberId) : List Snapshot :=
  match r.flight with
  | some f => if id ∈ f.pending then [f.snapshot] else []
  | none => []

/-- One act. -/
def step (r : Run) : Act → Run
  | .write now policy candidate =>
      match r.flight with
      | some _ => r
      | none =>
          let (answer, store) := r.store.commit now policy candidate
          ⟨store, answer.toOption,
            .written policy candidate (judge r.store.current policy candidate) :: r.log⟩
  | .begin mark =>
      match r.flight with
      | some _ => r
      | none =>
          let (f, store) := r.store.coldStart mark
          ⟨store, some f, .begun f.snapshot r.store.current.isNone :: r.log⟩
  | .tell =>
      match r.flight with
      | none => r
      | some f =>
          match f.pending with
          | [] => r
          | id :: _ =>
              let (receipt, store) := r.store.offer id f.snapshot
              ⟨store, some (f.note id receipt), .told id f.snapshot receipt :: r.log⟩
  | .settle =>
      match r.flight with
      | none => r
      | some f =>
          if f.pending = [] then ⟨r.store.settle f, none, .settled f :: r.log⟩ else r
  | .read =>
      let (found, store) := r.store.get
      ⟨store, r.flight, .read found :: r.log⟩
  | .subscribe label capacity =>
      match r.store.subscribe label capacity with
      | (.ok id, store) => ⟨store, r.flight, .subscribed id (store.box id).queue :: r.log⟩
      | (.error e, store) => ⟨store, r.flight, .turnedAway e :: r.log⟩
  | .unsubscribe id =>
      let (found, store) := r.store.unsubscribe id
      ⟨store, r.flight, .unsubscribed id found :: r.log⟩
  | .receive id =>
      let (found, store) := r.store.receive id
      ⟨store, r.flight, .taken id found.toList :: r.log⟩
  | .drain id =>
      let (found, store) := r.store.drain id
      ⟨store, r.flight, .taken id found :: r.log⟩
  | .detach id => ⟨r.store.detach id, r.flight, .detached id :: r.log⟩

/-- Acts one after the other. -/
def after (r : Run) (acts : List Act) : Run := acts.foldl step r

/-- What follows some acts is what follows the rest of them. -/
theorem after_append (r : Run) (as bs : List Act) : r.after (as ++ bs) = (r.after as).after bs :=
  List.foldl_append

/-- Whatever every step keeps, every run keeps. -/
theorem after_induction {P : Run → Prop} (keep : ∀ r a, P r → P (r.step a)) :
    ∀ (acts : List Act) (r : Run), P r → P (r.after acts)
  | [], _, h => h
  | a :: rest, r, h => after_induction keep rest (r.step a) (keep r a h)

/-! ## What a step can do -/

/-- The outcomes of a step that does something. -/
inductive Move (r : Run) : Run → Prop where
  | refused (policy : VersionPolicy) (candidate : Snapshot) (why : StoreError)
      (free : r.flight = none) (judged : judge r.store.current policy candidate = .refuse why) :
      Move r ⟨r.store.tally (.refuse why), none,
        .written policy candidate (.refuse why) :: r.log⟩
  | refreshed (now : Stamp) (policy : VersionPolicy) (candidate x : Snapshot)
      (free : r.flight = none) (judged : judge r.store.current policy candidate = .refresh x) :
      Move r ⟨(r.store.tally (.refresh x)).install now x, some ⟨x, [], []⟩,
        .written policy candidate (.refresh x) :: r.log⟩
  | published (now : Stamp) (policy : VersionPolicy) (candidate x : Snapshot) (repaired : Bool)
      (free : r.flight = none)
      (judged : judge r.store.current policy candidate = .publish x repaired) :
      Move r ⟨(r.store.tally (.publish x repaired)).install now x, some (r.store.announce x),
        .written policy candidate (.publish x repaired) :: r.log⟩
  | coldStarted (mark : Mark) (free : r.flight = none) (empty : r.store.current = none) :
      Move r ⟨r.store.install mark.stamp (.coldStart mark r.store.instanceId),
        some (r.store.announce (.coldStart mark r.store.instanceId)),
        .begun (.coldStart mark r.store.instanceId) true :: r.log⟩
  | begunBefore (c : Snapshot) (free : r.flight = none) (filled : r.store.current = some c) :
      Move r ⟨r.store, some ⟨c, [], []⟩, .begun c false :: r.log⟩
  | told (f : FanOut) (id : SubscriberId) (rest : List SubscriberId)
      (flight : r.flight = some f) (next : f.pending = id :: rest) :
      Move r ⟨(r.store.offer id f.snapshot).2, some (f.note id (r.store.offer id f.snapshot).1),
        .told id f.snapshot (r.store.offer id f.snapshot).1 :: r.log⟩
  | settled (f : FanOut) (flight : r.flight = some f) (done : f.pending = []) :
      Move r ⟨r.store.settle f, none, .settled f :: r.log⟩
  | read : Move r ⟨r.store.get.2, r.flight, .read r.store.current :: r.log⟩
  | subscribed (label : String) (capacity : UInt64) (id : SubscriberId)
      (ok : (r.store.subscribe label capacity).1 = .ok id) :
      Move r ⟨(r.store.subscribe label capacity).2, r.flight,
        .subscribed id r.store.current.toList :: r.log⟩
  | turnedAway (label : String) (capacity : UInt64) (why : StoreError)
      (error : (r.store.subscribe label capacity).1 = .error why) :
      Move r ⟨(r.store.subscribe label capacity).2, r.flight, .turnedAway why :: r.log⟩
  | unsubscribed (id : SubscriberId) :
      Move r ⟨(r.store.unsubscribe id).2, r.flight,
        .unsubscribed id (r.store.isRegistered id) :: r.log⟩
  | took (id : SubscriberId) (xs left : List Snapshot)
      (split : (r.store.box id).queue = xs ++ left) :
      Move r ⟨r.store.putBox id { r.store.box id with queue := left }, r.flight,
        .taken id xs :: r.log⟩
  | detached (id : SubscriberId) : Move r ⟨r.store.detach id, r.flight, .detached id :: r.log⟩

/-- A write that finds the gate free ends in one of three ways. -/
theorem step_write (r : Run) (now : Stamp) (policy : VersionPolicy) (candidate : Snapshot)
    (free : r.flight = none) : Move r (r.step (.write now policy candidate)) := by
  simp only [step, free, Store.commit]
  cases judged : judge r.store.current policy candidate with
  | refuse why => exact .refused policy candidate why free judged
  | refresh x => exact .refreshed now policy candidate x free judged
  | publish x repaired =>
    have same : (r.store.tally (.publish x repaired)).announce x = r.store.announce x := by
      simp [Store.announce]
    simpa [same, Except.toOption] using Move.published now policy candidate x repaired free judged

/-- A cold start that finds the gate free commits or finds a snapshot. -/
theorem step_begin (r : Run) (mark : Mark) (free : r.flight = none) :
    Move r (r.step (.begin mark)) := by
  simp only [step, free, Store.coldStart]
  cases current : r.store.current with
  | none => exact .coldStarted mark free current
  | some c => exact .begunBefore c free current

/-- A registration succeeds or is refused. -/
theorem step_subscribe (r : Run) (label : String) (capacity : UInt64) :
    (∃ id, (r.store.subscribe label capacity).1 = .ok id ∧
      r.step (.subscribe label capacity) = ⟨(r.store.subscribe label capacity).2, r.flight,
        .subscribed id r.store.current.toList :: r.log⟩) ∨
    ∃ why, (r.store.subscribe label capacity).1 = .error why ∧
      r.step (.subscribe label capacity) = ⟨(r.store.subscribe label capacity).2, r.flight,
        .turnedAway why :: r.log⟩ := by
  simp only [step]
  cases answer : (r.store.subscribe label capacity).1 with
  | ok id =>
    left
    obtain ⟨-, -, -, -, boxes⟩ := Store.subscribe_ok answer
    have waiting : ((r.store.subscribe label capacity).2.box id).queue =
        r.store.current.toList := by
      rw [boxes id, if_pos rfl]
    rw [← waiting]
    revert answer
    cases r.store.subscribe label capacity with
    | mk answer store =>
      rintro rfl
      exact ⟨id, rfl, rfl⟩
  | error why =>
    right
    revert answer
    cases r.store.subscribe label capacity with
    | mk answer store =>
      rintro rfl
      exact ⟨why, rfl, rfl⟩

/-- A step does nothing, or it is one of the moves. -/
theorem step_move (r : Run) (a : Act) : r.step a = r ∨ Move r (r.step a) := by
  cases a with
  | write now policy candidate =>
    cases flight : r.flight with
    | some f => left; simp [step, flight]
    | none => right; exact step_write r now policy candidate flight
  | begin mark =>
    cases flight : r.flight with
    | some f => left; simp [step, flight]
    | none => right; exact step_begin r mark flight
  | tell =>
    cases flight : r.flight with
    | none => left; simp [step, flight]
    | some f =>
      cases next : f.pending with
      | nil => left; simp [step, flight, next]
      | cons id rest =>
        right
        simp only [step, flight, next]
        exact .told f id rest flight next
  | settle =>
    cases flight : r.flight with
    | none => left; simp [step, flight]
    | some f =>
      by_cases done : f.pending = []
      · right
        simp only [step, flight, done, if_true]
        exact .settled f flight done
      · left; simp [step, flight, done]
  | read => right; exact .read
  | subscribe label capacity =>
    right
    rcases step_subscribe r label capacity with ⟨id, ok, moment⟩ | ⟨why, error, moment⟩ <;>
      rw [moment]
    · exact .subscribed label capacity id ok
    · exact .turnedAway label capacity why error
  | unsubscribe id => right; exact .unsubscribed id
  | receive id =>
    right
    simp only [step, Store.receive, Mailbox.receive_eq]
    refine .took id _ _ ?_
    cases (r.store.box id).queue <;> rfl
  | drain id => right; exact .took id (r.store.box id).queue [] (List.append_nil _).symm
  | detach id => right; exact .detached id

/-- Whatever every move keeps, every run keeps. -/
theorem after_of_move {P : Run → Prop} (keep : ∀ r r', Move r r' → P r → P r')
    (acts : List Act) {r : Run} (h : P r) : P (r.after acts) := by
  refine after_induction (fun r a h => ?_) acts r h
  rcases step_move r a with same | move
  · rwa [same]
  · exact keep r _ move h

/-- The settings of a store stay as they are. -/
theorem config_after (config : StoreConfig) (instanceId : String) (started : Stamp)
    (acts : List Act) : ((start config instanceId started).after acts).store.config = config := by
  refine after_of_move (P := fun r => r.store.config = config) (fun r r' move before => ?_) acts rfl
  cases move with
  | refused | refreshed | published | subscribed | turnedAway => simp [before]
  | coldStarted | begunBefore | told | settled | read | unsubscribed | took | detached =>
    exact before

/-- A move adds one event to the log. -/
theorem Move.log {r r' : Run} (move : Move r r') : ∃ e, r'.log = e :: r.log := by
  cases move <;> exact ⟨_, rfl⟩

/-- What was logged stays logged. -/
theorem after_log (acts : List Act) : ∀ r : Run, ∃ later, (r.after acts).log = later ++ r.log := by
  induction acts with
  | nil => exact fun r => ⟨[], rfl⟩
  | cons a rest ih =>
    intro r
    obtain ⟨later, log⟩ := ih (r.step a)
    rcases step_move r a with same | move
    · rw [same] at log
      exact ⟨later, by rw [← log]; show ((r.step a).after rest).log = _; rw [same]⟩
    · obtain ⟨e, one⟩ := move.log
      refine ⟨later ++ [e], ?_⟩
      show ((r.step a).after rest).log = _
      rw [log, one, List.append_assoc]
      rfl

/-- Every moment of a run is the end of a run of its own. -/
theorem exists_moment {r : Run} (new : r.log = []) {past : Log} :
    ∀ {acts : List Act} {later : Log}, (r.after acts).log = later ++ past →
      ∃ before, (r.after before).log = past := by
  intro acts
  induction acts using List.reverseRecOn with
  | nil =>
    intro later h
    have none : later ++ past = [] := h.symm.trans new
    exact ⟨[], new.trans (List.append_eq_nil_iff.1 none).2.symm⟩
  | append_singleton acts a ih =>
    intro later h
    have split : ((r.after acts).step a).log = later ++ past := by
      rw [after_append] at h
      exact h
    rcases step_move (r.after acts) a with same | move
    · rw [same] at split
      exact ih split
    · obtain ⟨e, log⟩ := move.log
      cases later with
      | nil => exact ⟨acts ++ [a], h⟩
      | cons e' later =>
        rw [log, List.cons_append, List.cons.injEq] at split
        exact ih split.2

end Run

end AgentState
