/-
AgentState.Proofs.Rule.Walk — what the steps of a table make of a snapshot.

A walk takes one step after the other, each under its own conditions.  A
step moves the machine if the first rule that applies leads to another
state; only such steps count, and only they are recorded.

* `RuleTable.mover?`, `RuleTable.movers` — the rules that move the machine;
  `RuleTable.changes` — how often the computed state is another one.
* `RuleTable.walk`, `RuleTable.trail` — where the steps lead, and over which
  snapshots.
* `Snapshot.Leads` — what one snapshot says of an earlier one, with the
  transitions between them; `Leads.trans` — one stretch after the other.
* `RuleTable.leads_step` — one step, `RuleTable.leads_walk` — a whole walk.
* `RuleTable.isChain_trail`, `RuleTable.kept_of_mem_trail` — the snapshots on
  the way.
* `walk_coherent` — the statement over walks.
-/
import Mathlib.Data.List.Chain
import AgentState.Rule

namespace AgentState

/-! ## Counting up to the end of a range -/

namespace Snapshot

theorem toNat_bumpVersion (v : UInt64) :
    (bumpVersion v).toNat = min (v.toNat + 1) (UInt64.size - 1) := by
  have bound : v.toNat < UInt64.size := v.toNat_lt_size
  unfold bumpVersion
  split
  · next room =>
    rw [UInt64.toNat_add, UInt64.toNat_one, Nat.mod_eq_of_lt room]
    omega
  · omega

theorem toNat_bumpAttempts (n : UInt32) :
    (bumpAttempts n).toNat = min (n.toNat + 1) (UInt32.size - 1) := by
  have bound : n.toNat < UInt32.size := n.toNat_lt_size
  unfold bumpAttempts
  split
  · next room =>
    rw [UInt32.toNat_add, UInt32.toNat_one, Nat.mod_eq_of_lt room]
    omega
  · omega

end Snapshot

/-! ## The rules that move the machine -/

namespace RuleTable

/-- The rule that moves the machine out of a state: the first that applies,
if it leads to another state.  Nothing leads out of the unspecified state. -/
def mover? (t : RuleTable) (q : State) (k : Conditions) : Option Rule :=
  if q = .unspecified then none
  else (t.rules.find? (fun r => r.applies q k)).filter (fun r => r.target ≠ q)

/-- The rules that move the machine under conditions that follow each
other. -/
def movers (t : RuleTable) : State → List Conditions → List Rule
  | _, [] => []
  | q, k :: ks => (t.mover? q k).toList ++ movers t (t.next q k).1 ks

/-- How often the computed state is another one than before. -/
def changes (t : RuleTable) : State → List Conditions → Nat
  | _, [] => 0
  | q, k :: ks => (if (t.next q k).1 = q then 0 else 1) + changes t (t.next q k).1 ks

variable {t : RuleTable} {q : State} {k : Conditions} {r : Rule}

/-- A rule that moves the machine is the answer, and starts where the machine
is. -/
theorem next_of_mover (moves : t.mover? q k = some r) :
    t.next q k = (r.target, r.trigger) ∧ r.source = q ∧ r.target ≠ q := by
  unfold mover? at moves
  split at moves
  · cases moves
  · next specified =>
    obtain ⟨first, other⟩ := Option.filter_eq_some_iff.1 moves
    have applies : r.applies q k = true := by simpa using List.find?_some first
    have source : q = r.source := by
      simp only [Rule.applies, Bool.and_eq_true, beq_iff_eq] at applies
      exact applies.1
    refine ⟨?_, source.symm, by simpa using other⟩
    simp only [next, specified, if_false, first]

/-- Without such a rule the state holds. -/
theorem next_of_no_mover (none : t.mover? q k = none) : (t.next q k).1 = q := by
  unfold mover? at none
  unfold next
  split at none
  · next unspecified => rw [if_pos unspecified]
  · next specified =>
    rw [if_neg specified]
    cases first : t.rules.find? (fun r => r.applies q k) with
    | none => rfl
    | some r =>
      rw [first] at none
      simpa using none

/-- The state changes once for each rule that moves the machine. -/
theorem length_movers (t : RuleTable) : ∀ (ks : List Conditions) (q : State),
    (t.movers q ks).length = t.changes q ks
  | [], _ => rfl
  | k :: ks, q => by
      rw [movers, changes, List.length_append, length_movers t ks]
      congr 1
      cases moves : t.mover? q k with
      | none => rw [if_pos (next_of_no_mover moves)]; rfl
      | some r =>
        obtain ⟨answer, -, other⟩ := next_of_mover moves
        rw [answer, if_neg other]
        rfl

/-! ## Walks -/

/-- Where steps lead that are taken one after the other. -/
def walk (t : RuleTable) (s : Snapshot) (steps : List (StepMark × Conditions)) : Snapshot :=
  steps.foldl (fun s step => (t.step step.1 s step.2).1) s

/-- The snapshots that such steps make. -/
def trail (t : RuleTable) : Snapshot → List (StepMark × Conditions) → List Snapshot
  | _, [] => []
  | s, (mark, k) :: rest => (t.step mark s k).1 :: trail t (t.step mark s k).1 rest

/-- A walk ends with the last snapshot of its trail. -/
theorem getLast?_trail (t : RuleTable) : ∀ (steps : List (StepMark × Conditions)) (s : Snapshot),
    (s :: t.trail s steps).getLast? = some (t.walk s steps)
  | [], _ => rfl
  | (mark, k) :: rest, s => by
      rw [trail, List.getLast?_cons_cons, getLast?_trail t rest]
      rfl

end RuleTable

/-! ## What a snapshot says of an earlier one -/

/-- `x` was reached from `s` by the transitions `ts`. -/
structure Snapshot.Leads (s : Snapshot) (ts : List Transition) (x : Snapshot) : Prop where
  version : x.version.toNat = min (s.version.toNat + ts.length) (UInt64.size - 1)
  attempts : x.attempts.toNat = min (s.attempts.toNat + ts.length) (UInt32.size - 1)
  history : x.history.transitions = s.history.transitions ++ ts
  joined : ts.map Transition.source ++ [x.state] = s.state :: ts.map Transition.target
  moving : ∀ tr ∈ ts, tr.changesState = true
  prevState : x.prevState = (ts.getLast?.map Transition.source).or s.prevState
  instanceId : x.instanceId = s.instanceId
  sourceModule : x.sourceModule = s.sourceModule
  context : x.context = s.context
  metadata : x.metadata = s.metadata

namespace Snapshot.Leads

variable {s x y : Snapshot} {ts us : List Transition}

theorem refl (s : Snapshot) : Leads s [] s where
  version := by
    have bound : s.version.toNat < UInt64.size := s.version.toNat_lt_size
    simp only [List.length_nil]
    omega
  attempts := by
    have bound : s.attempts.toNat < UInt32.size := s.attempts.toNat_lt_size
    simp only [List.length_nil]
    omega
  history := (List.append_nil _).symm
  joined := rfl
  moving := by rintro tr ⟨⟩
  prevState := rfl
  instanceId := rfl
  sourceModule := rfl
  context := rfl
  metadata := rfl

/-- One stretch after the other. -/
theorem trans (h : Leads s ts x) (h' : Leads x us y) : Leads s (ts ++ us) y where
  version := by
    rw [h'.version, h.version, List.length_append]
    omega
  attempts := by
    rw [h'.attempts, h.attempts, List.length_append]
    omega
  history := by rw [h'.history, h.history, List.append_assoc]
  joined := by
    rw [List.map_append, List.map_append, List.append_assoc, h'.joined, ← List.cons_append,
      ← h.joined, List.append_assoc]
    rfl
  moving := by
    intro tr mem
    rcases List.mem_append.1 mem with mem | mem
    · exact h.moving tr mem
    · exact h'.moving tr mem
  prevState := by
    rw [h'.prevState, h.prevState, List.getLast?_append, Option.map_or, Option.or_assoc]
  instanceId := h'.instanceId.trans h.instanceId
  sourceModule := h'.sourceModule.trans h.sourceModule
  context := h'.context.trans h.context
  metadata := h'.metadata.trans h.metadata

end Snapshot.Leads

namespace RuleTable

variable (t : RuleTable)

/-- What a transition shares with the rule that it is the record of. -/
def Records (tr : Transition) (r : Rule) : Prop :=
  tr.source = r.source ∧ tr.target = r.target ∧ tr.trigger = r.trigger.label

theorem transitionFor_records (now : Stamp) {r : Rule} {q : State} (source : r.source = q) :
    Records (transitionFor now q r.target r.trigger) r := by
  unfold transitionFor
  split
  · exact ⟨source.symm, rfl, rfl⟩
  · exact ⟨source.symm, rfl, rfl⟩

/-- One step: the rule that moves the machine, if there is one, is
recorded. -/
theorem leads_step (mark : StepMark) (s : Snapshot) (k : Conditions) :
    ∃ ts, s.Leads ts (t.step mark s k).1 ∧
      List.Forall₂ Records ts (t.mover? s.state k).toList := by
  cases moves : t.mover? s.state k with
  | none =>
    have held := next_of_no_mover moves
    have same := Snapshot.Leads.refl s
    refine ⟨[], ?_, .nil⟩
    have step : (t.step mark s k).1 =
        s.derive mark.toMark s.state (t.next s.state k).2.label none := by
      simp [step, held]
    rw [step]
    exact { same with
      version := by simpa [Snapshot.derive] using same.version
      attempts := by simpa [Snapshot.derive] using same.attempts
      history := (List.append_nil _).symm
      prevState := by simp [Snapshot.derive] }
  | some r =>
    obtain ⟨answer, source, other⟩ := next_of_mover moves
    have records := transitionFor_records mark.recorded source
    refine ⟨[transitionFor mark.recorded s.state r.target r.trigger], ?_, .cons records .nil⟩
    have step : (t.step mark s k).1 = s.derive mark.toMark r.target r.trigger.label
        (some (transitionFor mark.recorded s.state r.target r.trigger)) := by
      simp [step, answer, other]
    obtain ⟨leaves, arrives, -⟩ := records
    rw [source] at leaves
    rw [step]
    exact {
      version := by simp [Snapshot.derive, other, Snapshot.toNat_bumpVersion]
      attempts := by simp [Snapshot.derive, other, Snapshot.toNat_bumpAttempts]
      history := rfl
      joined := by simp [Snapshot.derive, leaves, arrives]
      moving := by simpa [Transition.changesState, leaves, arrives] using Ne.symm other
      prevState := by simp [Snapshot.derive, other, leaves]
      instanceId := rfl
      sourceModule := rfl
      context := rfl
      metadata := rfl }

/-- A whole walk: the rules that move the machine are recorded, one after the
other. -/
theorem leads_walk : ∀ (steps : List (StepMark × Conditions)) (s : Snapshot),
    ∃ ts, s.Leads ts (t.walk s steps) ∧
      List.Forall₂ Records ts (t.movers s.state (steps.map Prod.snd))
  | [], s => ⟨[], .refl s, .nil⟩
  | (mark, k) :: rest, s => by
      obtain ⟨ts, first, recorded⟩ := t.leads_step mark s k
      obtain ⟨us, others, recorded'⟩ := leads_walk rest (t.step mark s k).1
      exact ⟨ts ++ us, first.trans others, List.rel_append recorded recorded'⟩

/-- Every snapshot of a trail names the one before it as its parent. -/
theorem isChain_trail : ∀ (steps : List (StepMark × Conditions)) (s : Snapshot),
    List.IsChain (fun a b => b.parentId = some a.id) (s :: t.trail s steps)
  | [], s => List.isChain_singleton s
  | (mark, k) :: rest, s =>
      List.isChain_cons_cons.2 ⟨rfl, isChain_trail rest (t.step mark s k).1⟩

/-- What no step touches is the same all along a trail. -/
theorem kept_of_mem_trail {y : Snapshot} (steps : List (StepMark × Conditions)) :
    ∀ {s : Snapshot}, y ∈ t.trail s steps → y.instanceId = s.instanceId ∧
      y.sourceModule = s.sourceModule ∧ y.context = s.context ∧ y.metadata = s.metadata := by
  induction steps with
  | nil => rintro s ⟨⟩
  | cons step rest ih =>
    intro s mem
    rcases List.mem_cons.1 mem with rfl | mem
    · exact ⟨rfl, rfl, rfl, rfl⟩
    · have kept := ih mem
      exact kept

end RuleTable

/-- What a walk makes of a snapshot, for every table and all conditions.

The version and the attempts count the changes of state, up to the end of
their ranges.  The history is the one before with one transition for each
change: they lead from the first state to the last without a gap, each to
another state, and each under the label of the rule that fired.  The previous
state is the one that the last change left.  Every snapshot names the one
before it as its parent, and what belongs to the run stays as it was. -/
theorem walk_coherent (t : RuleTable) (s : Snapshot) (steps : List (StepMark × Conditions)) :
    let x := t.walk s steps
    let fired := t.movers s.state (steps.map Prod.snd)
    let n := t.changes s.state (steps.map Prod.snd)
    (x.version.toNat = min (s.version.toNat + n) (UInt64.size - 1) ∧
      x.attempts.toNat = min (s.attempts.toNat + n) (UInt32.size - 1)) ∧
    (∃ ts, x.history.transitions = s.history.transitions ++ ts ∧ ts.length = n ∧
      ts.map Transition.source ++ [x.state] = s.state :: ts.map Transition.target ∧
      (∀ tr ∈ ts, tr.source ≠ tr.target) ∧
      List.Forall₂ RuleTable.Records ts fired ∧
      x.prevState = (ts.getLast?.map Transition.source).or s.prevState) ∧
    ((s :: t.trail s steps).getLast? = some x ∧
      List.IsChain (fun a b => b.parentId = some a.id) (s :: t.trail s steps)) ∧
    ∀ y ∈ t.trail s steps, y.instanceId = s.instanceId ∧ y.sourceModule = s.sourceModule ∧
      y.context = s.context ∧ y.metadata = s.metadata := by
  intro x fired n
  obtain ⟨ts, leads, recorded⟩ := t.leads_walk steps s
  have length : ts.length = n := recorded.length_eq.trans (t.length_movers _ _)
  have version := leads.version
  have attempts := leads.attempts
  rw [length] at version attempts
  refine ⟨⟨version, attempts⟩, ⟨ts, leads.history, length, leads.joined, ?_, recorded,
    leads.prevState⟩, ⟨t.getLast?_trail steps s, t.isChain_trail steps s⟩,
    fun y mem => t.kept_of_mem_trail steps mem⟩
  intro tr mem
  simpa [Transition.changesState] using leads.moving tr mem

/-- A machine that boots, idles while there is nothing to do, and then acts. -/
example : (RuleTable.standard.movers .booting [⟨true, false⟩, ⟨true, false⟩, ⟨true, true⟩]).map
    Rule.trigger = [.bootComplete, .proposalsReceived] := by decide

end AgentState
