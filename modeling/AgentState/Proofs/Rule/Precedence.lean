/-
AgentState.Proofs.Rule.Precedence — which rules stand before which.

A table answers with the first rule that applies, and only rules that start
in the current state apply.  So the order matters among the rules of one
source alone, and the rules of the unspecified state do not matter at all.

* `RuleTable.startingIn` — the rules of one source, in their order.
* `Snapshot.remade` — a snapshot made at another time, under another
  identifier.
* `RuleTable.find?_startingIn` — the first rule that applies is the first one
  of its source; `RuleTable.next_congr` — so tables with the same rules of a
  source answer alike there.
* `RuleTable.step_remade` — a step made at another time.
* `next_of_append` — where rules at the end of a table are heard.
* `order_within_sources` — the statement over tables.
-/
import AgentState.Rule

namespace AgentState

/-! ## Snapshots made at another time -/

/-- The same step, taken at another time. -/
def Transition.remade (t : Transition) (now : Stamp) : Transition :=
  { t with monotonic := now.monotonic, wall := now.wall }

/-- The same snapshot, made at another time and under another identifier.  The
first `old` steps of its history were recorded before, and the others at a time
of their own. -/
def Snapshot.remade (x : Snapshot) (old : Nat) (mark : StepMark) : Snapshot :=
  { x with
    id := mark.id
    monotonic := mark.stamp.monotonic
    wall := mark.stamp.wall
    history := ⟨x.history.transitions.take old ++
      (x.history.transitions.drop old).map (·.remade mark.recorded)⟩ }

/-- A successor made at another time: its own step is taken at that time, and
what was recorded before stays. -/
theorem Snapshot.derive_remade (mark : Mark) (mark' : StepMark) (current : Snapshot)
    (next : State) (reason : String) (step : Option Transition) :
    (current.derive mark next reason step).remade current.history.length mark' =
      current.derive mark'.toMark next reason (step.map (·.remade mark'.recorded)) := by
  cases step with
  | none => simp [remade, derive, History.length]
  | some t => simp [remade, derive, History.length, History.record]

namespace RuleTable

variable {t u : RuleTable} {q : State} {k : Conditions}

theorem transitionFor_remade (now now' : Stamp) (source target : State) (trigger : Trigger) :
    (transitionFor now source target trigger).remade now' =
      transitionFor now' source target trigger := by
  unfold transitionFor
  split <;> rfl

/-- A step at another time gives the same snapshot, made at that time. -/
theorem step_remade (t : RuleTable) (mark mark' : StepMark) (s : Snapshot) (k : Conditions) :
    t.step mark' s k =
      ((t.step mark s k).1.remade s.history.length mark', (t.step mark s k).2) := by
  simp only [step, Snapshot.derive_remade]
  split
  · rw [Option.map_some, transitionFor_remade]
  · rfl

/-! ## The rules of one source -/

/-- The rules that start in a state, in their order. -/
def startingIn (t : RuleTable) (q : State) : List Rule := t.rules.filter (fun r => r.source = q)

/-- The first rule that applies in a state is the first one of those that
start there. -/
theorem find?_startingIn (t : RuleTable) (q : State) (k : Conditions) :
    (t.startingIn q).find? (fun r => r.applies q k) = t.rules.find? (fun r => r.applies q k) := by
  rw [startingIn, List.find?_filter]
  congr 1
  funext r
  by_cases source : r.source = q
  · simp [source]
  · simp [Rule.applies, source, Ne.symm source]

/-- Tables with the same rules of a source answer alike there. -/
theorem next_congr (same : t.startingIn q = u.startingIn q) : t.next q k = u.next q k := by
  unfold next
  rw [← t.find?_startingIn, ← u.find?_startingIn, same]

/-- Steps of tables with the same rules for the current state. -/
theorem step_congr {s : Snapshot} (same : t.startingIn s.state = u.startingIn s.state)
    (mark : StepMark) : t.step mark s k = u.step mark s k := by
  simp only [step, next_congr same]

/-- In the unspecified state no table is asked. -/
theorem next_unspecified (t : RuleTable) (k : Conditions) :
    t.next .unspecified k = (.unspecified, .transitionError) := if_pos rfl

/-- Rules of the unspecified state are never heard: tables that differ in
such rules alone answer alike everywhere. -/
theorem next_of_specified
    (same : t.rules.filter (fun r => r.source ≠ .unspecified) =
      u.rules.filter (fun r => r.source ≠ .unspecified)) (q : State) (k : Conditions) :
    t.next q k = u.next q k := by
  by_cases specified : q = .unspecified
  · rw [specified, next_unspecified, next_unspecified]
  · refine next_congr ?_
    -- what starts in a working state is found among the rules that do not
    -- start in the unspecified one
    have among (v : RuleTable) : v.startingIn q =
        (v.rules.filter (fun r => r.source ≠ .unspecified)).filter (fun r => r.source = q) := by
      rw [startingIn, List.filter_filter]
      refine List.filter_congr fun r _ => ?_
      by_cases source : r.source = q
      · simp [source, specified]
      · simp [source]
    rw [among t, among u, same]

/-! ## Rules at the end -/

/-- Rules at the end of a table are heard where no rule before them applies,
and nowhere else. -/
theorem next_append (t : RuleTable) (more : List Rule) (q : State) (k : Conditions) :
    (⟨t.rules ++ more⟩ : RuleTable).next q k =
      if t.rules.any (fun r => r.applies q k) then t.next q k else next ⟨more⟩ q k := by
  unfold next
  rw [List.find?_append]
  cases first : t.rules.find? (fun r => r.applies q k) with
  | some r =>
    have heard : t.rules.any (fun r => r.applies q k) = true :=
      List.any_eq_true.2 ⟨r, List.mem_of_find?_eq_some first, by simpa using List.find?_some first⟩
    rw [if_pos heard, Option.some_or]
  | none =>
    have silent : ¬ t.rules.any (fun r => r.applies q k) = true := by
      simpa using List.find?_eq_none.1 first
    rw [if_neg silent, Option.none_or]

end RuleTable

/-- What the order of rules means, for all tables.

Where two tables have the same rules of a source in the same order, they give
the same answer there under all conditions, and their steps agree but for
identifier and clocks: also those of the transition that the step records.
Rules put at the end of a table change its answer only where none of its rules
applied, and there the answer is that of the new rules alone.  Tables that
differ in rules of the unspecified state alone, wherever these stand, give the
same answers and make the same steps. -/
theorem order_within_sources (t u : RuleTable) :
    (∀ q k, t.startingIn q = u.startingIn q → t.next q k = u.next q k) ∧
    (∀ (s : Snapshot) (k : Conditions) (mark mark' : StepMark),
      t.startingIn s.state = u.startingIn s.state →
        u.step mark' s k =
          ((t.step mark s k).1.remade s.history.length mark', (t.step mark s k).2)) ∧
    (∀ (more : List Rule) (q : State) (k : Conditions),
      let longer : RuleTable := ⟨t.rules ++ more⟩
      (longer.next q k ≠ t.next q k → ∀ r ∈ t.rules, r.applies q k = false) ∧
      ((∀ r ∈ t.rules, r.applies q k = false) → longer.next q k = RuleTable.next ⟨more⟩ q k)) ∧
    (t.rules.filter (fun r => r.source ≠ .unspecified) =
        u.rules.filter (fun r => r.source ≠ .unspecified) →
      (∀ q k, t.next q k = u.next q k) ∧
      ∀ (s : Snapshot) (k : Conditions) (mark : StepMark), t.step mark s k = u.step mark s k) := by
  refine ⟨fun q k => RuleTable.next_congr, fun s k mark mark' same => ?_, fun more q k => ?_,
    fun same => ⟨RuleTable.next_of_specified same, fun s k mark => ?_⟩⟩
  · rw [← RuleTable.step_congr same, t.step_remade mark mark']
  · intro longer
    have answer : longer.next q k = _ := t.next_append more q k
    rw [answer]
    constructor
    · intro changed
      split at changed
      · exact absurd rfl changed
      · next silent => simpa using silent
    · intro silent
      rw [if_neg (by simpa using silent)]
  · simp only [RuleTable.step, RuleTable.next_of_specified same]

/-- The agent's own rules with the sources in another order, and a rule of the
unspecified state among them. -/
def RuleTable.regrouped : RuleTable where
  rules :=
    (RuleTable.standard.startingIn .error ++ RuleTable.standard.startingIn .active) ++
      ⟨.unspecified, .idle, .errorCleared, fun _ => true⟩ ::
        (RuleTable.standard.startingIn .idle ++ RuleTable.standard.startingIn .booting)

/-- The table in another order makes the step of an idle agent that the
standard one makes, at another time; a rule that is put behind the standard
ones changes an answer where no rule applied. -/
theorem order_within_sources_regrouped :
    let s := Snapshot.fresh ⟨"a", ⟨1, .epoch⟩⟩ "run" .idle ""
    let patient : Rule := ⟨.error, .shutdown, .biosError, fun k => k.hasProposals⟩
    let longer : RuleTable := ⟨RuleTable.standard.rules ++ [patient]⟩
    let early : StepMark := ⟨⟨"b", ⟨3, .epoch⟩⟩, ⟨2, .epoch⟩⟩
    let late : StepMark := ⟨⟨"c", ⟨5, .epoch⟩⟩, ⟨4, .epoch⟩⟩
    RuleTable.standard.startingIn .idle = RuleTable.regrouped.startingIn .idle ∧
      RuleTable.regrouped.step late s ⟨true, true⟩ =
        ((RuleTable.standard.step early s ⟨true, true⟩).1.remade 0 late, .proposalsReceived) ∧
      longer.next .error ⟨true, true⟩ ≠ RuleTable.standard.next .error ⟨true, true⟩ ∧
      ∀ r ∈ RuleTable.standard.rules, r.applies .error ⟨true, true⟩ = false := by
  intro s patient longer early late
  obtain ⟨-, steps, appended, -⟩ :=
    order_within_sources RuleTable.standard RuleTable.regrouped
  have changed : longer.next .error ⟨true, true⟩ ≠ RuleTable.standard.next .error ⟨true, true⟩ := by
    decide
  exact ⟨rfl, steps s ⟨true, true⟩ early late rfl, changed,
    (appended [patient] .error ⟨true, true⟩).1 changed⟩

end AgentState
