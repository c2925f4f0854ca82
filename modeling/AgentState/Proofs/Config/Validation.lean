/-
AgentState.Proofs.Config.Validation — settings are checked in full.

Each constraint on settings has its check and its message.  The messages that
are given are those of the constraints that are not met, in the order of the
checks; no constraint stands in the way of another.  What is no number meets no
constraint that it is part of.

* `findings_eq`, `sublist_filter` — findings about a list of matters, and their
  order.
* `CoreConfig.Constraint` — the constraints, `CoreConfig.Constraint.Met` — what
  each of them asks.
* `CoreConfig.problems_eq` — the problems of settings are those of the
  constraints that they violate.
* `CoreConfig.problems_of_ofToml`, `CoreConfig.met_of_ofToml` — settings that
  are read and accepted have no problems and meet every constraint.
* `CoreConfig.validate_reports` — the statement about the whole check.
-/
import AgentState.Proofs.Floats
import AgentState.Toml.Config
import Mathlib.Data.List.Nodup

namespace AgentState

/-- Findings about matters are about those that do not hold, in their order. -/
theorem findings_eq {κ : Type} (holds : κ → Prop) [DecidablePred holds] (text : κ → String)
    (ks : List κ) :
    (ks.map (fun k => finding? (decide (holds k)) (text k))).filterMap id =
      (ks.filter (fun k => ¬ holds k)).map text := by
  induction ks with
  | nil => rfl
  | cons k ks ih => by_cases h : holds k <;> simpa [finding?, h] using ih

/-- Matters of which each is kept stand in their order among all that are kept. -/
theorem sublist_filter {κ : Type} {p : κ → Prop} [DecidablePred p] {ks all : List κ}
    (order : ks.Sublist all) (each : ∀ k ∈ ks, p k) : ks.Sublist (all.filter (fun k => p k)) := by
  have kept := order.filter (fun k => decide (p k))
  rwa [List.filter_eq_self.2 fun k here => decide_eq_true (each k here)] at kept

namespace CoreConfig

/-! ## Constraints -/

/-- What is asked of settings. -/
inductive Constraint where
  | queueCapacity
  | maxSubscribers
  | notifyTimeout
  | maxConflictRatio
  | warnConflictRatio
  | conflictOrder
  | subscriberWarnFraction
  | maxMissedRatio
  | tickInterval
  deriving DecidableEq

namespace Constraint

/-- All constraints, in the order of their checks. -/
def all : List Constraint :=
  [.queueCapacity, .maxSubscribers, .notifyTimeout, .maxConflictRatio, .warnConflictRatio,
   .conflictOrder, .subscriberWarnFraction, .maxMissedRatio, .tickInterval]

/-- What is said when the constraint is not met. -/
def text : Constraint → String
  | .queueCapacity => "store.queue_capacity must be at least 1"
  | .maxSubscribers => "store.max_subscribers must be at least 1"
  | .notifyTimeout => "store.notify_timeout_ms must be greater than 0"
  | .maxConflictRatio => "store.health.max_conflict_ratio must be within 0.0..=1.0"
  | .warnConflictRatio => "store.health.warn_conflict_ratio must be within 0.0..=1.0"
  | .conflictOrder => "store.health.warn_conflict_ratio must not exceed max_conflict_ratio"
  | .subscriberWarnFraction =>
      "store.health.subscriber_warn_fraction must be within 0.0..=1.0"
  | .maxMissedRatio => "store.health.max_missed_ratio must be within 0.0..=1.0"
  | .tickInterval => "cycle.tick_interval_ms must be greater than 0"

/-- A float from zero to one, both included. -/
def IsFraction (x : Float) : Prop := 0.0 ≤ x ∧ x ≤ 1.0

instance (x : Float) : Decidable (IsFraction x) := inferInstanceAs (Decidable (_ ∧ _))

/-- What the constraint asks. -/
def Met (c : CoreConfig) : Constraint → Prop
  | .queueCapacity => 0 < c.store.queueCapacity
  | .maxSubscribers => 0 < c.store.maxSubscribers
  | .notifyTimeout => 0 < c.store.notifyTimeoutMs
  | .maxConflictRatio => IsFraction c.store.health.maxConflictRatio
  | .warnConflictRatio => IsFraction c.store.health.warnConflictRatio
  | .conflictOrder => c.store.health.warnConflictRatio ≤ c.store.health.maxConflictRatio
  | .subscriberWarnFraction => IsFraction c.store.health.subscriberWarnFraction
  | .maxMissedRatio => IsFraction c.store.health.maxMissedRatio
  | .tickInterval => 0 < c.cycle.tickIntervalMs

instance (c : CoreConfig) : DecidablePred (Met c)
  | .queueCapacity => inferInstanceAs (Decidable (_ < _))
  | .maxSubscribers => inferInstanceAs (Decidable (_ < _))
  | .notifyTimeout => inferInstanceAs (Decidable (_ < _))
  | .maxConflictRatio => inferInstanceAs (Decidable (IsFraction _))
  | .warnConflictRatio => inferInstanceAs (Decidable (IsFraction _))
  | .conflictOrder => inferInstanceAs (Decidable (_ ≤ _))
  | .subscriberWarnFraction => inferInstanceAs (Decidable (IsFraction _))
  | .maxMissedRatio => inferInstanceAs (Decidable (IsFraction _))
  | .tickInterval => inferInstanceAs (Decidable (_ < _))

theorem mem_all (k : Constraint) : k ∈ all := by
  cases k <;> decide

/-- No two constraints say the same. -/
theorem nodup_text : (all.map text).Nodup := by decide

theorem text_inj {k l : Constraint} (h : text k = text l) : k = l :=
  List.inj_on_of_nodup_map nodup_text k.mem_all l.mem_all h

end Constraint

/-! ## Problems -/

/-- The constraints that settings do not meet, in the order of the checks. -/
def violated (c : CoreConfig) : List Constraint :=
  Constraint.all.filter (fun k => ¬ k.Met c)

theorem mem_violated {c : CoreConfig} {k : Constraint} : k ∈ c.violated ↔ ¬ k.Met c := by
  simp [violated, k.mem_all]

theorem violated_eq_nil_iff {c : CoreConfig} : c.violated = [] ↔ ∀ k : Constraint, k.Met c := by
  simp [List.eq_nil_iff_forall_not_mem, mem_violated]

/-- The problems of settings are those of the constraints that they violate. -/
theorem problems_eq (c : CoreConfig) : c.problems = c.violated.map Constraint.text := by
  have fraction (x : Float) : isFraction x = decide (Constraint.IsFraction x) :=
    (Bool.decide_and _ _).symm
  simp only [problems, fraction]
  exact findings_eq (fun k => Constraint.Met c k) Constraint.text Constraint.all

theorem problems_eq_nil_iff {c : CoreConfig} : c.problems = [] ↔ ∀ k : Constraint, k.Met c := by
  rw [problems_eq, List.map_eq_nil_iff, violated_eq_nil_iff]

/-- Each violated constraint has its problem, and no problem is given twice. -/
theorem nodup_problems (c : CoreConfig) : c.problems.Nodup := by
  rw [problems_eq]
  exact Constraint.nodup_text.sublist (List.filter_sublist.map _)

theorem text_mem_problems {c : CoreConfig} {k : Constraint} :
    k.text ∈ c.problems ↔ ¬ k.Met c := by
  rw [problems_eq, List.mem_map, ← mem_violated]
  constructor
  · rintro ⟨l, violated, same⟩
    rwa [← Constraint.text_inj same]
  · exact fun violated => ⟨k, violated, rfl⟩

/-- What is no number is no fraction, and it is in no order. -/
theorem violated_of_isNaN (c : CoreConfig) :
    (c.store.health.maxConflictRatio.isNaN = true →
      [.maxConflictRatio, .conflictOrder].Sublist c.violated) ∧
    (c.store.health.warnConflictRatio.isNaN = true →
      [.warnConflictRatio, .conflictOrder].Sublist c.violated) := by
  have both (k l : Constraint) (order : [k, l].Sublist Constraint.all) (first : ¬ k.Met c)
      (second : ¬ l.Met c) : [k, l].Sublist c.violated :=
    sublist_filter order (by simp [first, second])
  constructor <;> intro nan
  · refine both _ _ (by decide) ?_ ?_
    · exact fun within => Floats.not_le_of_isNaN (.inr nan) within.1
    · exact Floats.not_le_of_isNaN (.inr nan)
  · refine both _ _ (by decide) ?_ ?_
    · exact fun within => Floats.not_le_of_isNaN (.inr nan) within.1
    · exact Floats.not_le_of_isNaN (.inl nan)

/-! ## The whole check -/

/-- What becomes of settings, by their problems. -/
theorem validate_eq (c : CoreConfig) :
    c.validate = if c.problems = [] then .ok () else .error (.invalid c.problems) := by
  unfold validate
  split
  · next none => rw [if_pos none]
  · next some => rw [if_neg some]

theorem validate_ok_iff {c : CoreConfig} : c.validate = .ok () ↔ c.problems = [] := by
  rw [validate_eq]
  split
  · next none => simp [none]
  · next some => simp [some]

/-- What is read and accepted has no problems. -/
theorem problems_of_ofToml {text : String} {c : CoreConfig} (accepted : ofToml text = .ok c) :
    c.problems = [] := by
  unfold ofToml at accepted
  dsimp only at accepted
  split at accepted
  · cases accepted
  · next config _ =>
    cases found : config.problems with
    | nil =>
      simp only [validate, found, Except.map, Except.ok.injEq] at accepted
      rwa [← accepted]
    | cons p ps =>
      simp only [validate, found, Except.map] at accepted
      cases accepted

theorem met_of_ofToml {text : String} {c : CoreConfig} (accepted : ofToml text = .ok c)
    (k : Constraint) : k.Met c :=
  problems_eq_nil_iff.1 (problems_of_ofToml accepted) k

/-- Where something can be read off the settings of a document, there are
settings. -/
theorem exists_of_toOption {α : Type} {text : String} {view : CoreConfig → α} {a : α}
    (found : (ofToml text).toOption.map view = some a) :
    ∃ config, ofToml text = .ok config ∧ view config = a := by
  cases accepted : ofToml text with
  | error e => simp [accepted, Except.toOption] at found
  | ok config => exact ⟨config, rfl, by simpa [accepted, Except.toOption] using found⟩

/-- Settings are accepted exactly when every constraint is met.  Otherwise the
answer has the message of each constraint that is not met, in the order of the
checks: all of them, none twice, and none of another constraint.  A ratio that
is no number is out of its range and out of the order of the two.  What is read
from a document and accepted passes the same check. -/
theorem validate_reports (c : CoreConfig) :
    (c.validate = .ok () ↔ ∀ k : Constraint, k.Met c) ∧
    (∀ e, c.validate = .error e ↔
      (∃ k : Constraint, ¬ k.Met c) ∧ e = .invalid (c.violated.map Constraint.text)) ∧
    (c.violated.map Constraint.text).Nodup ∧
    (∀ k : Constraint, k.text ∈ c.violated.map Constraint.text ↔ ¬ k.Met c) ∧
    (c.store.health.maxConflictRatio.isNaN = true →
      [.maxConflictRatio, .conflictOrder].Sublist c.violated) ∧
    (c.store.health.warnConflictRatio.isNaN = true →
      [.warnConflictRatio, .conflictOrder].Sublist c.violated) ∧
    ∀ text config, ofToml text = .ok config → config.validate = .ok () := by
  refine ⟨validate_ok_iff.trans problems_eq_nil_iff, fun e => ?_, ?_, fun k => ?_,
    c.violated_of_isNaN.1, c.violated_of_isNaN.2,
    fun text config read => validate_ok_iff.2 (problems_of_ofToml read)⟩
  · rw [← not_forall, ← problems_eq_nil_iff, ← problems_eq, validate_eq]
    split
    · next empty => simp [empty]
    · next some => simp [some, eq_comm]
  · rw [← problems_eq]
    exact c.nodup_problems
  · rw [← problems_eq]
    exact text_mem_problems

/-- Negative zero is a fraction; an infinity is none. -/
example : isFraction (-0.0) = true ∧ isFraction (1.0 / 0.0) = false := by decide

end CoreConfig

end AgentState
