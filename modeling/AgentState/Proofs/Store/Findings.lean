/-
AgentState.Proofs.Store.Findings — what a health check finds.

A finding is raised by a condition of its own, and each list of a report has
the messages of the findings that are raised, in one order.  Under thresholds
that are accepted, a finding is raised exactly where its check fails: the
thresholds are numbers, and so is every ratio, so that what is not at most a
threshold exceeds it.

* `Finding`, `Finding.Raised` — the findings and their conditions.
* `Finding.About` — which message tells of which matter.
* `issuesOf_eq`, `warningsOf_eq` — the two lists of a report.
* `Told` — what is said of a report, `told_of_validate` — that it holds under
  accepted thresholds, `told_at_limits` — the case where every number is at its
  limit.
-/
import AgentState.Proofs.Config.Validation
import AgentState.Store.Health

namespace AgentState.HealthReport

/-! ## The matters of a health check -/

/-- What a health check can find. -/
inductive Finding where
  | conflictsExceed
  | capacityExhausted
  | conflictsElevated
  | usageHigh
  | notificationsMissed
  | uninitialized
  | stale
  deriving DecidableEq

namespace Finding

/-- The findings that make a store unhealthy, in the order of their checks. -/
def issues : List Finding := [.conflictsExceed, .capacityExhausted]

/-- The findings that are worth a look, in the order of their checks. -/
def warnings : List Finding :=
  [.conflictsElevated, .usageHigh, .notificationsMissed, .uninitialized, .stale]

/-- The condition of a finding. -/
def Raised (m : Metrics) (h : HealthThresholds) : Finding → Prop
  | .conflictsExceed => h.maxConflictRatio < m.conflictRatio
  | .capacityExhausted => 0 < m.maxSubscribers ∧ m.maxSubscribers ≤ m.activeSubscribers
  | .conflictsElevated =>
      h.warnConflictRatio < m.conflictRatio ∧ ¬ h.maxConflictRatio < m.conflictRatio
  | .usageHigh =>
      h.subscriberWarnFraction ≤ m.saturation ∧ m.activeSubscribers < m.maxSubscribers
  | .notificationsMissed => h.maxMissedRatio < m.missedRatio
  | .uninitialized => m.currentVersion = none
  | .stale => ∃ age ∈ m.lastUpdateAge, h.staleAfter.toNanos < age.toNanos

instance (m : Metrics) (h : HealthThresholds) : DecidablePred (Raised m h)
  | .conflictsExceed => inferInstanceAs (Decidable (_ < _))
  | .capacityExhausted => inferInstanceAs (Decidable (_ ∧ _))
  | .conflictsElevated => inferInstanceAs (Decidable (_ ∧ _))
  | .usageHigh => inferInstanceAs (Decidable (_ ∧ _))
  | .notificationsMissed => inferInstanceAs (Decidable (_ < _))
  | .uninitialized => inferInstanceAs (Decidable (_ = _))
  | .stale => inferInstanceAs (Decidable (∃ age ∈ m.lastUpdateAge, _))

/-- How the message of a finding begins. -/
def opening : Finding → String
  | .conflictsExceed | .conflictsElevated => "version conflict ratio "
  | .capacityExhausted => "subscriber capacity exhausted "
  | .usageHigh => "subscriber usage at "
  | .notificationsMissed => "missed notification ratio "
  | .uninitialized => "store has not been initialized"
  | .stale => "no update for "

/-- How the message of a finding goes on. -/
def detail (m : Metrics) (h : HealthThresholds) : Finding → String
  | .conflictsExceed => ratioText m.conflictRatio ++ " exceeds " ++ ratioText h.maxConflictRatio
  | .capacityExhausted =>
      "(" ++ Decimal.write m.activeSubscribers.toNat ++ "/" ++
        Decimal.write m.maxSubscribers.toNat ++ ")"
  | .conflictsElevated => "elevated at " ++ ratioText m.conflictRatio
  | .usageHigh => Places.text 0 (m.saturation * 100.0) ++ "% of capacity"
  | .notificationsMissed => ratioText m.missedRatio ++ " exceeds " ++ ratioText h.maxMissedRatio
  | .uninitialized => ""
  | .stale =>
      (m.lastUpdateAge.getD .zero).text ++ " (stale after " ++ h.staleAfter.text ++ ")"

/-- The message of a finding. -/
def text (m : Metrics) (h : HealthThresholds) (k : Finding) : String := k.opening ++ k.detail m h

/-- A message tells of the matter of a finding when it begins like its message. -/
def About (k : Finding) (message : String) : Prop := k.opening.toList <+: message.toList

instance (k : Finding) : DecidablePred k.About := fun _ => inferInstanceAs (Decidable (_ <+: _))

/-- No opening goes on like another one. -/
theorem opening_free {k l : Finding} (begins : k.opening.toList <+: l.opening.toList) :
    k.opening = l.opening := by
  revert begins
  cases k <;> cases l <;> decide

/-- The message of a finding tells of the matter of that finding only. -/
theorem about_text {m : Metrics} {h : HealthThresholds} {k l : Finding} :
    k.About (l.text m h) ↔ k.opening = l.opening := by
  rw [About, text, String.toList_append]
  constructor
  · intro begins
    rcases List.prefix_or_prefix_of_prefix begins (List.prefix_append _ _) with short | short
    · exact opening_free short
    · exact (opening_free short).symm
  · intro same
    rw [same]
    exact List.prefix_append _ _

/-! ## Checks and conditions -/

/-- The check of a finding: what must hold for it not to be raised. -/
def passes (m : Metrics) (h : HealthThresholds) : Finding → Bool
  | .conflictsExceed => m.conflictRatio ≤ h.maxConflictRatio
  | .capacityExhausted => m.maxSubscribers == 0 || m.activeSubscribers < m.maxSubscribers
  | .conflictsElevated =>
      m.conflictRatio ≤ h.warnConflictRatio || m.conflictRatio > h.maxConflictRatio
  | .usageHigh =>
      m.saturation < h.subscriberWarnFraction || m.activeSubscribers ≥ m.maxSubscribers
  | .notificationsMissed => m.missedRatio ≤ h.maxMissedRatio
  | .uninitialized => m.currentVersion.isSome
  | .stale => m.lastUpdateAge.all (fun age => age.toNanos ≤ h.staleAfter.toNanos)

/-- Thresholds of which each is a number. -/
structure Numbers (h : HealthThresholds) : Prop where
  maxConflictRatio : h.maxConflictRatio.isNaN = false
  warnConflictRatio : h.warnConflictRatio.isNaN = false
  subscriberWarnFraction : h.subscriberWarnFraction.isNaN = false
  maxMissedRatio : h.maxMissedRatio.isNaN = false

/-- Thresholds that are accepted are numbers. -/
theorem numbers_of_met {c : CoreConfig} (met : ∀ k : CoreConfig.Constraint, k.Met c) :
    Numbers c.store.health where
  maxConflictRatio := (Floats.isNaN_of_le (met .maxConflictRatio).1).2
  warnConflictRatio := (Floats.isNaN_of_le (met .warnConflictRatio).1).2
  subscriberWarnFraction := (Floats.isNaN_of_le (met .subscriberWarnFraction).1).2
  maxMissedRatio := (Floats.isNaN_of_le (met .maxMissedRatio).1).2

/-- A check fails exactly when its finding is to be raised. -/
theorem passes_iff {h : HealthThresholds} (numbers : Numbers h) (m : Metrics) (k : Finding) :
    k.passes m h = true ↔ ¬ k.Raised m h := by
  have conflicts : m.conflictRatio.isNaN = false := Floats.isNaN_ratio _ _
  have missed : m.missedRatio.isNaN = false := Floats.isNaN_ratio _ _
  have saturation : m.saturation.isNaN = false := Floats.isNaN_ratio _ _
  cases k with
  | conflictsExceed =>
    simp only [passes, Raised, decide_eq_true_eq]
    exact (Floats.not_lt_iff_le numbers.maxConflictRatio conflicts).symm
  | capacityExhausted =>
    simp only [passes, Raised, Bool.or_eq_true, beq_iff_eq, decide_eq_true_eq, not_and_or,
      UInt64.not_le, UInt64.not_lt, UInt64.le_zero_iff]
  | conflictsElevated =>
    simp only [passes, Raised, Bool.or_eq_true, decide_eq_true_eq, not_and_or, not_not]
    rw [Floats.not_lt_iff_le numbers.warnConflictRatio conflicts]
  | usageHigh =>
    simp only [passes, Raised, Bool.or_eq_true, decide_eq_true_eq, not_and_or, UInt64.not_lt]
    rw [Floats.not_le_iff_lt numbers.subscriberWarnFraction saturation]
  | notificationsMissed =>
    simp only [passes, Raised, decide_eq_true_eq]
    exact (Floats.not_lt_iff_le numbers.maxMissedRatio missed).symm
  | uninitialized =>
    simp only [passes, Raised, Option.isSome_iff_ne_none, ne_eq]
  | stale =>
    simp only [passes, Raised, Option.all_eq_true, decide_eq_true_eq, not_exists, not_and,
      Nat.not_lt, Option.mem_def]

end Finding

/-! ## The lists of a report -/

/-- The findings of a list that are raised, in its order. -/
def raised (m : Metrics) (h : HealthThresholds) (ks : List Finding) : List Finding :=
  ks.filter (fun k => k.Raised m h)

/-- The messages of the checks that fail are those of the findings raised. -/
theorem messages_eq {h : HealthThresholds} (numbers : Finding.Numbers h) (m : Metrics)
    (ks : List Finding) :
    (ks.map (fun k => finding? (k.passes m h) (k.text m h))).filterMap id =
      (raised m h ks).map (Finding.text m h) := by
  have checks (k : Finding) : k.passes m h = decide (¬ k.Raised m h) := by
    rw [Bool.eq_iff_iff, decide_eq_true_iff, Finding.passes_iff numbers]
  have messages := findings_eq (fun k => ¬ Finding.Raised m h k) (Finding.text m h) ks
  simpa only [checks, raised, not_not] using messages

theorem issuesOf_eq {h : HealthThresholds} (numbers : Finding.Numbers h) (m : Metrics) :
    issuesOf m h = (raised m h Finding.issues).map (Finding.text m h) := by
  rw [← messages_eq numbers]
  simp only [issuesOf, Finding.issues, List.map_cons, List.map_nil, Finding.passes, Finding.text,
    Finding.opening, Finding.detail, String.append_assoc]
  rfl

/-- A finding about something that may be absent: without it the check passes. -/
theorem bind_finding? {α : Type} (absent : α) (o : Option α) (check : α → Bool)
    (text : α → String) :
    o.bind (fun a => finding? (check a) (text a)) =
      finding? (o.all check) (text (o.getD absent)) := by
  cases o <;> rfl

theorem warningsOf_eq {h : HealthThresholds} (numbers : Finding.Numbers h) (m : Metrics) :
    warningsOf m h = (raised m h Finding.warnings).map (Finding.text m h) := by
  have elevated : "version conflict ratio elevated at " =
      "version conflict ratio " ++ "elevated at " := by decide
  rw [← messages_eq numbers]
  simp only [warningsOf, Finding.warnings, List.map_cons, List.map_nil, Finding.passes,
    Finding.text, Finding.opening, Finding.detail, elevated, String.append_assoc,
    String.append_empty, bind_finding? Span.zero, gt_iff_lt, ge_iff_le]

/-! ## Which messages there are -/

section Raised

variable {m : Metrics} {h : HealthThresholds} {k : Finding} {all : List Finding}

/-- Among findings of different matters, there is a message about one exactly
when that one is raised. -/
theorem exists_about_iff (apart : ∀ l ∈ all, k.opening = l.opening → k = l) (here : k ∈ all) :
    (∃ t ∈ (raised m h all).map (Finding.text m h), k.About t) ↔ k.Raised m h := by
  simp only [raised, List.mem_map, List.mem_filter, decide_eq_true_eq]
  constructor
  · rintro ⟨_, ⟨l, ⟨there, raised⟩, rfl⟩, about⟩
    rwa [apart l there (Finding.about_text.1 about)]
  · exact fun raised => ⟨_, ⟨k, ⟨here, raised⟩, rfl⟩, Finding.about_text.2 rfl⟩

/-- The messages about a matter are those of its findings that are raised. -/
theorem countP_about :
    ((raised m h all).map (Finding.text m h)).countP (fun t => k.About t) =
      all.countP (fun l => k.opening = l.opening ∧ l.Raised m h) := by
  rw [List.countP_map, raised, List.countP_filter]
  refine List.countP_congr fun l _ => ?_
  simp [Finding.about_text]

end Raised

/-! ## The whole report -/

/-- What is said of a report on metrics under thresholds.  Unhealthy means that
there are issues.  Both lists have the messages of the findings that are raised:
about each matter there is one exactly under the condition of its finding, and
whatever else is raised, the messages of findings that are raised stand in one
order.  There is at most one message about conflicts, and none about usage when
there is one about exhaustion. -/
structure Told (m : Metrics) (h : HealthThresholds) (r : HealthReport) : Prop where
  healthy : r.healthy = true ↔ r.issues = []
  issues : r.issues = (raised m h Finding.issues).map (Finding.text m h)
  warnings : r.warnings = (raised m h Finding.warnings).map (Finding.text m h)
  issue : ∀ k ∈ Finding.issues, (∃ t ∈ r.issues, k.About t) ↔ k.Raised m h
  warning : ∀ k ∈ Finding.warnings, (∃ t ∈ r.warnings, k.About t) ↔ k.Raised m h
  issues_order : ∀ ks : List Finding, ks.Sublist Finding.issues →
    (∀ k ∈ ks, k.Raised m h) → (ks.map (Finding.text m h)).Sublist r.issues
  warnings_order : ∀ ks : List Finding, ks.Sublist Finding.warnings →
    (∀ k ∈ ks, k.Raised m h) → (ks.map (Finding.text m h)).Sublist r.warnings
  conflicts : (r.issues ++ r.warnings).countP (fun t => Finding.conflictsExceed.About t) ≤ 1
  capacity : ¬ ((∃ t ∈ r.issues, Finding.capacityExhausted.About t) ∧
    ∃ t ∈ r.warnings, Finding.usageHigh.About t)

/-- There is at most one message about conflicts: what exceeds the higher
threshold is not said to be elevated. -/
theorem conflicts_once {h : HealthThresholds} (numbers : Finding.Numbers h) (m : Metrics) :
    (issuesOf m h ++ warningsOf m h).countP (fun t => Finding.conflictsExceed.About t) ≤ 1 := by
  rw [issuesOf_eq numbers, warningsOf_eq numbers, List.countP_append, countP_about, countP_about]
  by_cases exceed : h.maxConflictRatio < m.conflictRatio <;>
    by_cases elevated : h.warnConflictRatio < m.conflictRatio <;>
    simp [Finding.issues, Finding.warnings, Finding.opening, Finding.Raised, exceed, elevated]

/-- Under thresholds that are accepted, a report says what it should. -/
theorem told_of_validate (c : CoreConfig) (m : Metrics) (accepted : c.validate = .ok ()) :
    Told m c.store.health (of m c.store.health) := by
  have met := CoreConfig.problems_eq_nil_iff.1 (CoreConfig.validate_ok_iff.1 accepted)
  have numbers := Finding.numbers_of_met met
  have issues : (of m c.store.health).issues = _ := issuesOf_eq numbers m
  have warnings : (of m c.store.health).warnings = _ := warningsOf_eq numbers m
  have issue (k : Finding) (here : k ∈ Finding.issues) :
      (∃ t ∈ (of m c.store.health).issues, k.About t) ↔ k.Raised m c.store.health := by
    rw [issues]
    exact exists_about_iff (by revert k; decide) here
  have warning (k : Finding) (here : k ∈ Finding.warnings) :
      (∃ t ∈ (of m c.store.health).warnings, k.About t) ↔ k.Raised m c.store.health := by
    rw [warnings]
    exact exists_about_iff (by revert k; decide) here
  refine ⟨List.isEmpty_iff, issues, warnings, issue, warning, ?_, ?_, conflicts_once numbers m, ?_⟩
  · intro ks order some
    rw [issues]
    exact (sublist_filter order some).map _
  · intro ks order some
    rw [warnings]
    exact (sublist_filter order some).map _
  · rintro ⟨exhausted, usage⟩
    -- A full store has no slot that is free.
    have full := ((issue .capacityExhausted (by decide)).1 exhausted).2
    have free := ((warning .usageHigh (by decide)).1 usage).2
    exact UInt64.not_lt.2 full free

/-- Metrics of which each is at its limit under the standard thresholds. -/
def atLimits : Metrics :=
  { totalSets := 10, totalGets := 0, versionConflicts := 1, rejectedSets := 0, refreshes := 0
    notificationsDelivered := 9, notificationsMissed := 1, subscribersPruned := 0
    activeSubscribers := 4, maxSubscribers := 5, uptime := .ofMillis 60000
    lastUpdateAge := some (.ofMillis 60000), lastUpdateWall := none
    currentVersion := none, currentState := none }

/-- At the limits conflicts are elevated and usage is high; nothing is exceeded,
and the last update is not stale. -/
theorem told_at_limits :
    CoreConfig.standard.validate = .ok () ∧
      raised atLimits CoreConfig.standard.store.health Finding.issues = [] ∧
      raised atLimits CoreConfig.standard.store.health Finding.warnings =
        [.conflictsElevated, .usageHigh, .uninitialized] ∧
      Told atLimits CoreConfig.standard.store.health
        (of atLimits CoreConfig.standard.store.health) :=
  ⟨CoreConfig.validate_ok_iff.2 (by decide), by decide, by decide,
    told_of_validate .standard atLimits (CoreConfig.validate_ok_iff.2 (by decide))⟩

end AgentState.HealthReport
