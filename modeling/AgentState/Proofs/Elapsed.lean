/-
AgentState.Proofs.Elapsed — the time that a history spans.

The order of two points of time looks at their seconds and then at the
nanoseconds.  Their distance is made of whole days and of times of day, and a
leap second counts in it where the times of day step over it.  Nothing steps
over the leap second that ends a day, since the next day begins at zero again.
There, and nowhere else, the sign of the distance may differ from the order.

* `WallTime.since_eq` — the distance as seconds, leap seconds stepped over,
  and nanoseconds.
* `WallTime.AcrossMidnight` — a point of time in the leap second that ends a
  day, and one in the second behind it.
* `WallTime.since_across`, `WallTime.since_pos` — the distance there, and its
  sign everywhere else.
* `History.span_of_ends` — when a history has a span, and which.
* `History.span_turns_at_midnight` — histories whose spans are not as the order
  of their ends says.
-/
import AgentState.Transition

namespace AgentState

/-! ## The distance of two points of time -/

namespace WallTime

/-- The leap seconds that are stepped over from one time of day to another. -/
def stepped (a b : WallTime) : Int :=
  if a.secondOfDay < b.secondOfDay ∧ 1000000000 ≤ a.nanos then 1
  else if b.secondOfDay < a.secondOfDay ∧ 1000000000 ≤ b.nanos then -1
  else 0

/-- The distance without days: of seconds, leap seconds and nanoseconds. -/
theorem since_eq (a b : WallTime) :
    b.since a =
      (b.seconds - a.seconds + stepped a b) * 1000000000 + ((b.nanos : Int) - a.nanos) := by
  have days (t : WallTime) : t.seconds = t.day * 86400 + t.secondOfDay := by
    unfold day secondOfDay
    omega
  have seconds : b.seconds - a.seconds =
      (b.day - a.day) * 86400 + (b.secondOfDay - a.secondOfDay) := by
    rw [days a, days b]
    omega
  rw [seconds]
  rfl

/-- There and back, the same leap seconds are stepped over. -/
theorem stepped_swap (a b : WallTime) : stepped b a = -stepped a b := by
  unfold stepped
  repeat' split
  all_goals omega

/-- There and back are equally far. -/
theorem since_swap (a b : WallTime) : a.since b = -(b.since a) := by
  rw [since_eq, since_eq, stepped_swap]
  omega

theorem since_self (a : WallTime) : a.since a = 0 := by
  have swap := a.since_swap a
  omega

/-- The distance of two points of time fits a span. -/
theorem since_lt (a b : WallTime) : b.since a < 18446744073709551616 * 1000000000 := by
  have low := a.within.1
  have high := b.within.2
  have below := b.nanos_lt
  have few : stepped a b ≤ 1 := by
    unfold stepped
    repeat' split
    all_goals omega
  rw [since_eq]
  omega

theorem before_or (a b : WallTime) : a.before b ∨ a = b ∨ b.before a := by
  obtain ⟨seconds, nanos, -, -⟩ := a
  obtain ⟨seconds', nanos', -, -⟩ := b
  simp only [before, WallTime.mk.injEq]
  omega

theorem not_before_of_before {a b : WallTime} (h : a.before b) : ¬ b.before a := by
  unfold before at h ⊢
  omega

/-- `a` lies in the leap second that ends a day, and `b` in the second behind
it. -/
def AcrossMidnight (a b : WallTime) : Prop :=
  1000000000 ≤ a.nanos ∧ b.seconds = a.seconds + 1 ∧ b.seconds % 86400 = 0

instance (a b : WallTime) : Decidable (AcrossMidnight a b) :=
  inferInstanceAs (Decidable (_ ∧ _))

theorem AcrossMidnight.before {a b : WallTime} (h : a.AcrossMidnight b) : a.before b := by
  obtain ⟨-, next, -⟩ := h
  exact .inl (by omega)

/-- The leap second that ends a day is not stepped over, and one that begins a
day is not counted a second time. -/
theorem since_across {a b : WallTime} (h : a.AcrossMidnight b) :
    b.since a = 1000000000 + ((b.nanos % 1000000000 : Nat) : Int) - a.nanos := by
  obtain ⟨leap, next, midnight⟩ := h
  have below := b.nanos_lt
  have back : b.secondOfDay < a.secondOfDay := by
    unfold secondOfDay
    omega
  have once : stepped a b = if 1000000000 ≤ b.nanos then -1 else 0 := by
    have first : ¬ a.secondOfDay < b.secondOfDay := by omega
    simp [stepped, first, back]
  rw [since_eq, once, next]
  split <;> omega

/-- Everywhere else a later point of time lies ahead. -/
theorem since_pos {a b : WallTime} (h : a.before b) (apart : ¬ a.AcrossMidnight b) :
    0 < b.since a := by
  have below := a.nanos_lt
  rw [since_eq]
  unfold before at h
  unfold AcrossMidnight at apart
  unfold stepped secondOfDay
  repeat' split
  all_goals omega

/-- A point of time lies behind another exactly when it is earlier, but for the
leap second that ends a day. -/
theorem since_neg_iff (a b : WallTime) :
    b.since a < 0 ↔
      (b.before a ∧ ¬ (b.AcrossMidnight a ∧ a.nanos % 1000000000 + 1000000000 ≤ b.nanos)) ∨
        (a.AcrossMidnight b ∧ b.nanos % 1000000000 + 1000000000 < a.nanos) := by
  rcases before_or a b with forth | rfl | back
  · have not_back := not_before_of_before forth
    by_cases across : a.AcrossMidnight b
    · have distance := since_across across
      simp only [not_back, across, false_and, false_or, true_and]
      omega
    · have ahead := since_pos forth across
      simp only [not_back, across, false_and, false_or, iff_false]
      omega
  · have still : ¬ a.before a := fun h => not_before_of_before h h
    have apart : ¬ a.AcrossMidnight a := fun h => still h.before
    simp [since_self, still, apart]
  · have apart : ¬ a.AcrossMidnight b := fun h => not_before_of_before back h.before
    have swap := b.since_swap a
    by_cases across : b.AcrossMidnight a
    · have distance := since_across across
      simp only [back, apart, across, false_and, or_false, true_and]
      omega
    · have ahead := since_pos back across
      simp only [back, apart, across, false_and, not_false_eq_true, true_and, or_false, iff_true]
      omega

end WallTime

/-! ## Histories -/

theorem Span.toNanos_ofNanos {n : Nat} (h : n < 18446744073709551616 * 1000000000) :
    (Span.ofNanos n).toNanos = n := by
  have fits : n / 1000000000 < 18446744073709551616 := by omega
  have whole : (UInt64.ofNat (n / 1000000000)).toNat = n / 1000000000 :=
    UInt64.toNat_ofNat_of_lt' fits
  simp only [Span.toNanos, Span.ofNanos, whole]
  omega

namespace History

open WallTime

/-- `first` and `last` are the ends of a history. -/
def Ends (h : History) (first last : Transition) : Prop :=
  h.transitions.head? = some first ∧ h.transitions.getLast? = some last

theorem transitions_eq_nil_or_ends (h : History) :
    h.transitions = [] ∨ ∃ first last, h.Ends first last := by
  cases found : h.transitions with
  | nil => exact .inl rfl
  | cons first rest =>
    refine .inr ⟨first, (first :: rest).getLast (List.cons_ne_nil _ _), ?_⟩
    rw [Ends, found]
    exact ⟨rfl, List.getLast?_eq_some_getLast _⟩

theorem span?_of_nil {h : History} (empty : h.transitions = []) : h.span? = none := by
  simp [span?, empty]

/-- The span is the distance of the ends, unless that is negative. -/
theorem span?_of_ends {h : History} {first last : Transition} (ends : h.Ends first last) :
    h.span? = if 0 ≤ last.wall.since first.wall
      then some (.ofNanos (last.wall.since first.wall).toNat) else none := by
  obtain ⟨head, tail⟩ := ends
  simp only [span?, head, tail]

theorem span?_eq_none_iff {h : History} {first last : Transition} (ends : h.Ends first last) :
    h.span? = none ↔ last.wall.since first.wall < 0 := by
  rw [span?_of_ends ends]
  split
  · next ahead => simp [ahead]
  · next behind => simpa using behind

theorem toNanos_of_span {h : History} {first last : Transition} (ends : h.Ends first last)
    {span : Span} (spans : h.span? = some span) :
    (span.toNanos : Int) = last.wall.since first.wall := by
  have fits := since_lt first.wall last.wall
  rw [span?_of_ends ends] at spans
  split at spans
  · cases spans
    rw [Span.toNanos_ofNanos (by omega)]
    omega
  · cases spans

/-- A history has no span exactly when it is empty or its last step is earlier
than its first one, but for the leap second that ends a day.

That second is lost in the distance to the second behind it.  So a last step
that is later than the first one is without a span where its part of a second
and a whole one are less than the nanoseconds of the first one, and a last step
that is earlier has a span where its nanoseconds are as many as the first one's
part of a second and a whole one, or more.

A span is the distance of the two steps, whatever lies between them, and zero
where they are at the same time. -/
theorem span_of_ends (h : History) :
    (h.span? = none ↔ h.transitions = [] ∨ ∃ first last, h.Ends first last ∧
      ((last.wall.before first.wall ∧ ¬ (last.wall.AcrossMidnight first.wall ∧
          first.wall.nanos % 1000000000 + 1000000000 ≤ last.wall.nanos)) ∨
        (first.wall.AcrossMidnight last.wall ∧
          last.wall.nanos % 1000000000 + 1000000000 < first.wall.nanos))) ∧
    ∀ first last, h.Ends first last →
      (∀ span, h.span? = some span → (span.toNanos : Int) = last.wall.since first.wall) ∧
      (last.wall = first.wall → h.span? = some .zero) := by
  refine ⟨⟨fun none => ?_, ?_⟩, fun first last ends => ⟨fun span => toNanos_of_span ends, ?_⟩⟩
  · refine h.transitions_eq_nil_or_ends.imp_right ?_
    rintro ⟨first, last, ends⟩
    exact ⟨first, last, ends, (since_neg_iff _ _).1 ((span?_eq_none_iff ends).1 none)⟩
  · rintro (empty | ⟨first, last, ends, behind⟩)
    · exact span?_of_nil empty
    · exact (span?_eq_none_iff ends).2 ((since_neg_iff _ _).2 behind)
  · intro same
    rw [span?_of_ends ends, same, since_self]
    rfl

/-- A step from one state to another, at a point of time. -/
def stepAt (wall : WallTime) : Transition :=
  { source := .idle, target := .active, trigger := "", status := .success, errorMessage := ""
    monotonic := 1, wall }

/-- Half of the leap second at the end of 2016 is left, and then the year 2017
begins: a history from the one to the other has no span, and back there is one of
half a second, although the last step is the earlier one. -/
theorem span_turns_at_midnight :
    let leap : WallTime := ⟨1483228799, 1500000000, by decide, by decide⟩
    let midnight : WallTime := ⟨1483228800, 0, by decide, by decide⟩
    leap.before midnight ∧
      History.span? ⟨[stepAt leap, stepAt midnight]⟩ = none ∧
      History.span? ⟨[stepAt midnight, stepAt leap]⟩ = some (.ofNanos 500000000) := by
  decide

end History

end AgentState
