/-
AgentState.Clock — readings of the clocks and spans of time.

* `WallTime` — a point of civil time, to the nanosecond, leap seconds
  included.
* `Span` — a length of time, never negative.
* `WallTime.since` — the signed distance of two points, in nanoseconds.
* `waitOf` — how long a wait lasts; none is longer than `longestWait`.
* `Stamp` — one reading of both clocks, `Mark` — a stamp with an
  identifier of its own, `StepMark` — what a step of the machine takes,
  `Supply` — the source of fresh ones.
-/

namespace AgentState

/-- A point of civil time in UTC.  `seconds` counts from 1970-01-01
without leap seconds.  A leap second is a second's worth of nanoseconds
more after an ordinary second.  It belongs after the last one of a minute
(`IsRegular`), but whoever changes the nanoseconds alone can put it after
any other. -/
structure WallTime where
  seconds : Int
  nanos : Nat
  within : -8334601228800 ≤ seconds ∧ seconds ≤ 8210266876799
  nanos_lt : nanos < 2000000000
  deriving DecidableEq

/-- A length of time. -/
structure Span where
  seconds : UInt64
  nanos : Nat
  nanos_lt : nanos < 1000000000
  deriving DecidableEq

namespace Span

def zero : Span := ⟨0, 0, by decide⟩

/-- The span in nanoseconds. -/
def toNanos (s : Span) : Nat := s.seconds.toNat * 1000000000 + s.nanos

/-- The span of a number of nanoseconds below 2^64 seconds. -/
def ofNanos (n : Nat) : Span :=
  ⟨UInt64.ofNat (n / 1000000000), n % 1000000000, Nat.mod_lt _ (by decide)⟩

/-- The span of a number of milliseconds. -/
def ofMillis (ms : UInt64) : Span := ofNanos (ms.toNat * 1000000)

/-- Seconds and nanoseconds carried over, when the sum fits. -/
def ofParts? (seconds : UInt64) (nanos : Nat) : Option Span :=
  let total := seconds.toNat * 1000000000 + nanos
  if total / 1000000000 < UInt64.size then some (ofNanos total) else none

end Span

namespace WallTime

/-- The start of the civil count. -/
def epoch : WallTime := ⟨0, 0, by decide, by decide⟩

/-- A leap second ends a minute. -/
def IsRegular (t : WallTime) : Prop := 1000000000 ≤ t.nanos → t.seconds % 60 = 59

instance (t : WallTime) : Decidable t.IsRegular := inferInstanceAs (Decidable (_ → _))

/-- A point of time from its parts, when there is one.  A leap second that
ends no minute is not made here. -/
def ofParts? (seconds : Int) (nanos : Nat) : Option WallTime :=
  if h : (-8334601228800 ≤ seconds ∧ seconds ≤ 8210266876799) ∧
      nanos < 2000000000 ∧ (1000000000 ≤ nanos → seconds % 60 = 59) then
    some ⟨seconds, nanos, h.1, h.2.1⟩
  else none

/-- A number of seconds earlier, when that is still a point of time.  The
nanoseconds stay as they are. -/
def earlier? (t : WallTime) (seconds : Int) : Option WallTime :=
  if h : -8334601228800 ≤ t.seconds - seconds ∧ t.seconds - seconds ≤ 8210266876799 then
    some ⟨t.seconds - seconds, t.nanos, h, t.nanos_lt⟩
  else none

/-- Calendar order: first the second, then the nanoseconds in it. -/
def before (a b : WallTime) : Prop :=
  a.seconds < b.seconds ∨ (a.seconds = b.seconds ∧ a.nanos < b.nanos)

instance (a b : WallTime) : Decidable (before a b) :=
  inferInstanceAs (Decidable (_ ∨ _))

/-- The day of a point of time, counted from 1970-01-01. -/
def day (t : WallTime) : Int := t.seconds / 86400

/-- The second of the day. -/
def secondOfDay (t : WallTime) : Int := t.seconds % 86400

/-- The signed distance in nanoseconds from `first` to `last`: whole
days, plus the distance of the times of day.  A leap second that the
times of day step over counts as one second more. -/
def since (last first : WallTime) : Int :=
  let days := last.day - first.day
  let secs := last.secondOfDay - first.secondOfDay
  let extra : Int :=
    if last.secondOfDay > first.secondOfDay ∧ 1000000000 ≤ first.nanos then 1
    else if last.secondOfDay < first.secondOfDay ∧ 1000000000 ≤ last.nanos then -1
    else 0
  (days * 86400 + secs + extra) * 1000000000 + ((last.nanos : Int) - first.nanos)

end WallTime

/-- The longest wait, in milliseconds: thirty years of 365 days.  Whoever asks
for more is woken then: a pause of 946080000001 ms is over after
946080000000 ms, and so is one of 2^64 - 1 ms. -/
def longestWait : Nat := 30 * 365 * 86400000

/-- How long a wait of so many milliseconds lasts. -/
def waitOf (ms : Nat) : Nat := min ms longestWait

/-- One reading of the clocks: the process's own, in nanoseconds, and
the civil one. -/
structure Stamp where
  monotonic : UInt64
  wall : WallTime
  deriving DecidableEq

/-- What makes a snapshot one of its own: an identifier and the time it
was made. -/
structure Mark where
  id : String
  stamp : Stamp
  deriving DecidableEq

/-- What one step of the machine takes from outside: the mark of the snapshot
that it makes, and before that a reading of the clocks for the transition
that it may record. -/
structure StepMark extends Mark where
  recorded : Stamp
  deriving DecidableEq

/-- One reading can serve for both. -/
instance : Coe Mark StepMark := ⟨fun mark => ⟨mark, mark.stamp⟩⟩

/-- An endless supply of identifiers, all different and none empty, and
of clock readings. -/
structure Supply where
  idAt : Nat → String
  readingAt : Nat → Stamp
  idAt_inj : ∀ m n, idAt m = idAt n → m = n
  idAt_ne : ∀ n, idAt n ≠ ""
  ids : Nat
  readings : Nat

namespace Supply

/-- The next identifier. -/
def id (s : Supply) : String × Supply :=
  (s.idAt s.ids, { s with ids := s.ids + 1 })

/-- The next reading of the clocks. -/
def stamp (s : Supply) : Stamp × Supply :=
  (s.readingAt s.readings, { s with readings := s.readings + 1 })

/-- The next identifier together with the next reading. -/
def mark (s : Supply) : Mark × Supply :=
  (⟨s.idAt s.ids, s.readingAt s.readings⟩,
   { s with ids := s.ids + 1, readings := s.readings + 1 })

/-- The next reading for a transition, and then the next mark. -/
def stepMark (s : Supply) : StepMark × Supply :=
  let (recorded, s) := s.stamp
  let (mark, s) := s.mark
  (⟨mark, recorded⟩, s)

end Supply

end AgentState
