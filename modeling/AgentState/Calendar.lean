/-
AgentState.Calendar — days and dates.

* `Date` — a year, month and day of the proleptic Gregorian calendar.
* `Date.toDay` — the number of days since 1970-01-01.
* `Date.ofDay` — the date of such a day number.

Years are counted from the first of March, so the leap day is the last
of its year, and a day is placed by its four-century cycle, century,
four-year cycle and year in turn.
-/

namespace AgentState

/-- A calendar date; `IsValid` says which of them exist. -/
structure Date where
  year : Int
  month : Nat
  day : Nat
  deriving DecidableEq

namespace Date

/-- Whether a year has a twenty-ninth of February. -/
def isLeapYear (y : Int) : Bool :=
  y % 4 == 0 && (y % 100 != 0 || y % 400 == 0)

/-- The number of days in a month. -/
def daysIn (y : Int) (m : Nat) : Nat :=
  if m = 2 then (if isLeapYear y then 29 else 28)
  else if m = 4 ∨ m = 6 ∨ m = 9 ∨ m = 11 then 30
  else 31

/-- Whether the date exists. -/
def isValid (d : Date) : Bool :=
  decide (1 ≤ d.month ∧ d.month ≤ 12 ∧ 1 ≤ d.day ∧ d.day ≤ daysIn d.year d.month)

/-- Days from 0000-03-01 to 1970-01-01. -/
def epochShift : Int := 719468

/-- Days before a month, in a year that begins in March. -/
def daysBefore (m : Nat) : Nat := (153 * m + 2) / 5

/-- The number of days since 1970-01-01. -/
def toDay (d : Date) : Int :=
  let marchMonth := if d.month > 2 then d.month - 3 else d.month + 9
  let y := if d.month > 2 then d.year else d.year - 1
  365 * y + y / 4 - y / 100 + y / 400 +
    (daysBefore marchMonth + (d.day - 1) : Nat) - epochShift

/-- The date a number of days after 1970-01-01. -/
def ofDay (n : Int) : Date :=
  let z := n + epochShift
  let cycle := z / 146097
  let inCycle := (z % 146097).toNat
  let century := min (inCycle / 36524) 3
  let inCentury := inCycle - 36524 * century
  let quad := inCentury / 1461
  let inQuad := inCentury - 1461 * quad
  let year := min (inQuad / 365) 3
  let inYear := inQuad - 365 * year
  let marchMonth := (5 * inYear + 2) / 153
  let y := 400 * cycle + (100 * century + 4 * quad + year : Nat)
  { year := if marchMonth < 10 then y else y + 1
    month := if marchMonth < 10 then marchMonth + 3 else marchMonth - 9
    day := inYear - daysBefore marchMonth + 1 }

end Date

end AgentState
