/-
AgentState.Proofs.Text.Calendar — days and dates are inverse.

* `Date.Place` — where a day stands in its four-century cycle, and
  `Place.Proper` — what holds of every such place.
* `Date.toDay_ofDay` — the date of a day has that day's number.
* `Date.isValid_ofDay` — the date of a day exists.
* `Date.year_ofDay` — the days of the years that dates can have.
-/
import AgentState.Calendar
import Mathlib.Tactic.IntervalCases

namespace AgentState.Date

/-- The place of a day in its four-century cycle: century, four-year
cycle, year and day of the year, all counted from zero. -/
structure Place where
  cycle : Int
  century : Nat
  quad : Nat
  year : Nat
  day : Nat

namespace Place

/-- The place of a day counted from 0000-03-01. -/
def ofCount (z : Int) : Place :=
  let inCycle := (z % 146097).toNat
  let century := min (inCycle / 36524) 3
  let inCentury := inCycle - 36524 * century
  let quad := inCentury / 1461
  let inQuad := inCentury - 1461 * quad
  let year := min (inQuad / 365) 3
  { cycle := z / 146097, century, quad, year, day := inQuad - 365 * year }

/-- The day of a place, counted from 0000-03-01. -/
def count (p : Place) : Int :=
  146097 * p.cycle + (36524 * p.century + 1461 * p.quad + 365 * p.year + p.day : Nat)

/-- The year of a place, which begins in March. -/
def marchYear (p : Place) : Int := 400 * p.cycle + (100 * p.century + 4 * p.quad + p.year : Nat)

/-- The month of a place, March being month 0. -/
def marchMonth (p : Place) : Nat := (5 * p.day + 2) / 153

/-- The date of a place. -/
def date (p : Place) : Date :=
  { year := if p.marchMonth < 10 then p.marchYear else p.marchYear + 1
    month := if p.marchMonth < 10 then p.marchMonth + 3 else p.marchMonth - 9
    day := p.day - daysBefore p.marchMonth + 1 }

/-- Every part of a place is in its range.  Only the last year of a
four-year cycle has a leap day, and it has none when it is the last of
its century, unless the century is the last of the cycle. -/
structure Proper (p : Place) : Prop where
  century : p.century ≤ 3
  quad : p.quad ≤ 24
  year : p.year ≤ 3
  day : p.day ≤ 365
  leap : p.day = 365 → p.year = 3 ∧ (p.quad < 24 ∨ p.century = 3)

end Place

theorem ofDay_eq (n : Int) : ofDay n = (Place.ofCount (n + epochShift)).date := rfl

namespace Place

theorem proper_ofCount (z : Int) : (ofCount z).Proper := by
  constructor <;> simp only [ofCount] <;> omega

theorem count_ofCount (z : Int) : (ofCount z).count = z := by
  simp only [ofCount, count]
  omega

theorem marchMonth_le {p : Place} (h : p.Proper) : p.marchMonth ≤ 11 := by
  have hd := h.day
  unfold marchMonth
  omega

/-- A day of the year stands inside its month. -/
theorem day_in_month (p : Place) :
    daysBefore p.marchMonth ≤ p.day ∧ p.day < daysBefore (p.marchMonth + 1) := by
  unfold marchMonth daysBefore
  omega

/-- The leap days up to a year come from its place. -/
theorem leaps_of_proper {p : Place} (h : p.Proper) :
    p.marchYear / 4 - p.marchYear / 100 + p.marchYear / 400 =
      97 * p.cycle + (24 * p.century + p.quad : Nat) := by
  have hc := h.century
  have hq := h.quad
  have hy := h.year
  have h4 : p.marchYear / 4 = 100 * p.cycle + (25 * p.century + p.quad : Nat) := by
    unfold marchYear
    omega
  have h100 : p.marchYear / 100 = 4 * p.cycle + p.century := by
    unfold marchYear
    omega
  have h400 : p.marchYear / 400 = p.cycle := by
    unfold marchYear
    omega
  rw [h4, h100, h400]
  omega

theorem toDay_date {p : Place} (h : p.Proper) : p.date.toDay = p.count - epochShift := by
  have hm := marchMonth_le h
  have hd := day_in_month p
  have hl := leaps_of_proper h
  unfold toDay
  by_cases hlow : p.marchMonth < 10
  · have hmonth : p.marchMonth + 3 > 2 := by omega
    have hback : p.marchMonth + 3 - 3 = p.marchMonth := by omega
    simp only [date, hlow, if_true, hmonth, hback]
    unfold count marchYear at *
    omega
  · have hmonth : ¬ p.marchMonth - 9 > 2 := by omega
    have hback : p.marchMonth - 9 + 9 = p.marchMonth := by omega
    have hyear : p.marchYear + 1 - 1 = p.marchYear := by omega
    simp only [date, hlow, if_false, hmonth, hback, hyear]
    unfold count marchYear at *
    omega

/-- The year after a leap day's March year has a leap day. -/
theorem isLeapYear_of_day {p : Place} (h : p.Proper) (hd : p.day = 365) :
    isLeapYear (p.marchYear + 1) = true := by
  have hc := h.century
  have hq := h.quad
  obtain ⟨hy, hlast⟩ := h.leap hd
  have h4 : (p.marchYear + 1) % 4 = 0 := by
    unfold marchYear
    omega
  have h100 : (p.marchYear + 1) % 100 ≠ 0 ∨ (p.marchYear + 1) % 400 = 0 := by
    unfold marchYear
    omega
  simpa [isLeapYear, h4] using h100

/-- A month of the March year is as long as the calendar says; February,
the last of them, is cut short by the end of the year. -/
theorem length_month (y : Int) {m : Nat} (hm : m < 11) :
    daysIn y (if m < 10 then m + 3 else m - 9) = daysBefore (m + 1) - daysBefore m := by
  interval_cases m <;> simp [daysIn, daysBefore]

theorem day_le_daysIn {p : Place} (h : p.Proper) :
    p.date.day ≤ daysIn p.date.year p.date.month := by
  have hm := marchMonth_le h
  have hmonth := day_in_month p
  rcases Nat.lt_or_eq_of_le hm with hlt | hfeb
  · have hlen := length_month p.date.year hlt
    simp only [date] at hlen ⊢
    rw [hlen]
    omega
  · -- in February the end of the year decides, and whether there is a leap day
    have hday := h.day
    have hleap := isLeapYear_of_day h
    have hstart : daysBefore 11 = 337 := rfl
    simp only [date, hfeb, hstart, daysIn]
    simp only [hfeb, hstart] at hmonth
    by_cases hlast : p.day = 365
    · simp [hleap hlast, hlast]
    · have hfeb' : p.day - 337 + 1 ≤ 28 := by omega
      simp
      split <;> omega

theorem isValid_date {p : Place} (h : p.Proper) : p.date.isValid = true := by
  have hm := marchMonth_le h
  have hday := day_le_daysIn h
  have hfirst : 1 ≤ p.date.month ∧ p.date.month ≤ 12 := by
    simp only [date]
    split <;> omega
  have hone : 1 ≤ p.date.day := Nat.le_add_left 1 _
  rw [isValid, decide_eq_true_iff]
  exact ⟨hfirst.1, hfirst.2, hone, hday⟩

end Place

/-! ## Dates of days -/

theorem toDay_ofDay (n : Int) : (ofDay n).toDay = n := by
  rw [ofDay_eq, Place.toDay_date (Place.proper_ofCount _), Place.count_ofCount]
  omega

theorem isValid_ofDay (n : Int) : (ofDay n).isValid = true := by
  rw [ofDay_eq]
  exact Place.isValid_date (Place.proper_ofCount _)

theorem le_of_isValid {d : Date} (h : d.isValid = true) : d.month ≤ 12 ∧ d.day ≤ 31 := by
  rw [isValid, decide_eq_true_iff] at h
  obtain ⟨_, hmonth, _, hday⟩ := h
  have hlen : daysIn d.year d.month ≤ 31 := by
    unfold daysIn
    split
    · split <;> omega
    · split <;> omega
  exact ⟨hmonth, Nat.le_trans hday hlen⟩

/-- The days from the first to the last year that dates can have are in
those years. -/
theorem year_ofDay {n : Int} (hlow : -96465292 ≤ n) (hhigh : n ≤ 95026236) :
    -262143 ≤ (ofDay n).year ∧ (ofDay n).year ≤ 262142 := by
  have hp := Place.proper_ofCount (n + epochShift)
  have hcount := Place.count_ofCount (n + epochShift)
  rw [ofDay_eq]
  generalize Place.ofCount (n + epochShift) = p at hp hcount ⊢
  have hc := hp.century
  have hq := hp.quad
  have hy := hp.year
  have hd := hp.day
  have hmonth : p.marchMonth < 10 ↔ p.day < 306 := by
    unfold Place.marchMonth
    omega
  unfold Place.count epochShift at hcount
  -- the years are settled by the cycle, except in the first cycle and the last
  have hcycle : p.cycle = -656 ∨ (-655 ≤ p.cycle ∧ p.cycle ≤ 654) ∨ p.cycle = 655 := by omega
  have hcent : p.century = 0 ∨ p.century = 1 ∨ p.century = 2 ∨ p.century = 3 := by omega
  simp only [Place.date, hmonth, Place.marchYear]
  rcases hcycle with hfirst | ⟨hlower, hupper⟩ | hlast
  · rw [hfirst] at hcount ⊢
    rcases hcent with hcent | hcent | hcent | hcent <;> rw [hcent] at hcount ⊢ <;>
      split <;> omega
  · split <;> omega
  · rw [hlast] at hcount ⊢
    rcases hcent with hcent | hcent | hcent | hcent <;> rw [hcent] at hcount ⊢ <;>
      split <;> omega

end AgentState.Date
