/-
AgentState.Text.Serial — identifiers that count.

* `serial` — a stem and a number.
* `Supply.numbered` — the supply whose identifiers are the numbers of one
  stem.
-/
import AgentState.Clock
import AgentState.Text.Decimal

namespace AgentState

/-- The identifier of a number: the stem and at least twelve digits. -/
def serial (stem : String) (n : Nat) : String := stem ++ Decimal.text (Decimal.padded 12 n)

theorem serial_inj {stem : String} {m n : Nat} (h : serial stem m = serial stem n) : m = n := by
  have ht : Decimal.text (Decimal.padded 12 m) = Decimal.text (Decimal.padded 12 n) := by
    have hl := congrArg String.toList h
    simp only [serial, String.toList_append] at hl
    exact String.toList_inj.1 (List.append_cancel_left hl)
  exact Decimal.padded_inj
    (Decimal.text_inj (Decimal.padded_lt 12 m) (Decimal.padded_lt 12 n) ht)

theorem serial_ne_empty (stem : String) (n : Nat) : serial stem n ≠ "" := by
  intro h
  have hl := congrArg String.toList h
  simp only [serial, Decimal.text, String.toList_append, String.toList_ofList,
    String.toList_empty, List.append_eq_nil_iff, List.map_eq_nil_iff] at hl
  have hd : Decimal.digits n = [] := (List.append_eq_nil_iff.1 hl.2).2
  rw [Decimal.digits] at hd
  split at hd
  · cases hd
  · simp at hd

/-- The supply of the identifiers of a stem, counted from zero. -/
def Supply.numbered (stem : String) (readingAt : Nat → Stamp) : Supply where
  idAt := serial stem
  readingAt := readingAt
  idAt_inj := fun _ _ h => serial_inj h
  idAt_ne := serial_ne_empty stem
  ids := 0
  readings := 0

end AgentState
