/-
AgentState.Proofs.Json.Numeral — integers in documents are read back.

* `Numeral.read?_integerLexeme` — the parts of a written integer.
* `Numeral.integer?_integerLexeme` — its value; zero is written without
  a sign, so no written integer is a negative zero.
-/
import AgentState.Json.Form
import AgentState.Proofs.Text.Decimal

namespace AgentState.Json.Numeral

open Octet

theorem span_octets {ds : List Nat} (hds : ∀ d ∈ ds, d < 10) :
    span (Decimal.octets ds) = (ds, []) := by
  have hall := Decimal.all_octets hds
  have hend : ∀ b ∈ ([] : Octets).head?, isDigit b = false := by simp
  have htake := Decimal.takeWhile_front hall hend
  have hdrop := Decimal.dropWhile_front hall hend
  rw [List.append_nil] at htake hdrop
  rw [span, htake, hdrop, Decimal.digits_of_octets hds]

/-- A number has no zero in front of its digits. -/
theorem proper_digits (n : Nat) :
    ¬ (Decimal.digits n = [] ∨
      ((Decimal.digits n).head? = some 0 ∧ 1 < (Decimal.digits n).length)) := by
  intro h
  rcases h with hnil | ⟨hzero, hlong⟩
  · exact Decimal.digits_ne_nil n hnil
  · rw [Decimal.head_digits hzero, Decimal.digits] at hlong
    simp at hlong

theorem octets_digits_cons (n : Nat) :
    ∃ b bs, Decimal.octets (Decimal.digits n) = b :: bs ∧ isDigit b = true := by
  have hall := Decimal.all_octets (Decimal.digits_lt n)
  cases hbs : Decimal.octets (Decimal.digits n) with
  | nil => exact absurd (List.map_eq_nil_iff.1 hbs) (Decimal.digits_ne_nil n)
  | cons b bs => exact ⟨b, bs, rfl, hall b (by simp [hbs])⟩

/-- The digits of a number, without a sign or behind one. -/
theorem read?_digits (n : Nat) :
    read? (Decimal.octets (Decimal.digits n)) = some ⟨false, Decimal.digits n, [], none⟩ := by
  obtain ⟨b, bs, hbs, hb⟩ := octets_digits_cons n
  have hminus : b ≠ minus := by
    rintro rfl
    exact absurd hb (by decide)
  have hspan := span_octets (Decimal.digits_lt n)
  rw [hbs] at hspan ⊢
  unfold read?
  simp only [if_neg hminus, hspan, if_neg (proper_digits n)]

theorem read?_minus_digits (n : Nat) :
    read? (minus :: Decimal.octets (Decimal.digits n)) =
      some ⟨true, Decimal.digits n, [], none⟩ := by
  have hspan := span_octets (Decimal.digits_lt n)
  unfold read?
  simp only [if_true, hspan, if_neg (proper_digits n)]

theorem read?_integerLexeme (n : Int) :
    read? (integerLexeme n) = some ⟨decide (n < 0), Decimal.digits n.natAbs, [], none⟩ := by
  unfold integerLexeme
  by_cases h : n < 0
  · simp [h, read?_minus_digits]
  · simp [h, read?_digits]

theorem integer?_whole (negative : Bool) (n : Nat) :
    integer? ⟨negative, Decimal.digits n, [], none⟩ =
      if negative then (if n = 0 then none else some (-(n : Int))) else some (n : Int) := by
  simp [integer?, Decimal.value_digits]

theorem integer?_integerLexeme (n : Int) :
    (read? (integerLexeme n)).bind integer? = some n := by
  rw [read?_integerLexeme, Option.bind_some, integer?_whole]
  by_cases h : n < 0
  · have hne : n.natAbs ≠ 0 := by omega
    have hback : -(n.natAbs : Int) = n := by omega
    rw [decide_eq_true h, if_pos rfl, if_neg hne, hback]
  · have hback : (n.natAbs : Int) = n := by omega
    rw [decide_eq_false h, if_neg Bool.false_ne_true, hback]

end AgentState.Json.Numeral
