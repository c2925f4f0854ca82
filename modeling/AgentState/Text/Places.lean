/-
AgentState.Text.Places — a real number with a fixed number of decimals.

* `roundDiv` — the integer nearest to a quotient; a half goes to the even
  neighbour.
* `Places.text` — the exact value of a float, rounded so, with a given
  number of decimals.
* `roundDiv_close` — the rounding error is at most one half.
-/
import AgentState.Text.Decimal

namespace AgentState

/-- The integer nearest to `num / den`; a half goes to the even
neighbour. -/
def roundDiv (num den : Nat) : Nat :=
  let q := num / den
  let r := num % den
  if 2 * r < den then q
  else if 2 * r = den then q + q % 2
  else q + 1

/-- Twice the distance of `roundDiv num den` from `num / den` is at most
one, in units of `1 / den`. -/
theorem roundDiv_close (num den : Nat) (h : 0 < den) :
    2 * (roundDiv num den * den) ≤ 2 * num + den ∧
      2 * num ≤ 2 * (roundDiv num den * den) + den := by
  have hdm : den * (num / den) + num % den = num := Nat.div_add_mod num den
  have hlt : num % den < den := Nat.mod_lt num h
  have hmul : num / den * den = den * (num / den) := Nat.mul_comm _ _
  have hsucc : (num / den + 1) * den = den * (num / den) + den := by
    rw [Nat.succ_mul, hmul]
  unfold roundDiv
  simp only
  split
  · omega
  · split
    · have h2 : num / den % 2 = 0 ∨ num / den % 2 = 1 := by omega
      rcases h2 with h2 | h2 <;> simp only [h2, Nat.add_zero, hmul, hsucc] <;> omega
    · rw [hsucc]; omega

namespace Places

/-- The sign bit of a float. -/
def isNegative (x : Float) : Bool := x.toBits.toNat / 0x8000000000000000 == 1

/-- The size of a finite float as a fraction: numerator and denominator. -/
def magnitude (x : Float) : Nat × Nat :=
  let bits := x.toBits.toNat
  let field := bits / 0x10000000000000 % 0x800
  let low := bits % 0x10000000000000
  let mantissa := if field = 0 then low else low + 0x10000000000000
  let power := if field = 0 then 1 else field
  if power < 1075 then (mantissa, Nat.pow 2 (1075 - power))
  else (mantissa * Nat.pow 2 (power - 1075), 1)

/-- The text of a float with a fixed number of decimals. -/
def text (places : Nat) (x : Float) : String :=
  if x.isNaN then "NaN"
  else
    let sign := if isNegative x then "-" else ""
    if x.isInf then sign ++ "inf"
    else
      let m := magnitude x
      let ds := Decimal.padded (places + 1) (roundDiv (m.1 * Nat.pow 10 places) m.2)
      let whole := ds.take (ds.length - places)
      let rest := ds.drop (ds.length - places)
      sign ++ Decimal.text whole ++ (if places = 0 then "" else "." ++ Decimal.text rest)

end Places

end AgentState
