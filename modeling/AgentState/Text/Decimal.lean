/-
AgentState.Text.Decimal — natural numbers in decimal digits.

* `digits` — the digits of a number, most significant first, without
  leading zeros; `padded` — with leading zeros up to a width.
* `value` — the number that digits write; `text` and `write` — digits and
  numbers as characters.
* `value_digits` — the digits of a number are read back as that number.
* `padded_inj` — numbers with the same padded digits are the same.
-/
import AgentState.Text.Octets

namespace AgentState.Decimal

/-- The digits of a number; zero has the digit 0. -/
def digits (n : Nat) : List Nat :=
  if n < 10 then [n] else digits (n / 10) ++ [n % 10]
termination_by n
decreasing_by omega

/-- Digits with zeros in front, up to a width. -/
def padded (width n : Nat) : List Nat :=
  List.replicate (width - (digits n).length) 0 ++ digits n

/-- The number that digits write, most significant first. -/
def value (ds : List Nat) : Nat := ds.foldl (fun acc d => 10 * acc + d) 0

/-- Digits as characters. -/
def text (ds : List Nat) : String := String.ofList (ds.map Nat.digitChar)

/-- A number in decimal characters. -/
def write (n : Nat) : String := text (digits n)

/-- Digits as octets. -/
def octets (ds : List Nat) : Octets := ds.map Octet.ofDigit

theorem value_concat (ds : List Nat) (d : Nat) : value (ds ++ [d]) = 10 * value ds + d := by
  simp [value]

theorem value_digits (n : Nat) : value (digits n) = n := by
  induction n using Nat.strongRecOn with
  | ind n ih =>
    rw [digits]
    split
    · simp [value]
    · next h =>
      rw [value_concat, ih (n / 10) (by omega)]
      omega

theorem digits_lt (n : Nat) : ∀ d ∈ digits n, d < 10 := by
  induction n using Nat.strongRecOn with
  | ind n ih =>
    rw [digits]
    split
    · simpa using ‹n < 10›
    · intro d hd
      rcases List.mem_append.1 hd with hd | hd
      · exact ih (n / 10) (by omega) d hd
      · rw [List.mem_singleton.1 hd]
        omega

theorem padded_lt (width n : Nat) : ∀ d ∈ padded width n, d < 10 := by
  intro d hd
  rcases List.mem_append.1 hd with hd | hd
  · rw [List.eq_of_mem_replicate hd]
    decide
  · exact digits_lt n d hd

theorem value_zeros (k : Nat) (ds : List Nat) : value (List.replicate k 0 ++ ds) = value ds := by
  induction k with
  | zero => simp
  | succ k ih => rw [List.replicate_succ, List.cons_append, ← ih]; rfl

theorem padded_inj {width m n : Nat} (h : padded width m = padded width n) : m = n := by
  have hv := congrArg value h
  simpa [padded, value_zeros, value_digits] using hv

/-- The characters of digits tell them apart. -/
theorem text_inj {as bs : List Nat} (ha : ∀ d ∈ as, d < 10) (hb : ∀ d ∈ bs, d < 10)
    (h : text as = text bs) : as = bs := by
  have back : ∀ ds : List Nat, (∀ d ∈ ds, d < 10) →
      (ds.map Nat.digitChar).map (fun c => c.toNat - 48) = ds := by
    intro ds hd
    have one : ∀ d < 10, (Nat.digitChar d).toNat - 48 = d := by decide
    have same : ds.map ((fun c => c.toNat - 48) ∘ Nat.digitChar) = ds.map id :=
      List.map_congr_left (fun d hm => one d (hd d hm))
    rw [List.map_map, same, List.map_id]
  have hc : as.map Nat.digitChar = bs.map Nat.digitChar := by
    simpa [text] using congrArg String.toList h
  rw [← back as ha, ← back bs hb, hc]

end AgentState.Decimal
