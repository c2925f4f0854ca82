/-
AgentState.Proofs.Text.Decimal — digits that are written and read.

* `Decimal.length_padded`, `Decimal.value_padded` — padding keeps the
  number and gives it its width; `length_padded_le` for any width.
* `Decimal.head_digits` — only zero begins with the digit 0.
* `Decimal.digits_of_chars`, `Decimal.digits_of_octets` — digits are read
  back from their characters and octets.
* `Decimal.takeWhile_front`, `Decimal.dropWhile_front` — a scan takes all
  digits of a number and stops at what follows them.
-/
import AgentState.Text.Timestamp
import Mathlib.Algebra.Group.Nat.Defs

namespace AgentState.Decimal

theorem digits_ne_nil (n : Nat) : digits n ≠ [] := by
  rw [digits]
  split <;> simp

theorem length_digits_le {n : Nat} : ∀ {width : Nat}, n < 10 ^ (width + 1) →
    (digits n).length ≤ width + 1 := by
  intro width hn
  induction width generalizing n with
  | zero =>
    rw [digits, if_pos (by omega)]
    simp
  | succ width ih =>
    rw [digits]
    split
    · simp
    · have hq : n / 10 < 10 ^ (width + 1) := by
        rw [Nat.pow_succ] at hn
        omega
      have hlen := ih hq
      simp only [List.length_append, List.length_singleton]
      omega

theorem length_padded {width n : Nat} (hn : n < 10 ^ (width + 1)) :
    (padded (width + 1) n).length = width + 1 := by
  have hlen := length_digits_le hn
  simp only [padded, List.length_append, List.length_replicate]
  omega

theorem length_padded_le {width k n : Nat} (hn : n < 10 ^ (k + 1)) :
    (padded width n).length ≤ width + (k + 1) := by
  have hlen := length_digits_le hn
  simp only [padded, List.length_append, List.length_replicate]
  omega

theorem padded_ne_nil (width n : Nat) : padded width n ≠ [] := by
  simp [padded, digits_ne_nil]

theorem value_padded (width n : Nat) : value (padded width n) = n := by
  rw [padded, value_zeros, value_digits]

/-- Only zero begins with the digit 0. -/
theorem head_digits {n : Nat} (h : (digits n).head? = some 0) : n = 0 := by
  induction n using Nat.strongRecOn with
  | ind n ih =>
    rw [digits] at h
    split at h
    · simpa using h
    · have hq : (digits (n / 10)).head? = some 0 := by
        cases hds : digits (n / 10) with
        | nil => exact absurd hds (digits_ne_nil _)
        | cons d ds => simpa [hds] using h
      have hzero := ih (n / 10) (by omega) hq
      omega

/-! ## Scanning for digits -/

theorem digitValue_ofDigit {d : Nat} (h : d < 10) : Octet.digitValue (Octet.ofDigit d) = d := by
  have all : ∀ d < 10, Octet.digitValue (Octet.ofDigit d) = d := by decide
  exact all d h

theorem isDigit_ofDigit {d : Nat} (h : d < 10) : Octet.isDigit (Octet.ofDigit d) = true := by
  have all : ∀ d < 10, Octet.isDigit (Octet.ofDigit d) = true := by decide
  exact all d h

theorem digitOf_digitChar {d : Nat} (h : d < 10) :
    Timestamp.digitOf (Nat.digitChar d) = d := by
  have all : ∀ d < 10, Timestamp.digitOf (Nat.digitChar d) = d := by decide
  exact all d h

theorem isDigit_digitChar {d : Nat} (h : d < 10) : (Nat.digitChar d).isDigit = true := by
  have all : ∀ d < 10, (Nat.digitChar d).isDigit = true := by decide
  exact all d h

theorem all_chars {ds : List Nat} (h : ∀ d ∈ ds, d < 10) :
    ∀ c ∈ ds.map Nat.digitChar, c.isDigit = true := by
  intro c hc
  obtain ⟨d, hd, rfl⟩ := List.mem_map.1 hc
  exact isDigit_digitChar (h d hd)

theorem all_octets {ds : List Nat} (h : ∀ d ∈ ds, d < 10) :
    ∀ b ∈ octets ds, Octet.isDigit b = true := by
  intro b hb
  obtain ⟨d, hd, rfl⟩ := List.mem_map.1 hb
  exact isDigit_ofDigit (h d hd)

theorem digits_of_chars {ds : List Nat} (h : ∀ d ∈ ds, d < 10) :
    (ds.map Nat.digitChar).map Timestamp.digitOf = ds := by
  rw [List.map_map]
  conv => rhs; rw [← List.map_id ds]
  exact List.map_congr_left (fun d hd => digitOf_digitChar (h d hd))

theorem digits_of_octets {ds : List Nat} (h : ∀ d ∈ ds, d < 10) :
    (octets ds).map Octet.digitValue = ds := by
  rw [octets, List.map_map]
  conv => rhs; rw [← List.map_id ds]
  exact List.map_congr_left (fun d hd => digitValue_ofDigit (h d hd))

/-- A scan stops at the end of the octets or characters that pass, when
what follows them begins with none. -/
theorem takeWhile_front {α : Type} {p : α → Bool} {front rest : List α}
    (hfront : ∀ a ∈ front, p a = true) (hrest : ∀ a ∈ rest.head?, p a = false) :
    (front ++ rest).takeWhile p = front := by
  rw [List.takeWhile_append_of_pos hfront]
  cases rest with
  | nil => simp
  | cons a rest =>
    have ha := hrest a rfl
    simp [ha]

theorem dropWhile_front {α : Type} {p : α → Bool} {front rest : List α}
    (hfront : ∀ a ∈ front, p a = true) (hrest : ∀ a ∈ rest.head?, p a = false) :
    (front ++ rest).dropWhile p = rest := by
  rw [List.dropWhile_append_of_pos hfront]
  cases rest with
  | nil => simp
  | cons a rest =>
    have ha := hrest a rfl
    simp [ha]

/-- The same for a scan that looks at no more than `limit` characters. -/
theorem takeWhile_take_front {α : Type} {p : α → Bool} {front rest : List α} {limit : Nat}
    (hfront : ∀ a ∈ front, p a = true) (hrest : ∀ a ∈ rest.head?, p a = false)
    (hlimit : front.length ≤ limit) : ((front ++ rest).take limit).takeWhile p = front := by
  rw [List.take_append, List.take_of_length_le hlimit]
  apply takeWhile_front hfront
  intro a ha
  rw [List.head?_take] at ha
  split at ha
  · simp at ha
  · exact hrest a ha

end AgentState.Decimal
