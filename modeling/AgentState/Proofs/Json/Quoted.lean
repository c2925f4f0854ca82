/-
AgentState.Proofs.Json.Quoted — texts in strings are read back.

* `Quoted.Spelling` — the three ways in which an octet is spelled, with
  what a reader has to know about each.
* `Quoted.unescape?_escape` — a spelling means the octets it was made of.
* `Quoted.text?_ofText` — the same of texts.
-/
import AgentState.Json.Quoted

namespace AgentState.Json.Quoted

open Octet

/-- How an octet is spelled: a short escape, a `u` escape, or itself. -/
inductive Spelling (b : UInt8) : Octets → Prop where
  | short (letter : UInt8) (h : (b, letter) ∈ shortEscapes) : Spelling b [backslash, letter]
  | code (h : b < 0x20) :
      Spelling b
        [backslash, 0x75, zero, zero, ofHexDigit (b.toNat / 16), ofHexDigit (b.toNat % 16)]
  | plain (hquote : b ≠ quote) (hslash : b ≠ backslash) (h : ¬ b < 0x20) : Spelling b [b]

theorem spelling (b : UInt8) : Spelling b (escapeOne b) := by
  unfold escapeOne
  split
  · next letter h =>
    obtain ⟨before, after, hes, _⟩ := List.lookup_eq_some_iff.1 h
    exact .short letter (by simp [hes])
  · next h =>
    split
    · next hlow => exact .code hlow
    · next hhigh =>
      apply Spelling.plain _ _ hhigh
      · rintro rfl
        exact absurd h (by decide)
      · rintro rfl
        exact absurd h (by decide)

/-! ## What a spelling means -/

theorem meaning_short {b letter : UInt8} (h : (b, letter) ∈ shortEscapes) :
    letter ≠ 0x75 ∧ letterMeaning? letter = some b := by
  have all : shortEscapes.all (fun e => e.2 != 0x75 && letterMeaning? e.2 == some e.1) = true := by
    decide
  simpa using List.all_eq_true.1 all (b, letter) h

theorem hex4?_control {n : Nat} (h : n < 32) :
    hex4? zero zero (ofHexDigit (n / 16)) (ofHexDigit (n % 16)) = some n := by
  have all : ∀ n < 32, hex4? zero zero (ofHexDigit (n / 16)) (ofHexDigit (n % 16)) = some n := by
    decide
  exact all n h

theorem utf8_control {n : Nat} (h : n < 32) :
    String.utf8EncodeChar (Char.ofNat n) = [UInt8.ofNat n] := by
  have all : ∀ n < 32, String.utf8EncodeChar (Char.ofNat n) = [UInt8.ofNat n] := by decide
  exact all n h

theorem unescape?_plain {b : UInt8} (h : b ≠ backslash) (rest : Octets) :
    unescape? (b :: rest) = (unescape? rest).map (b :: ·) := by
  rw [unescape?.eq_def]
  simp [h]

theorem unescape?_letter {letter b : UInt8} (hu : letter ≠ 0x75)
    (h : letterMeaning? letter = some b) (rest : Octets) :
    unescape? (backslash :: letter :: rest) = (unescape? rest).map (b :: ·) := by
  rw [unescape?.eq_def]
  simp [hu, h]

theorem unescape?_code {h1 h2 h3 h4 : UInt8} {n : Nat} (h : hex4? h1 h2 h3 h4 = some n)
    (hhigh : isHigh n = false) (hlow : isLow n = false) (rest : Octets) :
    unescape? (backslash :: 0x75 :: h1 :: h2 :: h3 :: h4 :: rest) =
      (unescape? rest).map (String.utf8EncodeChar (Char.ofNat n) ++ ·) := by
  rw [unescape?.eq_def]
  simp [h, hhigh, hlow]

/-- The spelling of an octet means that octet, whatever follows. -/
theorem unescape?_spelling {b : UInt8} {bs : Octets} (h : Spelling b bs) (rest : Octets) :
    unescape? (bs ++ rest) = (unescape? rest).map (b :: ·) := by
  cases h with
  | short letter hmem =>
    obtain ⟨hu, hmeaning⟩ := meaning_short hmem
    exact unescape?_letter hu hmeaning rest
  | code hlow =>
    have hn : b.toNat < 32 := hlow
    have hhigh : isHigh b.toNat = false := by
      simp [isHigh]
      omega
    have hnone : isLow b.toNat = false := by
      simp [isLow]
      omega
    have hcode := unescape?_code (hex4?_control hn) hhigh hnone rest
    rw [utf8_control hn, UInt8.ofNat_toNat] at hcode
    exact hcode
  | plain hquote hslash hhigh => exact unescape?_plain hslash rest

theorem unescape?_escape (bs : Octets) : unescape? (escape bs) = some bs := by
  induction bs with
  | nil => rfl
  | cons b bs ih =>
    have hstep := unescape?_spelling (spelling b) (escape bs)
    rw [ih] at hstep
    exact hstep

/-- Every text is read back from its spelling. -/
@[simp] theorem text?_ofText (s : String) : text? (ofText s) = some s := by
  rw [text?, ofText, unescape?_escape]
  exact textOf?_octetsOf s

end AgentState.Json.Quoted
