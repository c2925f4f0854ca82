/-
AgentState.Proofs.Floats — the order of floats, and ratios as floats.

Of two floats that are numbers one is at most the other or greater; what is no
number is neither to anything.  A ratio of two counts is always a number: the
whole is not zero there, and a count of 64 bits is rounded to 53 binary digits
without coming near the ends of the exponents.

* `compare_swap`, `compare_eq_none_iff` — the comparison both ways round, and
  when there is none.
* `not_le_iff_lt`, `not_lt_iff_le`, `not_le_of_isNaN` — the same for floats.
* `normal_of_rounded`, `normal_ofNat` — what rounding makes of a mantissa, and
  of a count.
* `regular_of_normal`, `isNaN_unpack_pack` — what packing keeps.
* `isNaN_ratio` — ratios of counts are numbers.
-/
import AgentState.Store.Metrics
import Mathlib

namespace AgentState.Floats

open Float.Model
open Float.Model.UnpackedFloat (Sign Accuracy ExtendedMantissa roundWithAccuracy
  shiftToTargetExponent shiftToExponent packComponents)

/-! ## The order -/

/-- The comparison the other way round. -/
theorem compare_swap (x y : UnpackedFloat) : y.compare x = (x.compare y).map Ordering.swap := by
  cases x with
  | notANumber => cases y <;> rfl
  | infinity s =>
    cases y with
    | notANumber => cases s <;> rfl
    | infinity t => cases s <;> cases t <;> rfl
    | zero t => cases s <;> rfl
    | finite t m e pos => cases s <;> cases t <;> rfl
  | zero s =>
    cases y with
    | notANumber => rfl
    | infinity t => cases t <;> rfl
    | zero t => rfl
    | finite t m e pos => cases t <;> rfl
  | finite s m e pos =>
    cases y with
    | notANumber => cases s <;> rfl
    | infinity t => cases s <;> cases t <;> rfl
    | zero t => cases s <;> rfl
    | finite t m' e' pos' =>
      have back : (compare e' e).then (compare m' m) =
          ((compare e e').then (compare m m')).swap := by
        rw [Ordering.swap_then, ← Std.OrientedCmp.eq_swap, ← Std.OrientedCmp.eq_swap]
      cases s <;> cases t <;> simp [UnpackedFloat.compare, back]

/-- Only what is no number is not compared. -/
theorem compare_eq_none_iff (x y : UnpackedFloat) :
    x.compare y = none ↔ x.isNaN = true ∨ y.isNaN = true := by
  have named (z : UnpackedFloat) : z.isNaN = true ↔ z = .notANumber := by
    cases z <;> simp [UnpackedFloat.isNaN]
  rw [named, named]
  fun_cases UnpackedFloat.compare x y <;> simp_all

/-- The comparison of two floats that are numbers, either way round. -/
theorem exists_compare {x y : Float} (hx : x.isNaN = false) (hy : y.isNaN = false) :
    ∃ o, x.toModel.unpack.compare y.toModel.unpack = some o ∧
      y.toModel.unpack.compare x.toModel.unpack = some o.swap := by
  cases found : x.toModel.unpack.compare y.toModel.unpack with
  | none =>
    rcases (compare_eq_none_iff _ _).1 found with h | h
    · exact absurd (hx.symm.trans h) Bool.false_ne_true
    · exact absurd (hy.symm.trans h) Bool.false_ne_true
  | some o => exact ⟨o, rfl, by rw [compare_swap, found]; rfl⟩

theorem le_iff (x y : Float) :
    x ≤ y ↔ (x.toModel.unpack.compare y.toModel.unpack).any Ordering.isLE = true := by
  show decide (x.toModel ≤ y.toModel) = true ↔ _
  rw [decide_eq_true_iff]
  rfl

theorem lt_iff (x y : Float) :
    x < y ↔ x.toModel.unpack.compare y.toModel.unpack = some .lt := by
  show decide (x.toModel < y.toModel) = true ↔ _
  rw [decide_eq_true_iff]
  show (_ == some Ordering.lt) = true ↔ _
  rw [beq_iff_eq]

theorem not_le_iff_lt {x y : Float} (hx : x.isNaN = false) (hy : y.isNaN = false) :
    ¬ x ≤ y ↔ y < x := by
  obtain ⟨o, forth, back⟩ := exists_compare hx hy
  rw [le_iff, lt_iff, forth, back]
  cases o <;> decide

theorem not_lt_iff_le {x y : Float} (hx : x.isNaN = false) (hy : y.isNaN = false) :
    ¬ x < y ↔ y ≤ x := by
  rw [← not_le_iff_lt hy hx, Decidable.not_not]

/-- What is no number is not at most anything, and nothing is at most it. -/
theorem not_le_of_isNaN {x y : Float} (h : x.isNaN = true ∨ y.isNaN = true) : ¬ x ≤ y := by
  have none : x.toModel.unpack.compare y.toModel.unpack = none := (compare_eq_none_iff _ _).2 h
  rw [le_iff, none]
  decide

theorem isNaN_of_le {x y : Float} (h : x ≤ y) : x.isNaN = false ∧ y.isNaN = false := by
  have both : ¬ (x.isNaN = true ∨ y.isNaN = true) := fun nan => not_le_of_isNaN nan h
  simpa using both

/-! ## Rounding -/

theorem mantissa_shiftRight (em : ExtendedMantissa) (n : Nat) :
    (em >>> n).mantissa = em.mantissa / 2 ^ n := by
  show (Nat.repeat ExtendedMantissa.shiftRightOne n em).mantissa = _
  induction n with
  | zero => simp [Nat.repeat]
  | succ n ih =>
    rw [Nat.repeat, Nat.pow_succ, ← Nat.div_div_eq_div_mul, ← ih]
    rfl

theorem mantissa_ofMantissa (m : Nat) (acc : Accuracy) :
    (ExtendedMantissa.ofMantissaAndAccuracy m acc).mantissa = m := by
  cases acc with
  | exact => rfl
  | inexact o => cases o <;> rfl

/-- Rounding leaves a mantissa as it is or adds one. -/
theorem rounded_near (em : ExtendedMantissa) :
    em.mantissa ≤ em.roundedMantissa ∧ em.roundedMantissa ≤ em.mantissa + 1 := by
  unfold ExtendedMantissa.roundedMantissa Accuracy.roundToNearestEven
  split <;> omega

theorem log2_mul_two_pow {n : Nat} (pos : 0 < n) (k : Nat) : (n * 2 ^ k).log2 = n.log2 + k := by
  have least := Nat.log2_self_le (Nat.ne_of_gt pos)
  have below := Nat.lt_log2_self (n := n)
  have whole : n * 2 ^ k ≠ 0 := Nat.ne_of_gt (Nat.mul_pos pos (Nat.two_pow_pos k))
  refine (Nat.log2_eq_iff whole).2 ⟨?_, ?_⟩
  · rw [Nat.pow_add]
    exact Nat.mul_le_mul_right _ least
  · rw [Nat.add_right_comm, Nat.pow_add]
    exact Nat.mul_lt_mul_of_pos_right below (Nat.two_pow_pos k)

/-- The exponent that a mantissa is rounded to, if that is not too small. -/
theorem targetExponent_eq {m : Nat} {e : Int} (low : -1000 ≤ (m.log2 : Int) + e - 52) :
    Format.binary64.targetExponent (totalExponent m e) = m.log2 + e - 52 := by
  simp only [Format.targetExponent, totalExponent, Format.mantissaBits, Format.minExponent]
  omega

/-- A mantissa of 53 binary digits or more is cut to 53. -/
theorem shift_wide {m : Nat} {e : Int} (acc : Accuracy) (wide : 2 ^ 52 ≤ m)
    (low : -1000 ≤ (m.log2 : Int) + e - 52) :
    let shifted := shiftToTargetExponent Format.binary64 m e acc
    2 ^ 52 ≤ shifted.1.mantissa ∧ shifted.1.mantissa < 2 ^ 53 ∧
      shifted.2 = (m.log2 : Int) + e - 52 := by
  intro shifted
  have pos : m ≠ 0 := by omega
  have digits : 52 ≤ m.log2 := (Nat.le_log2 pos).2 wide
  obtain ⟨k, more⟩ : ∃ k, m.log2 = 52 + k := ⟨m.log2 - 52, by omega⟩
  have amount : ((m.log2 : Int) + e - 52 - e).toNat = k := by omega
  have cut : shifted.1.mantissa = m / 2 ^ k := by
    simp only [shifted, shiftToTargetExponent, shiftToExponent, targetExponent_eq low, amount,
      mantissa_shiftRight, mantissa_ofMantissa]
  have moved : shifted.2 = e + k := by
    simp only [shifted, shiftToTargetExponent, shiftToExponent, targetExponent_eq low, amount]
  have least := Nat.log2_self_le pos
  have below := Nat.lt_log2_self (n := m)
  rw [more, Nat.pow_add] at least
  rw [more, Nat.add_right_comm, Nat.pow_add] at below
  rw [cut, moved]
  refine ⟨?_, ?_, by omega⟩
  · exact (Nat.le_div_iff_mul_le (Nat.two_pow_pos k)).2 least
  · exact (Nat.div_lt_iff_lt_mul (Nat.two_pow_pos k)).2 below

/-- A number of 53 binary digits that is far from the ends of the exponents. -/
def Normal (x : UnpackedFloat) : Prop :=
  ∃ s m e pos, x = .finite s m e pos ∧ 2 ^ 52 ≤ m ∧ m < 2 ^ 53 ∧ -1000 ≤ e ∧ e ≤ 900

/-- Rounding makes a normal number of a wide mantissa. -/
theorem normal_of_rounded (s : Sign) {m : Nat} {e : Int} (acc : Accuracy) (wide : 2 ^ 52 ≤ m)
    (low : -1000 ≤ (m.log2 : Int) + e - 52) (high : (m.log2 : Int) + e - 52 < 900) :
    Normal (roundWithAccuracy Format.binary64 s m e acc) := by
  obtain ⟨least, below, exponent⟩ := shift_wide acc wide low
  unfold roundWithAccuracy
  generalize shiftToTargetExponent Format.binary64 m e acc = shifted at *
  obtain ⟨em, e'⟩ := shifted
  dsimp only at least below exponent ⊢
  obtain ⟨near, near'⟩ := rounded_near em
  -- The mantissa has 53 digits again, or it is 2^53 and is cut once more.
  have pos : em.roundedMantissa ≠ 0 := by omega
  have many : 52 ≤ em.roundedMantissa.log2 := (Nat.le_log2 pos).2 (by omega)
  have few : em.roundedMantissa.log2 < 54 := (Nat.log2_lt pos).2 (by omega)
  obtain ⟨least', below', exponent'⟩ :=
    shift_wide .exact (m := em.roundedMantissa) (e := e') (by omega) (by omega)
  generalize shiftToTargetExponent Format.binary64 em.roundedMantissa e' .exact = final at *
  split
  · omega
  · exact ⟨_, _, _, _, rfl, least', below', by omega, by omega⟩

/-- A positive count of 64 bits is rounded to a normal number. -/
theorem normal_ofNat {n : Nat} (pos : 0 < n) (h : n < 2 ^ 64) :
    Normal (UnpackedFloat.ofNat Format.binary64 n) := by
  have sign : compare (n : Int) 0 = .gt := by
    rw [Int.compare_eq_gt]
    omega
  have few : n.log2 < 64 := (Nat.log2_lt (Nat.ne_of_gt pos)).2 h
  have target := targetExponent_eq (m := n) (e := 0) (by omega)
  simp only [UnpackedFloat.ofNat, UnpackedFloat.ofInt, UnpackedFloat.normalize, sign,
    UnpackedFloat.round, UnpackedFloat.decreaseExponent, Int.toNat_natCast, target,
    Nat.shiftLeft_eq]
  generalize shift : ((0 : Int) - ((n.log2 : Int) + 0 - 52)).toNat = k
  have digits := log2_mul_two_pow pos k
  have whole : n * 2 ^ k ≠ 0 := Nat.ne_of_gt (Nat.mul_pos pos (Nat.two_pow_pos k))
  have wide : 2 ^ 52 ≤ n * 2 ^ k := (Nat.le_log2 whole).1 (by omega)
  exact normal_of_rounded _ _ wide (by omega) (by omega)

/-! ## Packing -/

/-- A finite number other than zero. -/
def Regular : UnpackedFloat → Prop
  | .finite .. => True
  | _ => False

/-- Where the biased exponent of 11 bits is the highest one. -/
theorem eq_of_top {b : Nat} (h : BitVec.ofNat 11 b = -1#11) : b % 2048 = 2047 :=
  congrArg BitVec.toNat h

/-- Packing keeps a normal number finite. -/
theorem regular_of_normal {x : UnpackedFloat} (h : Normal x) :
    Regular (UnpackedFloat.unpack Format.binary64 (UnpackedFloat.pack Format.binary64 x)) := by
  obtain ⟨s, m, e, pos, rfl, least, below, low, high⟩ := h
  have digits : m.log2 = 52 := (Nat.log2_eq_iff (Nat.ne_of_gt pos)).2 ⟨least, below⟩
  have biased : ∃ b : Nat, (e + Format.binary64.exponentBias +
      Format.binary64.mantissaBitsWithoutImplicit).toNat = b ∧ 0 < b ∧ b < 2000 := by
    refine ⟨(e + (1023 : Nat) + (52 : Nat)).toNat, rfl, ?_, ?_⟩ <;> omega
  obtain ⟨b, biased, small, large⟩ := biased
  have fits : ¬ 2 ^ Format.binary64.exponentBits ≤ b + 1 := by
    show ¬ 2048 ≤ b + 1
    omega
  have top : BitVec.ofNat 11 b ≠ -1#11 := fun h => by
    have value := eq_of_top h
    omega
  have bottom : BitVec.ofNat 11 b ≠ 0#11 := fun h => by
    have value : b % 2048 = 0 := congrArg BitVec.toNat h
    omega
  rw [UnpackedFloat.pack.eq_4, digits, if_pos (show 52 + 1 = Format.binary64.mantissaBits from rfl),
    biased, if_neg fits]
  unfold UnpackedFloat.unpack
  simp only [UnpackedFloat.unpackExponent_packComponents]
  rw [if_neg top, if_neg bottom]
  trivial

/-- Components are no number when the exponent is the highest one and the
mantissa is not zero. -/
theorem isNaN_packComponents (s : Sign) (e : BitVec 11) (m : BitVec 52) :
    (UnpackedFloat.unpack Format.binary64 (packComponents Format.binary64 s e m)).isNaN =
      decide (e = -1#11 ∧ m ≠ 0#52) := by
  unfold UnpackedFloat.unpack
  simp only [UnpackedFloat.unpackExponent_packComponents,
    UnpackedFloat.unpackMantissa_packComponents]
  by_cases top : e = -1#11
  · rw [if_pos top]
    by_cases empty : m = 0#52
    · rw [if_pos empty]
      exact (decide_eq_false fun h => h.2 empty).symm
    · rw [if_neg empty]
      exact (decide_eq_true ⟨top, empty⟩).symm
  · rw [if_neg top, decide_eq_false fun h => top h.1]
    split
    · split <;> rfl
    · rfl

/-- What was a number is one after packing. -/
theorem isNaN_unpack_pack {x : UnpackedFloat} (h : x.isNaN = false) :
    (UnpackedFloat.unpack Format.binary64 (UnpackedFloat.pack Format.binary64 x)).isNaN =
      false := by
  cases x with
  | notANumber => cases h
  | zero s => exact (isNaN_packComponents s _ _).trans (by decide)
  | infinity s => exact (isNaN_packComponents s _ _).trans (by decide)
  | finite s m e pos =>
    rw [UnpackedFloat.pack.eq_4]
    split
    · exact (isNaN_packComponents s _ _).trans (by decide)
    · next fits =>
      split
      · refine (isNaN_packComponents s _ _).trans (decide_eq_false fun h => fits ?_)
        have value := eq_of_top h.1
        show 2048 ≤ _ + 1
        omega
      · exact (isNaN_packComponents s _ _).trans (by simp)

/-! ## Ratios -/

/-- A quotient is a number when the divisor is a finite one other than zero. -/
theorem isNaN_div {x y : UnpackedFloat} (dividend : x.isNaN = false) (divisor : Regular y) :
    (UnpackedFloat.div Format.binary64 x y).isNaN = false := by
  cases y with
  | finite s m e pos =>
    cases x with
    | notANumber => cases dividend
    | infinity | zero => rfl
    | finite s' m' e' pos' =>
      simp only [UnpackedFloat.div, roundWithAccuracy]
      split <;> rfl
  | notANumber | infinity | zero => cases divisor

/-- A count is a number. -/
theorem isNaN_ofNat {n : Nat} (h : n < 2 ^ 64) :
    (UnpackedFloat.ofNat Format.binary64 n).isNaN = false := by
  rcases Nat.eq_zero_or_pos n with rfl | pos
  · rfl
  · obtain ⟨s, m, e, pos', same, -⟩ := normal_ofNat pos h
    rw [same]
    rfl

/-- The ratio of two counts is a number. -/
theorem isNaN_ratio (part whole : UInt64) : (ratio part whole).isNaN = false := by
  unfold ratio
  split
  · decide
  · next some =>
    have pos : 0 < whole.toNat := Nat.pos_of_ne_zero fun zero => some (UInt64.toNat_inj.1 zero)
    have dividend := isNaN_unpack_pack (isNaN_ofNat part.toNat_lt)
    have divisor := regular_of_normal (normal_ofNat pos whole.toNat_lt)
    exact isNaN_unpack_pack (isNaN_div dividend divisor)

end AgentState.Floats
