import Mathlib.Algebra.Order.Field.Power
import Mathlib.Data.Int.Log
import Mathlib.Data.NNRat.Floor
import Mathlib.Tactic.Common
import Mathlib.Tactic.FieldSimp
import Mathlib.Tactic.Positivity

/-! C floating values as signed exact magnitudes, and the rounding of a magnitude
to a binary format, to nearest with ties to even. The sign is kept apart so that
negative zero is a value of its own. -/

namespace Foundation.BinaryFloat

inductive Number where
  | finite (negative : Bool) (magnitude : ℚ≥0)
  | infinite (negative : Bool)
  | nan (negative : Bool)
deriving DecidableEq

def Number.zero : Number := .finite false 0

/-- The comparison with `0.0`, false on a NaN and true on negative zero. -/
def Number.nonneg : Number → Bool
  | .finite negative magnitude => !negative || magnitude = 0
  | .infinite negative => !negative
  | .nan _ => false

def Number.toRat : Number → Option ℚ
  | .finite negative magnitude => some (if negative then -(magnitude : ℚ) else magnitude)
  | .infinite _ => none
  | .nan _ => none

structure Format where
  precision : Nat
  minExponent : Int
  maxExponent : Int

def binary32 : Format := { precision := 24, minExponent := -126, maxExponent := 127 }

def binary64 : Format := { precision := 53, minExponent := -1022, maxExponent := 1023 }

def roundHalfEven (value : ℚ≥0) : Nat :=
  let below := ⌊value⌋₊
  if 2 * value < 2 * below + 1 then below
  else if 2 * below + 1 < 2 * value then below + 1
  else if below % 2 = 0 then below else below + 1

def ldexp (value : ℚ≥0) (exponent : Int) : ℚ≥0 := value * 2 ^ exponent

def Format.lastPlace (format : Format) (magnitude : ℚ≥0) : Int :=
  max (Int.log 2 magnitude) format.minExponent - (format.precision - 1)

def Format.roundMagnitude (format : Format) (magnitude : ℚ≥0) : ℚ≥0 :=
  roundHalfEven (magnitude / 2 ^ format.lastPlace magnitude) * 2 ^ format.lastPlace magnitude

def Number.round (format : Format) : Number → Number
  | .finite negative magnitude =>
      if 2 ^ (format.maxExponent + 1) ≤ format.roundMagnitude magnitude then .infinite negative
      else .finite negative (format.roundMagnitude magnitude)
  | .infinite negative => .infinite negative
  | .nan negative => .nan negative

theorem Number.round_finite (format : Format) (negative : Bool) (magnitude : ℚ≥0) :
    (Number.finite negative magnitude).round format =
      if 2 ^ (format.maxExponent + 1) ≤ format.roundMagnitude magnitude then .infinite negative
      else .finite negative (format.roundMagnitude magnitude) := rfl

theorem roundHalfEven_natCast (value : Nat) : roundHalfEven value = value := by
  have below : ⌊(value : ℚ≥0)⌋₊ = value := Nat.floor_natCast value
  simp only [roundHalfEven, below]
  rw [if_pos]
  exact lt_add_one _

/-- Rounding stays below an even bound exactly up to the tie just under it. -/
theorem roundHalfEven_lt_iff (value : ℚ≥0) {bound : Nat} (even : bound % 2 = 0) :
    roundHalfEven value < bound ↔ 2 * value + 1 < 2 * bound := by
  have lower : ((⌊value⌋₊ : ℚ≥0) : ℚ) ≤ value := by exact_mod_cast Nat.floor_le zero_le
  have upper : (value : ℚ) < (⌊value⌋₊ : ℚ≥0) + 1 := by exact_mod_cast Nat.lt_floor_add_one value
  have exactBound : 2 * value + 1 < 2 * (bound : ℚ≥0) ↔ (2 * value + 1 : ℚ) < 2 * bound := by
    rw [← NNRat.coe_lt_coe]
    push_cast
    rfl
  have tieBelow : 2 * value < 2 * (⌊value⌋₊ : ℚ≥0) + 1 ↔ (2 * value : ℚ) < 2 * ⌊value⌋₊ + 1 := by
    rw [← NNRat.coe_lt_coe]
    push_cast
    rfl
  simp only [NNRat.cast_natCast] at lower upper
  rw [exactBound]
  rcases lt_trichotomy (⌊value⌋₊ + 1) bound with far | near | beyond
  · have farCast : (⌊value⌋₊ : ℚ) + 2 ≤ bound := by exact_mod_cast far
    have atMost : roundHalfEven value ≤ ⌊value⌋₊ + 1 := by
      simp only [roundHalfEven]
      split_ifs <;> omega
    exact iff_of_true (by omega) (by linarith)
  · have nearCast : (bound : ℚ) = ⌊value⌋₊ + 1 := by exact_mod_cast near.symm
    have odd : ⌊value⌋₊ % 2 ≠ 0 := by omega
    by_cases below : 2 * value < 2 * (⌊value⌋₊ : ℚ≥0) + 1
    · have rounded : roundHalfEven value = ⌊value⌋₊ := by
        simp only [roundHalfEven, if_pos below]
      have belowCast := tieBelow.1 below
      exact iff_of_true (by omega) (by linarith)
    · have rounded : roundHalfEven value = ⌊value⌋₊ + 1 := by
        simp only [roundHalfEven, if_neg below, if_neg odd, ite_self]
      have aboveCast := mt tieBelow.2 below
      exact iff_of_false (by omega) (by linarith)
  · have overCast : (bound : ℚ) ≤ ⌊value⌋₊ := by exact_mod_cast Nat.lt_succ_iff.1 beyond
    have atLeast : ⌊value⌋₊ ≤ roundHalfEven value := by
      simp only [roundHalfEven]
      split_ifs <;> omega
    exact iff_of_false (by omega) (by linarith)

private theorem roundHalfEven_le {value : ℚ≥0} {bound : Nat} (le : value ≤ bound) :
    roundHalfEven value ≤ bound := by
  have below : ⌊value⌋₊ ≤ bound := Nat.floor_le_of_le le
  rcases Nat.lt_or_eq_of_le below with less | equal
  · simp only [roundHalfEven]
    split_ifs <;> omega
  · have whole : value = bound := by
      apply le_antisymm le
      rw [← equal]
      exact Nat.floor_le zero_le
    rw [whole, roundHalfEven_natCast]

private theorem le_roundHalfEven {value : ℚ≥0} {bound : Nat} (le : (bound : ℚ≥0) ≤ value) :
    bound ≤ roundHalfEven value := by
  have below : bound ≤ ⌊value⌋₊ := Nat.le_floor le
  simp only [roundHalfEven]
  split_ifs <;> omega

private theorem two_zpow_add (exponent : Int) (shift : Nat) :
    (2 : ℚ≥0) ^ (exponent + shift) = ((2 ^ shift : Nat) : ℚ≥0) * 2 ^ exponent := by
  push_cast
  rw [zpow_add₀ (by norm_num), zpow_natCast, mul_comm]

private theorem roundMagnitude_le {format : Format} {magnitude : ℚ≥0} {bound : Nat}
    (le : magnitude ≤ bound * 2 ^ format.lastPlace magnitude) :
    format.roundMagnitude magnitude ≤ bound * 2 ^ format.lastPlace magnitude := by
  rw [← div_le_iff₀ (by positivity)] at le
  have rounded : (roundHalfEven (magnitude / 2 ^ format.lastPlace magnitude) : ℚ≥0) ≤ bound := by
    exact_mod_cast roundHalfEven_le le
  exact mul_le_mul_of_nonneg_right rounded zero_le

private theorem le_roundMagnitude {format : Format} {magnitude : ℚ≥0} {bound : Nat}
    (le : bound * 2 ^ format.lastPlace magnitude ≤ magnitude) :
    bound * 2 ^ format.lastPlace magnitude ≤ format.roundMagnitude magnitude := by
  rw [← le_div_iff₀ (by positivity)] at le
  have rounded : (bound : ℚ≥0) ≤ roundHalfEven (magnitude / 2 ^ format.lastPlace magnitude) := by
    exact_mod_cast le_roundHalfEven le
  exact mul_le_mul_of_nonneg_right rounded zero_le

private theorem roundMagnitude_zero (format : Format) : format.roundMagnitude 0 = 0 := by
  have noMantissa : roundHalfEven 0 = 0 := by
    exact_mod_cast roundHalfEven_natCast 0
  simp [Format.roundMagnitude, noMantissa]

theorem Number.round_zero (format : Format) : Number.zero.round format = Number.zero := by
  have positive : (0 : ℚ≥0) < 2 ^ (format.maxExponent + 1) := by positivity
  rw [Number.zero, Number.round_finite, roundMagnitude_zero, if_neg (not_le.2 positive)]

/-- Against the binade that starts at `2 ^ (exponent + precision - 1)`, a magnitude
is below it and rounded to its start at most, in it and rounded in its last
place, or above it and rounded to its end at least. -/
private theorem roundMagnitude_binade (format : Format) (positive : 0 < format.precision)
    (exponent : Int) (normal : format.minExponent - (format.precision - 1) ≤ exponent)
    (magnitude : ℚ≥0) :
    (magnitude < 2 ^ (exponent + (format.precision - 1)) ∧
        format.roundMagnitude magnitude ≤ 2 ^ (exponent + (format.precision - 1))) ∨
      format.lastPlace magnitude = exponent ∨
      ((2 : ℚ≥0) ^ (exponent + format.precision) ≤ magnitude ∧
        2 ^ (exponent + format.precision) ≤ format.roundMagnitude magnitude) := by
  rcases eq_or_lt_of_le (zero_le : 0 ≤ magnitude) with zero | magnitudePos
  · subst magnitude
    rw [roundMagnitude_zero]
    exact Or.inl ⟨by positivity, by positivity⟩
  · have lower : (2 : ℚ≥0) ^ Int.log 2 magnitude ≤ magnitude := by
      have log := Int.zpow_log_le_self (b := 2) (by decide) magnitudePos
      exact_mod_cast log
    have upper : magnitude < (2 : ℚ≥0) ^ (Int.log 2 magnitude + 1) := by
      have log := Int.lt_zpow_succ_log_self (b := 2) (by decide) magnitude
      exact_mod_cast log
    rcases lt_trichotomy (Int.log 2 magnitude) (exponent + (format.precision - 1)) with
      less | same | more
    · have below : magnitude < 2 ^ (exponent + (format.precision - 1)) :=
        lt_of_lt_of_le upper (zpow_le_zpow_right₀ (by norm_num) (by omega))
      have place : format.lastPlace magnitude ≤ exponent + (format.precision - 1) := by
        unfold Format.lastPlace
        omega
      obtain ⟨shift, shiftEq⟩ := Int.eq_ofNat_of_zero_le (Int.sub_nonneg.2 place)
      have start : exponent + (format.precision - 1) = format.lastPlace magnitude + shift := by
        omega
      refine Or.inl ⟨below, ?_⟩
      rw [start, two_zpow_add] at below ⊢
      exact roundMagnitude_le below.le
    · refine Or.inr (Or.inl ?_)
      unfold Format.lastPlace
      omega
    · have above : (2 : ℚ≥0) ^ (exponent + format.precision) ≤ 2 ^ Int.log 2 magnitude :=
        zpow_le_zpow_right₀ (by norm_num) (by omega)
      have start : Int.log 2 magnitude =
          format.lastPlace magnitude + ((format.precision - 1 : Nat) : Int) := by
        unfold Format.lastPlace
        omega
      refine Or.inr (Or.inr ⟨above.trans lower, above.trans ?_⟩)
      rw [start, two_zpow_add] at lower ⊢
      exact le_roundMagnitude lower

/-- The numbers `mantissa * 2 ^ exponent` that a format can tell from the number
one last place below, and that win the tie with it. -/
structure Format.EvenBound (format : Format) (mantissa : Nat) (exponent : Int) : Prop where
  lower : 2 ^ (format.precision - 1) < mantissa
  upper : mantissa ≤ 2 ^ format.precision
  even : mantissa % 2 = 0
  normal : format.minExponent - (format.precision - 1) ≤ exponent
  positive : 0 < format.precision

/-- Rounding stays below such a bound exactly up to the tie under it, and then it
stays one last place below it. -/
theorem Format.EvenBound.roundMagnitude_lt_iff {format : Format} {mantissa : Nat} {exponent : Int}
    (bound : format.EvenBound mantissa exponent) (magnitude : ℚ≥0) :
    (format.roundMagnitude magnitude < mantissa * 2 ^ exponent ↔
        2 * magnitude + 2 ^ exponent < 2 * (mantissa * 2 ^ exponent)) ∧
      (format.roundMagnitude magnitude < mantissa * 2 ^ exponent →
        format.roundMagnitude magnitude ≤ (mantissa - 1 : Nat) * 2 ^ exponent) := by
  have placePos : (0 : ℚ≥0) < 2 ^ exponent := by positivity
  have precisionPred : (format.precision : Int) - 1 = ((format.precision - 1 : Nat) : Int) := by
    have positive := bound.positive
    omega
  have predecessor : ((mantissa - 1 : Nat) : ℚ≥0) + 1 = mantissa := by
    have nonzero : mantissa - 1 + 1 = mantissa := by
      have positive := Nat.lt_of_le_of_lt (Nat.zero_le _) bound.lower
      omega
    exact_mod_cast nonzero
  have mantissaEq : (mantissa : ℚ≥0) * 2 ^ exponent =
      (mantissa - 1 : Nat) * 2 ^ exponent + 2 ^ exponent := by
    rw [← predecessor, add_mul, one_mul]
  have lowerCast : ((2 ^ (format.precision - 1) : Nat) : ℚ≥0) ≤ (mantissa - 1 : Nat) := by
    exact_mod_cast Nat.le_sub_one_of_lt bound.lower
  have upperCast : (mantissa : ℚ≥0) ≤ ((2 ^ format.precision : Nat) : ℚ≥0) := by
    exact_mod_cast bound.upper
  rcases roundMagnitude_binade format bound.positive exponent bound.normal magnitude with
    ⟨below, rounded⟩ | place | ⟨above, rounded⟩
  · rw [precisionPred, two_zpow_add] at below rounded
    have small : format.roundMagnitude magnitude ≤ (mantissa - 1 : Nat) * 2 ^ exponent :=
      rounded.trans (mul_le_mul_of_nonneg_right lowerCast zero_le)
    have smaller : magnitude < (mantissa - 1 : Nat) * 2 ^ exponent :=
      lt_of_lt_of_le below (mul_le_mul_of_nonneg_right lowerCast zero_le)
    rw [mantissaEq]
    refine ⟨iff_of_true (lt_add_of_le_of_pos small placePos) ?_, fun _ => small⟩
    calc 2 * magnitude + 2 ^ exponent
        < 2 * ((mantissa - 1 : Nat) * 2 ^ exponent) + 2 ^ exponent := by gcongr
      _ ≤ 2 * ((mantissa - 1 : Nat) * 2 ^ exponent + 2 ^ exponent) := by
          rw [mul_add, two_mul (2 ^ exponent : ℚ≥0), ← add_assoc]
          exact le_self_add
  · have roundedEq : format.roundMagnitude magnitude =
        (roundHalfEven (magnitude / 2 ^ exponent) : ℚ≥0) * 2 ^ exponent := by
      rw [Format.roundMagnitude, place]
    have mantissaLt : format.roundMagnitude magnitude < mantissa * 2 ^ exponent ↔
        roundHalfEven (magnitude / 2 ^ exponent) < mantissa := by
      rw [roundedEq, mul_lt_mul_iff_left₀ placePos, Nat.cast_lt]
    have scaled : 2 * magnitude + 2 ^ exponent =
        (2 * (magnitude / 2 ^ exponent) + 1) * 2 ^ exponent := by
      field_simp
    refine ⟨?_, fun less => ?_⟩
    · rw [mantissaLt, roundHalfEven_lt_iff _ bound.even, scaled, ← mul_assoc,
        mul_lt_mul_iff_left₀ placePos]
    · have small : (roundHalfEven (magnitude / 2 ^ exponent) : ℚ≥0) ≤ (mantissa - 1 : Nat) := by
        exact_mod_cast Nat.le_sub_one_of_lt (mantissaLt.1 less)
      rw [roundedEq]
      exact mul_le_mul_of_nonneg_right small zero_le
  · have large : (mantissa : ℚ≥0) * 2 ^ exponent ≤ 2 ^ (exponent + format.precision) := by
      rw [two_zpow_add]
      exact mul_le_mul_of_nonneg_right upperCast zero_le
    refine ⟨iff_of_false (not_lt.2 (large.trans rounded)) (not_lt.2 ?_), fun less => ?_⟩
    · calc 2 * ((mantissa : ℚ≥0) * 2 ^ exponent) ≤ 2 * magnitude := by
            gcongr
            exact large.trans above
        _ ≤ 2 * magnitude + 2 ^ exponent := le_self_add
    · exact absurd less (not_lt.2 (large.trans rounded))

end Foundation.BinaryFloat
