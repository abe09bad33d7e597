import ZephyrHomeHub.Foundation.BinaryFloat

/-! How far rounding moves a number, and that it keeps the order. The error is half a
last place at most, so a bound on the magnitude bounds it. -/

namespace Foundation.BinaryFloat

variable {format : Format}

theorem two_mul_le_roundHalfEven (value : ℚ≥0) : 2 * (value : ℚ) ≤ 2 * roundHalfEven value + 1 := by
  have above : (value : ℚ) < (⌊value⌋₊ : ℚ≥0) + 1 := by exact_mod_cast Nat.lt_floor_add_one value
  simp only [NNRat.cast_natCast] at above
  by_cases down : 2 * value < 2 * (⌊value⌋₊ : ℚ≥0) + 1
  · have rounded : roundHalfEven value = ⌊value⌋₊ := by simp only [roundHalfEven, if_pos down]
    have tie : (2 * value : ℚ) < 2 * ⌊value⌋₊ + 1 := by exact_mod_cast down
    rw [rounded]
    exact tie.le
  · have kept : ⌊value⌋₊ ≤ roundHalfEven value := by
      simp only [roundHalfEven]
      split_ifs <;> omega
    by_cases up : 2 * (⌊value⌋₊ : ℚ≥0) + 1 < 2 * value
    · have rounded : roundHalfEven value = ⌊value⌋₊ + 1 := by
        simp only [roundHalfEven, if_neg down, if_pos up]
      rw [rounded]
      push_cast
      linarith
    · have tie : 2 * value ≤ 2 * (⌊value⌋₊ : ℚ≥0) + 1 := not_lt.1 up
      have tieCast : (2 * value : ℚ) ≤ 2 * ⌊value⌋₊ + 1 := by exact_mod_cast tie
      have keptCast : (⌊value⌋₊ : ℚ) ≤ roundHalfEven value := by exact_mod_cast kept
      linarith

theorem roundHalfEven_le_two_mul (value : ℚ≥0) : 2 * (roundHalfEven value : ℚ) ≤ 2 * value + 1 := by
  have below : ((⌊value⌋₊ : ℚ≥0) : ℚ) ≤ value := by exact_mod_cast Nat.floor_le zero_le
  simp only [NNRat.cast_natCast] at below
  by_cases down : 2 * value < 2 * (⌊value⌋₊ : ℚ≥0) + 1
  · have rounded : roundHalfEven value = ⌊value⌋₊ := by simp only [roundHalfEven, if_pos down]
    rw [rounded]
    linarith
  · have atMost : roundHalfEven value ≤ ⌊value⌋₊ + 1 := by
      simp only [roundHalfEven]
      split_ifs <;> omega
    have tie : (2 * ⌊value⌋₊ + 1 : ℚ) ≤ 2 * value := by exact_mod_cast not_lt.1 down
    have atMostCast : (roundHalfEven value : ℚ) ≤ ⌊value⌋₊ + 1 := by exact_mod_cast atMost
    linarith

theorem abs_roundHalfEven_sub (value : ℚ≥0) : |(roundHalfEven value : ℚ) - value| ≤ 1 / 2 := by
  have lower := two_mul_le_roundHalfEven value
  have upper := roundHalfEven_le_two_mul value
  rw [abs_le]
  constructor <;> linarith

theorem roundHalfEven_of_near {value : ℚ≥0} {whole : Nat}
    (near : |(value : ℚ) - whole| < 1 / 2) : roundHalfEven value = whole := by
  have error := abs_roundHalfEven_sub value
  have apart : |(roundHalfEven value : ℚ) - whole| < 1 := by
    calc |(roundHalfEven value : ℚ) - whole|
        ≤ |(roundHalfEven value : ℚ) - value| + |(value : ℚ) - whole| := abs_sub_le _ _ _
      _ < 1 := by linarith
  have same : |(roundHalfEven value : Int) - whole| < 1 := by exact_mod_cast apart
  rw [Int.abs_lt_one_iff] at same
  omega

theorem roundHalfEven_mono {low high : ℚ≥0} (le : low ≤ high) :
    roundHalfEven low ≤ roundHalfEven high := by
  by_contra turned
  have gap : (roundHalfEven high : ℚ) + 1 ≤ roundHalfEven low := by
    exact_mod_cast Nat.lt_of_not_le turned
  have lowUpper := roundHalfEven_le_two_mul low
  have highLower := two_mul_le_roundHalfEven high
  have leCast : (low : ℚ) ≤ high := by exact_mod_cast le
  have equal : (low : ℚ) = high := by linarith
  have same : low = high := by exact_mod_cast equal
  rw [same] at turned
  exact turned (Nat.le_refl _)

theorem Format.abs_roundMagnitude_sub (format : Format) (magnitude : ℚ≥0) :
    |(format.roundMagnitude magnitude : ℚ) - magnitude| ≤ 2 ^ format.lastPlace magnitude / 2 := by
  have positive : (0 : ℚ) < 2 ^ format.lastPlace magnitude := by positivity
  have error := abs_roundHalfEven_sub (magnitude / 2 ^ format.lastPlace magnitude)
  have scaled : (format.roundMagnitude magnitude : ℚ) - magnitude =
      ((roundHalfEven (magnitude / 2 ^ format.lastPlace magnitude) : ℚ) -
        ((magnitude / 2 ^ format.lastPlace magnitude : ℚ≥0) : ℚ)) *
          2 ^ format.lastPlace magnitude := by
    rw [Format.roundMagnitude]
    push_cast
    field_simp
  rw [scaled, abs_mul, abs_of_pos positive]
  calc |(roundHalfEven (magnitude / 2 ^ format.lastPlace magnitude) : ℚ) - _| *
        2 ^ format.lastPlace magnitude
      ≤ 1 / 2 * 2 ^ format.lastPlace magnitude :=
        mul_le_mul_of_nonneg_right error positive.le
    _ = 2 ^ format.lastPlace magnitude / 2 := by ring

theorem Format.lastPlace_le {magnitude : ℚ≥0} {exponent : Int} (positive : 0 < exponent)
    (normal : format.minExponent < exponent) (below : magnitude < 2 ^ exponent) :
    format.lastPlace magnitude ≤ exponent - format.precision := by
  have log : Int.log 2 magnitude < exponent := by
    rcases eq_or_lt_of_le (zero_le : 0 ≤ magnitude) with zero | nonzero
    · rw [← zero, Int.log_zero_right]
      exact positive
    · refine (Int.lt_zpow_iff_log_lt (by decide) nonzero).1 ?_
      exact_mod_cast below
  unfold Format.lastPlace
  omega

theorem Format.roundMagnitude_error {magnitude : ℚ≥0} {exponent : Int} (positive : 0 < exponent)
    (normal : format.minExponent < exponent) (below : magnitude < 2 ^ exponent) :
    |(format.roundMagnitude magnitude : ℚ) - magnitude| ≤
      2 ^ (exponent - format.precision) / 2 := by
  have place : (2 : ℚ) ^ format.lastPlace magnitude ≤ 2 ^ (exponent - format.precision) :=
    zpow_le_zpow_right₀ (by norm_num) (Format.lastPlace_le positive normal below)
  exact (format.abs_roundMagnitude_sub magnitude).trans
    (div_le_div_of_nonneg_right place (by norm_num))

theorem Number.round_of_lt {magnitude : ℚ≥0} {exponent : Int} (positive : 0 < exponent)
    (normal : format.minExponent < exponent) (precise : 0 < format.precision)
    (range : exponent ≤ format.maxExponent)
    (below : magnitude < 2 ^ exponent) (negative : Bool) :
    (Number.finite negative magnitude).round format =
      .finite negative (format.roundMagnitude magnitude) := by
  have error := (abs_le.1 (Format.roundMagnitude_error positive normal below)).2
  have small : (2 : ℚ) ^ (exponent - format.precision) ≤ 2 ^ exponent :=
    zpow_le_zpow_right₀ (by norm_num) (by omega)
  have belowCast : (magnitude : ℚ) < 2 ^ exponent := by exact_mod_cast below
  have top : (2 : ℚ) ^ (exponent + 1) ≤ 2 ^ (format.maxExponent + 1) :=
    zpow_le_zpow_right₀ (by norm_num) (by omega)
  have double : (2 : ℚ) ^ (exponent + 1) = 2 * 2 ^ exponent := by
    rw [zpow_add_one₀ (by norm_num), mul_comm]
  have finite : (format.roundMagnitude magnitude : ℚ) < 2 ^ (format.maxExponent + 1) := by
    have nonneg : (0 : ℚ) < 2 ^ exponent := by positivity
    linarith
  rw [Number.round_finite, if_neg]
  apply not_le.2
  exact_mod_cast finite

theorem Format.lastPlace_mono (format : Format) {low high : ℚ≥0} (positive : 0 < low)
    (le : low ≤ high) :
    format.lastPlace low ≤ format.lastPlace high := by
  have log : Int.log 2 low ≤ Int.log 2 high := Int.log_mono_right positive le
  unfold Format.lastPlace
  omega

/-- The numbers with nothing below the last place are not rounded across. -/
theorem Format.roundMagnitude_le_of_le (format : Format) {magnitude : ℚ≥0} {shift : Nat}
    (le : magnitude ≤ 2 ^ (format.lastPlace magnitude + shift)) :
    format.roundMagnitude magnitude ≤ 2 ^ (format.lastPlace magnitude + shift) := by
  rw [zpow_add₀ (by norm_num), mul_comm, zpow_natCast] at le ⊢
  have quotient : magnitude / 2 ^ format.lastPlace magnitude ≤ ((2 ^ shift : Nat) : ℚ≥0) := by
    rw [div_le_iff₀ (by positivity)]
    exact_mod_cast le
  have rounded := roundHalfEven_mono quotient
  rw [roundHalfEven_natCast] at rounded
  have cast : (roundHalfEven (magnitude / 2 ^ format.lastPlace magnitude) : ℚ≥0) ≤ 2 ^ shift := by
    exact_mod_cast rounded
  exact mul_le_mul_of_nonneg_right cast zero_le

theorem Format.le_roundMagnitude_of_le (format : Format) {magnitude : ℚ≥0} {shift : Nat}
    (le : 2 ^ (format.lastPlace magnitude + shift) ≤ magnitude) :
    2 ^ (format.lastPlace magnitude + shift) ≤ format.roundMagnitude magnitude := by
  rw [zpow_add₀ (by norm_num), mul_comm, zpow_natCast] at le ⊢
  have quotient : ((2 ^ shift : Nat) : ℚ≥0) ≤ magnitude / 2 ^ format.lastPlace magnitude := by
    rw [le_div_iff₀ (by positivity)]
    exact_mod_cast le
  have rounded := roundHalfEven_mono quotient
  rw [roundHalfEven_natCast] at rounded
  have cast : (2 : ℚ≥0) ^ shift ≤ roundHalfEven (magnitude / 2 ^ format.lastPlace magnitude) := by
    exact_mod_cast rounded
  exact mul_le_mul_of_nonneg_right cast zero_le

theorem Format.roundMagnitude_mono (format : Format) (precise : 0 < format.precision)
    {low high : ℚ≥0} (le : low ≤ high) :
    format.roundMagnitude low ≤ format.roundMagnitude high := by
  rcases eq_or_lt_of_le (zero_le : 0 ≤ low) with zero | positive
  · have noMantissa : roundHalfEven 0 = 0 := by exact_mod_cast roundHalfEven_natCast 0
    have nothing : format.roundMagnitude low = 0 := by
      rw [← zero, Format.roundMagnitude, zero_div, noMantissa, Nat.cast_zero, zero_mul]
    rw [nothing]
    exact zero_le
  · rcases eq_or_lt_of_le (format.lastPlace_mono positive le) with same | lower
    · unfold Format.roundMagnitude
      rw [same]
      have mantissas := roundHalfEven_mono
        (div_le_div_of_nonneg_right le (zero_le : 0 ≤ (2 : ℚ≥0) ^ format.lastPlace high))
      exact mul_le_mul_of_nonneg_right (by exact_mod_cast mantissas) zero_le
    · have highPositive := lt_of_lt_of_le positive le
      have lowBelow : low < (2 : ℚ≥0) ^ (Int.log 2 low + 1) := by
        have log := Int.lt_zpow_succ_log_self (b := 2) (by decide) low
        exact_mod_cast log
      have highAbove : (2 : ℚ≥0) ^ Int.log 2 high ≤ high := by
        have log := Int.zpow_log_le_self (b := 2) (by decide) highPositive
        exact_mod_cast log
      have logs : Int.log 2 low + 1 ≤ Int.log 2 high ∧
          format.lastPlace high + ((format.precision - 1 : Nat) : Int) = Int.log 2 high ∧
          format.lastPlace low ≤ Int.log 2 high := by
        unfold Format.lastPlace at lower ⊢
        omega
      rcases logs with ⟨below, start, place⟩
      rcases Int.eq_ofNat_of_zero_le (Int.sub_nonneg.2 place) with ⟨shift, shiftEq⟩
      have lowStart : format.lastPlace low + shift = Int.log 2 high := by omega
      calc format.roundMagnitude low
          ≤ 2 ^ Int.log 2 high := by
            rw [← lowStart]
            apply format.roundMagnitude_le_of_le
            rw [lowStart]
            exact lowBelow.le.trans (zpow_le_zpow_right₀ (by norm_num) below)
        _ ≤ format.roundMagnitude high := by
            rw [← start]
            apply format.le_roundMagnitude_of_le
            rw [start]
            exact highAbove

end Foundation.BinaryFloat
