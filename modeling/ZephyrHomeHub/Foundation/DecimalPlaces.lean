import Mathlib.Tactic.Linarith
import ZephyrHomeHub.Foundation.NumeralText
import ZephyrHomeHub.Foundation.RoundingError

/-! Numbers printed with one or two digits after the point. The text denotes the nearest
tenth or hundredth, and a double that is the nearest to a hundredth prints as it. -/

namespace Foundation.NumeralText

open Foundation.BinaryFloat Foundation.DecimalNumeral

theorem isDigit_of_mem_printTwoDigits {value : Nat} {byte : UInt8}
    (member : byte ∈ printTwoDigits value) : isDigit 10 byte = true := by
  unfold printTwoDigits at member
  split at member
  · rcases List.mem_cons.1 member with rfl | digit
    · exact isDigit_digitByte (by decide)
    · exact isDigit_of_mem_printNat digit
  · exact isDigit_of_mem_printNat member

theorem readDigits_printTwoDigits (value : Nat) : readDigits 10 (printTwoDigits value) = value := by
  unfold printTwoDigits
  split
  · change readDigits 10 (printNat value) = value
    exact readDigits_printNat value
  · exact readDigits_printNat value

theorem length_printTwoDigits (value : Nat) :
    (printTwoDigits value).length = max 2 (printNat value).length := by
  have positive := List.length_pos_of_ne_nil (printNat_ne_nil value)
  have one := printNat_length_le_iff (by decide : 0 < 1) value
  unfold printTwoDigits
  split
  · rename_i small
    have single := one.2 small
    rw [List.length_cons]
    omega
  · rename_i large
    have double := mt one.1 large
    omega

theorem length_printTwoDigits_of_lt {value : Nat} (small : value < 100) :
    (printTwoDigits value).length = 2 := by
  have two := (printNat_length_le_iff (by decide : 0 < 2) value).2 small
  rw [length_printTwoDigits]
  omega

def nearestTenth (magnitude : ℚ≥0) : ℚ≥0 :=
  roundHalfEven ((10 : Nat) * magnitude) / (10 : Nat)

theorem printNat_digit {digit : Nat} (small : digit < 10) : printNat digit = [digitByte digit] := by
  interval_cases digit <;> decide

theorem strtod_printTenths (negative : Bool) (magnitude : ℚ≥0) :
    strtod (printTenths (.finite negative magnitude)) =
      .finite negative (nearestTenth magnitude) := by
  set tenths := roundHalfEven (10 * magnitude) with tenthsEq
  have digit := printNat_digit (Nat.mod_lt tenths (by decide : 10 > 0))
  have text : printTenths (.finite negative magnitude) =
      (Numeral.print negative (tenths / 10) (tenths % 10)).text ++ [] := by
    rw [List.append_nil, Numeral.text_print, digit]
    rfl
  have ends : EndsNumeral [] := by
    intro byte member
    cases member
  have whole : tenths / 10 * 10 + tenths % 10 = tenths := Nat.div_add_mod' tenths 10
  rw [text, strtod_print _ _ _ ends, digit, List.length_singleton, pow_one, pow_one, whole,
    nearestTenth, Nat.cast_ofNat, tenthsEq]

theorem nearestTenth_near (magnitude : ℚ≥0) :
    |(nearestTenth magnitude : ℚ) - magnitude| ≤ 1 / 20 := by
  have error := abs_le.1 (abs_roundHalfEven_sub ((10 : Nat) * magnitude))
  unfold nearestTenth
  push_cast at error ⊢
  rw [abs_le]
  constructor <;> linarith

theorem nearestTenth_mono {low high : ℚ≥0} (le : low ≤ high) :
    nearestTenth low ≤ nearestTenth high := by
  have tenths := roundHalfEven_mono
    (mul_le_mul_of_nonneg_left le (zero_le : 0 ≤ ((10 : Nat) : ℚ≥0)))
  exact div_le_div_of_nonneg_right (by exact_mod_cast tenths) zero_le

/-- `f"{value:.2f}"`, rounded to nearest, which prints no sign of a NaN. -/
def printHundredths : Number → List UInt8
  | .finite negative magnitude =>
      let hundredths := roundHalfEven (100 * magnitude)
      (if negative then [minus] else []) ++ printNat (hundredths / 100) ++
        point :: printTwoDigits (hundredths % 100)
  | .infinite negative => (if negative then [minus] else []) ++ infWord
  | .nan _ => nanWord

def nearestHundredth (magnitude : ℚ≥0) : ℚ≥0 := roundHalfEven (100 * magnitude) / 100

def Digits.twoDigits (value : Nat) : Digits :=
  { bytes := printTwoDigits value
    nonempty := by
      apply List.ne_nil_of_length_pos
      rw [length_printTwoDigits]
      omega
    digits := fun _ member => isDigit_of_mem_printTwoDigits member }

def Numeral.hundredths (negative : Bool) (hundredths : Nat) : Numeral :=
  { sign := if negative then .negative else .unsigned
    whole := Digits.ofNat (hundredths / 100)
    fraction := some (Digits.twoDigits (hundredths % 100))
    exponent := none }

theorem Numeral.text_hundredths (negative : Bool) (magnitude : ℚ≥0) :
    (Numeral.hundredths negative (roundHalfEven (100 * magnitude))).text =
      printHundredths (.finite negative magnitude) := by
  set hundredths := roundHalfEven (100 * magnitude)
  have body : (Numeral.hundredths negative hundredths).body =
      printNat (hundredths / 100) ++ point :: (printTwoDigits (hundredths % 100) ++ []) := rfl
  have printed : printHundredths (.finite negative magnitude) =
      (if negative then [minus] else []) ++ printNat (hundredths / 100) ++
        point :: printTwoDigits (hundredths % 100) := rfl
  rw [printed, Numeral.text, body, List.append_nil, List.append_assoc]
  cases negative <;> rfl

theorem strtod_printHundredths (negative : Bool) (magnitude : ℚ≥0) :
    strtod (printHundredths (.finite negative magnitude)) =
      .finite negative (nearestHundredth magnitude) := by
  set hundredths := roundHalfEven (100 * magnitude) with hundredthsEq
  have sign : (Numeral.hundredths negative hundredths).sign.isNegative = negative := by
    cases negative <;> rfl
  have digits : readDigits 10 (printNat (hundredths / 100) ++ printTwoDigits (hundredths % 100)) =
      hundredths := by
    rw [readDigits_append, readDigits_printNat, readDigits_printTwoDigits,
      length_printTwoDigits_of_lt (Nat.mod_lt _ (by decide))]
    omega
  have value : (Numeral.hundredths negative hundredths).magnitude =
      (readDigits 10 (printNat (hundredths / 100) ++ printTwoDigits (hundredths % 100)) : ℚ≥0) /
        ((10 : Nat) : ℚ≥0) ^ (printTwoDigits (hundredths % 100)).length *
          ((10 : Nat) : ℚ≥0) ^ (0 : Int) := rfl
  rw [← Numeral.text_hundredths, strtod_text, sign, value, digits, zpow_zero, mul_one,
    length_printTwoDigits_of_lt (Nat.mod_lt _ (by decide)), nearestHundredth, ← hundredthsEq]
  norm_num

/-- A double close to a hundredth stands for it, up to `2 ^ 44`. -/
theorem roundHalfEven_double {hundredths : Nat}
    (small : ((hundredths : ℚ≥0) / 100 : ℚ≥0) < 2 ^ (44 : Int)) :
    roundHalfEven (100 * binary64.roundMagnitude ((hundredths : ℚ≥0) / 100)) = hundredths := by
  have error : |(binary64.roundMagnitude ((hundredths : ℚ≥0) / 100) : ℚ) -
      ((hundredths : ℚ≥0) / 100 : ℚ≥0)| ≤ 2 ^ ((44 : Int) - 53) / 2 :=
    Format.roundMagnitude_error (by decide) (by decide) small
  have bound : (2 : ℚ) ^ ((44 : Int) - 53) / 2 = 1 / 1024 := by norm_num
  rw [bound] at error
  have both := abs_le.1 error
  apply roundHalfEven_of_near
  push_cast at both ⊢
  rw [abs_lt]
  constructor <;> linarith

end Foundation.NumeralText
