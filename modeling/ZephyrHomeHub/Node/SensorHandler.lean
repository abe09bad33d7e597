import Mathlib.Data.Rat.Floor
import Mathlib.Tactic.Linarith
import ZephyrHomeHub.Foundation.NumeralText
import ZephyrHomeHub.Hub.CoapServer

/-! The temperature on its way from the sensor thread to the hub: the text the node
prints of a fixed-point reading, the nine bytes it sends and the number the hub
reads from them. The two decimals are printed as a bare integer, so a leading
zero of them is lost on the way. -/

namespace ZephyrHomeHub.Node

open Foundation.BinaryFloat Foundation.CString Foundation.DecimalNumeral Foundation.NumeralText
open ZephyrHomeHub.Hub

def payloadSize : Nat := 10

structure Q31Reading where
  value : Int
  shift : Nat
  lower : -2 ^ 31 ≤ value
  upper : value < 2 ^ 31
  shiftLe : shift ≤ 31

def Q31Reading.exact (reading : Q31Reading) : ℚ := reading.value * 2 ^ reading.shift / 2 ^ 31

/-- The three arguments `PRIq_arg(q, 2, shift)` expands to. -/
def Q31Reading.priqArg (reading : Q31Reading) : List UInt8 × Nat × Nat :=
  (if reading.value < 0 then [minus] else [], ⌊|reading.exact|⌋₊,
    ⌊100 * (|reading.exact| - ⌊|reading.exact|⌋₊)⌋₊)

/-- The text of `sprintf(payload, "%s%d.%d", ...)`. -/
def getLatestSensorValueChar (reading : Q31Reading) : List UInt8 :=
  reading.priqArg.1 ++ printNat reading.priqArg.2.1 ++ point :: printNat reading.priqArg.2.2

/-- `payload` starts as zeros and takes the text with its terminator. -/
def sensorPayload (reading : Q31Reading) : Buffer payloadSize :=
  (Buffer.zero payloadSize).memcpy (getLatestSensorValueChar reading ++ [0])
    ((getLatestSensorValueChar reading).length + 1)

/-- `coap_packet_append_payload(&request, payload, sizeof(payload) - 1)` -/
def sentPayload (reading : Q31Reading) : List UInt8 :=
  (sensorPayload reading).toList.take (payloadSize - 1)

/-- The decimal number the hub reads, before it is rounded. -/
def receivedDecimal (reading : Q31Reading) (payloadStr : Buffer payloadStrSize) : Option ℚ :=
  (strtod (payloadText (sentPayload reading) payloadStr).toList).toRat

def truncateHundredths (value : ℚ) : ℚ :=
  if value < 0 then -(⌊100 * |value|⌋₊ / 100) else ⌊100 * |value|⌋₊ / 100

/-- The two decimals of the value, as a number below a hundred. -/
def hundredths (value : ℚ) : Nat := ⌊100 * |value|⌋₊ % 100

/-- The two decimals are zero or need no leading zero. -/
def PrintsHundredths (value : ℚ) : Prop := hundredths value = 0 ∨ 10 ≤ hundredths value

/-! ### Truncation -/

private theorem floor_hundred_le (value : ℚ) : (⌊100 * |value|⌋₊ : ℚ) / 100 ≤ |value| := by
  have below := Nat.floor_le (by positivity : 0 ≤ 100 * |value|)
  linarith

private theorem lt_floor_hundred (value : ℚ) :
    |value| < (⌊100 * |value|⌋₊ : ℚ) / 100 + 1 / 100 := by
  have above := Nat.lt_floor_add_one (100 * |value|)
  linarith

theorem abs_truncateHundredths_sub (value : ℚ) : |truncateHundredths value - value| < 1 / 100 := by
  have below := floor_hundred_le value
  have above := lt_floor_hundred value
  unfold truncateHundredths
  rw [abs_lt]
  rcases lt_or_ge value 0 with negative | nonneg
  · rw [if_pos negative]
    rw [abs_of_neg negative] at below above ⊢
    constructor <;> linarith
  · rw [if_neg (not_lt.2 nonneg)]
    rw [abs_of_nonneg nonneg] at below above ⊢
    constructor <;> linarith

theorem truncateHundredths_mono {low high : ℚ} (le : low ≤ high) :
    truncateHundredths low ≤ truncateHundredths high := by
  have positive : ∀ value : ℚ, (0 : ℚ) ≤ ⌊100 * |value|⌋₊ / 100 := fun _ => by positivity
  have monotone : ∀ {small large : ℚ}, |small| ≤ |large| →
      (⌊100 * |small|⌋₊ : ℚ) / 100 ≤ ⌊100 * |large|⌋₊ / 100 := by
    intro small large order
    have floors : ⌊100 * |small|⌋₊ ≤ ⌊100 * |large|⌋₊ := Nat.floor_mono (by linarith)
    have cast : (⌊100 * |small|⌋₊ : ℚ) ≤ ⌊100 * |large|⌋₊ := by exact_mod_cast floors
    linarith
  unfold truncateHundredths
  rcases lt_or_ge low 0 with lowNegative | lowNonneg
  · rw [if_pos lowNegative]
    rcases lt_or_ge high 0 with highNegative | highNonneg
    · rw [if_pos highNegative]
      apply neg_le_neg
      apply monotone
      rw [abs_of_neg lowNegative, abs_of_neg highNegative]
      linarith
    · rw [if_neg (not_lt.2 highNonneg)]
      have left := positive low
      have right := positive high
      linarith
  · have highNonneg := lowNonneg.trans le
    rw [if_neg (not_lt.2 lowNonneg), if_neg (not_lt.2 highNonneg)]
    apply monotone
    rw [abs_of_nonneg lowNonneg, abs_of_nonneg highNonneg]
    exact le

/-! ### The printed parts -/

theorem Q31Reading.exact_neg_iff (reading : Q31Reading) :
    reading.exact < 0 ↔ reading.value < 0 := by
  unfold Q31Reading.exact
  rw [div_neg_iff, mul_neg_iff]
  have power : (0 : ℚ) < 2 ^ reading.shift := by positivity
  have cast : (reading.value : ℚ) < 0 ↔ reading.value < 0 := Int.cast_lt_zero
  constructor
  · rintro (⟨_, impossible⟩ | ⟨⟨_, impossible⟩ | ⟨negative, _⟩, _⟩)
    · norm_num at impossible
    · linarith
    · exact cast.1 negative
  · intro negative
    exact Or.inr ⟨Or.inr ⟨cast.2 negative, power⟩, by norm_num⟩

theorem Q31Reading.priqArg_parts (reading : Q31Reading) :
    ⌊100 * |reading.exact|⌋₊ = 100 * reading.priqArg.2.1 + reading.priqArg.2.2 ∧
      reading.priqArg.2.2 = hundredths reading.exact := by
  have whole : (⌊|reading.exact|⌋₊ : ℚ) ≤ |reading.exact| := Nat.floor_le (abs_nonneg _)
  have next := Nat.lt_floor_add_one |reading.exact|
  have sum : 100 * |reading.exact| = ((100 * ⌊|reading.exact|⌋₊ : Nat) : ℚ) +
      100 * (|reading.exact| - ⌊|reading.exact|⌋₊) := by
    push_cast
    ring
  have small : ⌊100 * (|reading.exact| - ⌊|reading.exact|⌋₊)⌋₊ < 100 := by
    rw [Nat.floor_lt (by linarith)]
    push_cast
    linarith
  have split : ⌊100 * |reading.exact|⌋₊ = 100 * reading.priqArg.2.1 + reading.priqArg.2.2 := by
    conv_lhs => rw [sum]
    rw [add_comm, Nat.floor_add_natCast (by linarith), add_comm]
    rfl
  refine ⟨split, ?_⟩
  unfold hundredths
  rw [split, Nat.mul_add_mod]
  exact (Nat.mod_eq_of_lt small).symm

private theorem printNat_length_pos (value : Nat) : 0 < (printNat value).length :=
  List.length_pos_of_ne_nil (printNat_ne_nil value)

theorem getLatestSensorValueChar_fits (reading : Q31Reading) (small : |reading.exact| < 100000) :
    (getLatestSensorValueChar reading).length + 1 ≤ payloadSize := by
  have whole : reading.priqArg.2.1 < 10 ^ 5 := by
    apply (Nat.floor_lt (abs_nonneg _)).2
    push_cast
    linarith
  have fraction : reading.priqArg.2.2 < 10 ^ 2 := by
    rw [reading.priqArg_parts.2]
    exact Nat.mod_lt _ (by decide)
  have wholeLength := (printNat_length_le_iff (by decide) _).2 whole
  have fractionLength := (printNat_length_le_iff (by decide) _).2 fraction
  have sign : reading.priqArg.1.length ≤ 1 := by
    change (if reading.value < 0 then [minus] else []).length ≤ 1
    split
    · exact Nat.le_refl 1
    · exact Nat.zero_le 1
  unfold getLatestSensorValueChar payloadSize
  rw [List.length_append, List.length_append, List.length_cons]
  omega

theorem sentPayload_eq {reading : Q31Reading}
    (fits : (getLatestSensorValueChar reading).length + 1 ≤ payloadSize) :
    sentPayload reading = getLatestSensorValueChar reading ++
      List.replicate (payloadSize - 1 - (getLatestSensorValueChar reading).length) 0 := by
  have zeros : (Buffer.zero payloadSize).toList = List.replicate payloadSize 0 := rfl
  have lengthEq : (getLatestSensorValueChar reading ++ [0]).length =
      (getLatestSensorValueChar reading).length + 1 := List.length_append
  have whole : (getLatestSensorValueChar reading ++ [0]).take
      ((getLatestSensorValueChar reading).length + 1) = getLatestSensorValueChar reading ++ [0] :=
    List.take_of_length_le (Nat.le_of_eq lengthEq)
  unfold sentPayload sensorPayload
  rw [toList_memcpy _ _ _ (by rw [whole, lengthEq]; exact fits), whole, lengthEq, zeros,
    List.drop_replicate, List.append_assoc, List.take_append]
  have tail : [0] ++
      List.replicate (payloadSize - ((getLatestSensorValueChar reading).length + 1)) 0 =
      List.replicate (payloadSize - (getLatestSensorValueChar reading).length) (0 : UInt8) := by
    change List.replicate (_ + 1) 0 = _
    congr 1
    omega
  rw [tail, List.take_replicate, List.take_of_length_le (by omega)]
  congr 2
  omega

theorem getLatestSensorValueChar_eq_text (reading : Q31Reading) :
    getLatestSensorValueChar reading =
      (Numeral.print (reading.value < 0) reading.priqArg.2.1 reading.priqArg.2.2).text := by
  rw [Numeral.text_print]
  unfold getLatestSensorValueChar Q31Reading.priqArg
  simp only [decide_eq_true_eq]

theorem receivedDecimal_eq {reading : Q31Reading} (payloadStr : Buffer payloadStrSize)
    (fits : (getLatestSensorValueChar reading).length + 1 ≤ payloadSize) :
    strtod (payloadText (sentPayload reading) payloadStr).toList =
      .finite (reading.value < 0)
        (((reading.priqArg.2.1 * 10 ^ (printNat reading.priqArg.2.2).length +
            reading.priqArg.2.2 : Nat) : ℚ≥0) / 10 ^ (printNat reading.priqArg.2.2).length) := by
  set rest := List.replicate (payloadSize - 1 - (getLatestSensorValueChar reading).length)
    (0 : UInt8) with restEq
  have sent : sentPayload reading = getLatestSensorValueChar reading ++ rest := sentPayload_eq fits
  have present : sentPayload reading ≠ [] := by
    rw [sent, getLatestSensorValueChar_eq_text]
    exact List.append_ne_nil_of_left_ne_nil (Numeral.text_ne_nil _) _
  have lengthEq : (sentPayload reading).length = payloadSize - 1 := by
    rw [sent, restEq, List.length_append, List.length_replicate]
    omega
  have short : (sentPayload reading).length < payloadStrSize := by
    rw [lengthEq]
    decide
  rw [payloadText_toList payloadStr present short, sent]
  set after := payloadStr.toList.drop ((getLatestSensorValueChar reading ++ rest).length + 1)
  have ends : EndsNumeral (rest ++ 0 :: after) := by
    intro byte member
    rw [restEq] at member
    cases count : payloadSize - 1 - (getLatestSensorValueChar reading).length with
    | zero =>
        rw [count] at member
        exact (Option.some.inj member).symm
    | succ more =>
        rw [count] at member
        exact (Option.some.inj member).symm
  rw [List.append_assoc, getLatestSensorValueChar_eq_text]
  exact strtod_print _ _ _ ends

/-- The digits after the point are worth the hundredths, unless their leading zero
is missing: then one digit counts tenths. -/
private theorem fraction_excess (whole fraction : Nat) (small : fraction < 100) :
    (((whole * 10 ^ (printNat fraction).length + fraction : Nat) : ℚ) /
        10 ^ (printNat fraction).length - (100 * whole + fraction : Nat) / 100 =
          if fraction = 0 ∨ 10 ≤ fraction then 0 else 9 * (fraction : ℚ) / 100) := by
  have positive := printNat_length_pos fraction
  have two := (printNat_length_le_iff (by decide : 0 < 2) fraction).2 small
  have one := printNat_length_le_iff (by decide : 0 < 1) fraction
  rcases lt_or_ge fraction 10 with single | double
  · have digits : (printNat fraction).length = 1 := by
      have atMost := one.2 single
      omega
    rw [digits]
    split
    · rename_i readable
      have zero : fraction = 0 := by omega
      subst fraction
      push_cast
      ring
    · push_cast
      ring
  · have digits : (printNat fraction).length = 2 := by
      have atLeast : ¬(printNat fraction).length ≤ 1 := fun atMost => by
        have less := one.1 atMost
        omega
      omega
    rw [digits, if_pos (Or.inr double)]
    push_cast
    ring

/-- What the lost leading zero adds to the magnitude. -/
def lostZeroExcess (value : ℚ) : ℚ :=
  if hundredths value = 0 ∨ 10 ≤ hundredths value then 0 else 9 * (hundredths value : ℚ) / 100

theorem lostZeroExcess_eq_zero_iff (value : ℚ) :
    lostZeroExcess value = 0 ↔ PrintsHundredths value := by
  unfold lostZeroExcess PrintsHundredths
  split
  · rename_i readable
    exact iff_of_true rfl readable
  · rename_i unreadable
    refine iff_of_false (fun zero => unreadable (Or.inl ?_)) unreadable
    have cast : (hundredths value : ℚ) = 0 := by linarith
    exact_mod_cast cast

theorem receivedDecimal_some {reading : Q31Reading} (payloadStr : Buffer payloadStrSize)
    (small : |reading.exact| < 100000) :
    receivedDecimal reading payloadStr =
      some (truncateHundredths reading.exact +
        if reading.exact < 0 then -lostZeroExcess reading.exact
        else lostZeroExcess reading.exact) := by
  obtain ⟨split, fractionEq⟩ := reading.priqArg_parts
  have fractionSmall : reading.priqArg.2.2 < 100 := by
    rw [fractionEq]
    exact Nat.mod_lt _ (by decide)
  have excess := fraction_excess reading.priqArg.2.1 reading.priqArg.2.2 fractionSmall
  rw [← split, fractionEq] at excess
  have magnitude : ((reading.priqArg.2.1 * 10 ^ (printNat (hundredths reading.exact)).length +
      hundredths reading.exact : Nat) : ℚ) / 10 ^ (printNat (hundredths reading.exact)).length =
      ⌊100 * |reading.exact|⌋₊ / 100 + lostZeroExcess reading.exact := by
    unfold lostZeroExcess
    linarith
  unfold receivedDecimal
  rw [receivedDecimal_eq payloadStr (getLatestSensorValueChar_fits reading small), fractionEq]
  unfold Number.toRat truncateHundredths
  push_cast at magnitude ⊢
  rcases lt_or_ge reading.exact 0 with negative | nonneg
  · have valueNegative := reading.exact_neg_iff.1 negative
    simp only [valueNegative, decide_true, if_true, negative]
    rw [magnitude]
    congr 1
    ring
  · have valueNonneg : ¬reading.value < 0 := mt reading.exact_neg_iff.2 (not_lt.2 nonneg)
    simp only [valueNonneg, decide_false, Bool.false_eq_true, if_false, not_lt.2 nonneg]
    rw [magnitude]

/-- The text always fits. The hub reads the reading truncated to two decimals, and
so close to it, exactly when the two decimals need no leading zero; and among such
readings it keeps the order. -/
theorem receivedDecimal_truncated_iff (reading : Q31Reading) (small : |reading.exact| < 100000)
    (payloadStr : Buffer payloadStrSize) :
    (getLatestSensorValueChar reading).length + 1 ≤ payloadSize ∧
      ((receivedDecimal reading payloadStr = some (truncateHundredths reading.exact) ∧
          ∀ decimal ∈ receivedDecimal reading payloadStr, |decimal - reading.exact| < 1 / 100) ↔
        PrintsHundredths reading.exact) ∧
      ∀ (higher : Q31Reading), |higher.exact| < 100000 → reading.exact ≤ higher.exact →
        PrintsHundredths reading.exact → PrintsHundredths higher.exact →
        ∀ low ∈ receivedDecimal reading payloadStr,
          ∀ high ∈ receivedDecimal higher payloadStr, low ≤ high := by
  have readable : ∀ other : Q31Reading, |other.exact| < 100000 → PrintsHundredths other.exact →
      receivedDecimal other payloadStr = some (truncateHundredths other.exact) := by
    intro other otherSmall printed
    rw [receivedDecimal_some payloadStr otherSmall,
      (lostZeroExcess_eq_zero_iff other.exact).2 printed, neg_zero, ite_self, add_zero]
  refine ⟨getLatestSensorValueChar_fits reading small, ?_, ?_⟩
  · constructor
    · rintro ⟨truncated, _⟩
      rw [receivedDecimal_some payloadStr small] at truncated
      have noExcess := Option.some.inj truncated
      rw [add_eq_left] at noExcess
      rw [← lostZeroExcess_eq_zero_iff]
      split at noExcess
      · exact neg_eq_zero.1 noExcess
      · exact noExcess
    · intro printed
      rw [readable reading small printed]
      refine ⟨rfl, fun decimal same => ?_⟩
      rw [← Option.some.inj same]
      exact abs_truncateHundredths_sub reading.exact
  · intro higher higherSmall le lowPrinted highPrinted low lowSame high highSame
    rw [readable reading small lowPrinted] at lowSame
    rw [readable higher higherSmall highPrinted] at highSame
    rw [← Option.some.inj lowSame, ← Option.some.inj highSame]
    exact truncateHundredths_mono le

def warmReading : Q31Reading :=
  { value := 43 * 2 ^ 25, shift := 5, lower := by decide, upper := by decide, shiftLe := by decide }

theorem warmReading_exact : warmReading.exact = 43 / 2 := by
  norm_num [Q31Reading.exact, warmReading]

theorem warmReading_truncated_iff :
    (getLatestSensorValueChar warmReading).length + 1 ≤ payloadSize ∧
      ((receivedDecimal warmReading (Buffer.zero payloadStrSize) =
            some (truncateHundredths warmReading.exact) ∧
          ∀ decimal ∈ receivedDecimal warmReading (Buffer.zero payloadStrSize),
            |decimal - warmReading.exact| < 1 / 100) ↔
        PrintsHundredths warmReading.exact) ∧
      ∀ (higher : Q31Reading), |higher.exact| < 100000 → warmReading.exact ≤ higher.exact →
        PrintsHundredths warmReading.exact → PrintsHundredths higher.exact →
        ∀ low ∈ receivedDecimal warmReading (Buffer.zero payloadStrSize),
          ∀ high ∈ receivedDecimal higher (Buffer.zero payloadStrSize), low ≤ high :=
  receivedDecimal_truncated_iff warmReading
    (by rw [warmReading_exact]; norm_num [abs_of_pos]) (Buffer.zero payloadStrSize)

/-- 1.0625 degrees, sent as `"1.6"` -/
def coldReading : Q31Reading :=
  { value := 17 * 2 ^ 22, shift := 5, lower := by decide, upper := by decide, shiftLe := by decide }

theorem coldReading_misread :
    |coldReading.exact| < 100000 ∧
      receivedDecimal coldReading (Buffer.zero payloadStrSize) ≠
        some (truncateHundredths coldReading.exact) := by
  have exactEq : coldReading.exact = 17 / 16 := by
    norm_num [Q31Reading.exact, coldReading]
  have small : |coldReading.exact| < 100000 := by
    rw [exactEq]
    norm_num [abs_of_pos]
  have six : hundredths coldReading.exact = 6 := by
    have floor : ⌊100 * |(17 / 16 : ℚ)|⌋₊ = 106 := by
      rw [Nat.floor_eq_iff (by positivity)]
      norm_num [abs_of_pos]
    rw [exactEq, hundredths, floor]
  refine ⟨small, fun same => ?_⟩
  rw [receivedDecimal_some _ small, exactEq, if_neg (by norm_num), ← exactEq] at same
  have noExcess := add_eq_left.1 (Option.some.inj same)
  rcases (lostZeroExcess_eq_zero_iff _).1 noExcess with zero | large
  · rw [six] at zero
    omega
  · rw [six] at large
    omega

end ZephyrHomeHub.Node
