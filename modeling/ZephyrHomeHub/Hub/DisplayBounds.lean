import ZephyrHomeHub.Foundation.NumeralText
import ZephyrHomeHub.Hub.CoapServer
import ZephyrHomeHub.Hub.MainLoop

/-! What a posted number makes `update_node_display` write into its buffer. The
printed length grows with the magnitude, and nothing between the request and the
display bounds the number. -/

namespace ZephyrHomeHub.Hub

open Foundation.BinaryFloat Foundation.CString Foundation.DecimalNumeral Foundation.NumeralText

/-- `sizeof(buffer)` in `update_node_display` -/
def displayBufferSize : Nat := 32

def bytesWritten (text : List UInt8) : Nat := text.length + 1

/-- Half a double's last place under the tie between two neighbouring floats. -/
def tieBelow (below shift : Nat) : Nat := (below * 2 ^ 30 + (2 ^ 29 - 1)) * 2 ^ shift

/-- From here on a number becomes a float that prints 27 digits before the point,
or 26 of them after a sign. -/
def displayLimit (negative : Bool) : Nat :=
  if negative then tieBelow 8673617 30 else tieBelow 10842021 33

/-- From here on a number becomes an infinite float. -/
def floatOverflow : Nat := tieBelow (2 ^ 24 - 1) 74

/-- The number is short when printed, or too large for a float. -/
def FitsDisplay : Number → Prop
  | .finite negative magnitude =>
      magnitude < displayLimit negative ∨ (floatOverflow : ℚ≥0) ≤ magnitude
  | .infinite _ => True
  | .nan _ => True

private theorem twiceRounded_bound (below shift : Nat) (lower : 2 ^ 23 ≤ below)
    (upper : below < 2 ^ 24) (odd : below % 2 = 1) (small : shift ≤ 74) :
    binary32.EvenBound (below + 1) (shift + 30 : Nat) ∧
      binary64.EvenBound ((2 * below + 1) * 2 ^ 28) (shift + 1 : Nat) := by
  constructor
  · exact
      { lower := by change 2 ^ 23 < below + 1; omega
        upper := by change below + 1 ≤ 2 ^ 24; omega
        even := by omega
        normal := by change (-126 : Int) - (24 - 1) ≤ _; omega
        positive := by decide }
  · exact
      { lower := by change 2 ^ 52 < (2 * below + 1) * 2 ^ 28; omega
        upper := by change (2 * below + 1) * 2 ^ 28 ≤ 2 ^ 53; omega
        even := by omega
        normal := by change (-1022 : Int) - (53 - 1) ≤ _; omega
        positive := by decide }

/-- A number stays below a float through both roundings exactly up to just under
the tie between that float and the one before it. -/
theorem twiceRounded_lt_iff (below shift : Nat) (lower : 2 ^ 23 ≤ below) (upper : below < 2 ^ 24)
    (odd : below % 2 = 1) (small : shift ≤ 74) (magnitude : ℚ≥0) :
    (binary32.roundMagnitude (binary64.roundMagnitude magnitude) <
          ((below + 1 : Nat) : ℚ≥0) * 2 ^ (shift + 30) ↔ magnitude < tieBelow below shift) ∧
      (binary32.roundMagnitude (binary64.roundMagnitude magnitude) <
          ((below + 1 : Nat) : ℚ≥0) * 2 ^ (shift + 30) →
        binary32.roundMagnitude (binary64.roundMagnitude magnitude) ≤
          (below : ℚ≥0) * 2 ^ (shift + 30)) := by
  obtain ⟨single, double⟩ := twiceRounded_bound below shift lower upper odd small
  have singleRounded := single.roundMagnitude_lt_iff (binary64.roundMagnitude magnitude)
  have doubleRounded := (double.roundMagnitude_lt_iff magnitude).1
  simp only [zpow_natCast, Nat.add_sub_cancel] at singleRounded doubleRounded
  refine ⟨?_, singleRounded.2⟩
  have tie : 2 * binary64.roundMagnitude magnitude + 2 ^ (shift + 30) <
      2 * (((below + 1 : Nat) : ℚ≥0) * 2 ^ (shift + 30)) ↔
        binary64.roundMagnitude magnitude <
          (((2 * below + 1) * 2 ^ 28 : Nat) : ℚ≥0) * 2 ^ (shift + 1) := by
    have split : 2 * (((below + 1 : Nat) : ℚ≥0) * 2 ^ (shift + 30)) =
        2 * ((((2 * below + 1) * 2 ^ 28 : Nat) : ℚ≥0) * 2 ^ (shift + 1)) + 2 ^ (shift + 30) := by
      push_cast
      ring
    rw [split, add_lt_add_iff_right, mul_lt_mul_iff_right₀ (by norm_num)]
  have place : 2 * magnitude + 2 ^ (shift + 1) <
      2 * ((((2 * below + 1) * 2 ^ 28 : Nat) : ℚ≥0) * 2 ^ (shift + 1)) ↔
        magnitude < tieBelow below shift := by
    have split : 2 * ((((2 * below + 1) * 2 ^ 28 : Nat) : ℚ≥0) * 2 ^ (shift + 1)) =
        2 * (tieBelow below shift : ℚ≥0) + 2 ^ (shift + 1) := by
      unfold tieBelow
      push_cast
      ring
    rw [split, add_lt_add_iff_right, mul_lt_mul_iff_right₀ (by norm_num)]
  rw [singleRounded.1, tie, doubleRounded, place]

private theorem twiceRounded_finite_or (negative : Bool) (magnitude : ℚ≥0) :
    (((Number.finite negative magnitude).round binary64).round binary32 =
          .finite negative (binary32.roundMagnitude (binary64.roundMagnitude magnitude)) ∧
        magnitude < floatOverflow) ∨
      (((Number.finite negative magnitude).round binary64).round binary32 = .infinite negative ∧
        (floatOverflow : ℚ≥0) ≤ magnitude) := by
  have doubleTop : (2 : ℚ≥0) ^ (binary64.maxExponent + 1) = 2 ^ 1024 := zpow_natCast 2 1024
  have singleTop : (2 : ℚ≥0) ^ (binary32.maxExponent + 1) = 2 ^ 128 := zpow_natCast 2 128
  have power : ((2 ^ 24 - 1 + 1 : Nat) : ℚ≥0) * 2 ^ (74 + 30) = 2 ^ 128 := by norm_num
  have overflow : binary32.roundMagnitude (binary64.roundMagnitude magnitude) < 2 ^ 128 ↔
      magnitude < floatOverflow := by
    have exactBound := (twiceRounded_lt_iff (2 ^ 24 - 1) 74 (by decide) (by decide) (by decide)
      (by decide) magnitude).1
    rw [power] at exactBound
    exact exactBound
  have single : binary32.roundMagnitude (binary64.roundMagnitude magnitude) < 2 ^ 128 →
      binary64.roundMagnitude magnitude < 2 ^ 1024 := by
    have bound := (twiceRounded_bound (2 ^ 24 - 1) 74 (by decide) (by decide)
      (by decide) (by decide)).1
    have rounded := (bound.roundMagnitude_lt_iff (binary64.roundMagnitude magnitude)).1
    rw [zpow_natCast, power] at rounded
    intro less
    have doubled : 2 * binary64.roundMagnitude magnitude < 2 * 2 ^ 128 :=
      lt_of_le_of_lt le_self_add (rounded.1 less)
    have small : binary64.roundMagnitude magnitude < 2 ^ 128 :=
      (mul_lt_mul_iff_right₀ (by norm_num)).1 doubled
    exact small.trans (pow_lt_pow_right₀ (by norm_num) (by norm_num))
  rw [Number.round_finite, doubleTop]
  rcases lt_or_ge (binary32.roundMagnitude (binary64.roundMagnitude magnitude)) (2 ^ 128) with
    less | more
  · refine Or.inl ⟨?_, overflow.1 less⟩
    rw [if_neg (not_le.2 (single less)), Number.round_finite, singleTop]
    exact if_neg (not_le.2 less)
  · refine Or.inr ⟨?_, not_lt.1 (mt overflow.2 (not_lt.2 more))⟩
    split
    · rfl
    · rw [Number.round_finite, singleTop]
      exact if_pos more

theorem printTenths_length_le_iff (negative : Bool) (magnitude : ℚ≥0) {width : Nat}
    (positive : 0 < width) :
    (printTenths (.finite negative magnitude)).length ≤
        (if negative then 1 else 0) + width + 2 ↔
      2 * (10 * magnitude) + 1 < 2 * ((10 ^ (width + 1) : Nat) : ℚ≥0) := by
  have even : 10 ^ (width + 1) % 2 = 0 := by
    rw [Nat.pow_succ, Nat.mul_mod]
    rfl
  have lengthEq : (printTenths (.finite negative magnitude)).length =
      (if negative then 1 else 0) +
        (printNat (roundHalfEven (10 * magnitude) / 10)).length + 2 := by
    cases negative with
    | false => simp [printTenths]
    | true => simp [printTenths, Nat.add_comm, Nat.add_left_comm]
  rw [lengthEq, ← roundHalfEven_lt_iff _ even, Nat.pow_succ,
    ← Nat.div_lt_iff_lt_mul (by decide), ← printNat_length_le_iff positive]
  omega

/-- A float that prints more digits than fit is at least the next one after the
largest that prints them all. -/
private theorem printed_iff_below (negative : Bool) {magnitude : ℚ≥0} (width : Nat)
    {below shift : Nat}
    (positive : 0 < width)
    (last : 2 * (10 * (below * 2 ^ (shift + 30))) + 1 < 2 * 10 ^ (width + 1))
    (next : 10 ^ (width + 1) ≤ 10 * ((below + 1) * 2 ^ (shift + 30)))
    (gap : magnitude < ((below + 1 : Nat) : ℚ≥0) * 2 ^ (shift + 30) →
      magnitude ≤ (below : ℚ≥0) * 2 ^ (shift + 30)) :
    (printTenths (.finite negative magnitude)).length ≤
        (if negative then 1 else 0) + width + 2 ↔
      magnitude < ((below + 1 : Nat) : ℚ≥0) * 2 ^ (shift + 30) := by
  have lastCast : 2 * (10 * ((below : ℚ≥0) * 2 ^ (shift + 30))) + 1 <
      2 * ((10 ^ (width + 1) : Nat) : ℚ≥0) := by exact_mod_cast last
  have nextCast : ((10 ^ (width + 1) : Nat) : ℚ≥0) ≤
      10 * (((below + 1 : Nat) : ℚ≥0) * 2 ^ (shift + 30)) := by exact_mod_cast next
  rw [printTenths_length_le_iff negative magnitude positive]
  constructor
  · intro printed
    by_contra above
    have large := not_lt.1 above
    have impossible : 2 * (10 * magnitude) < 2 * (10 * magnitude) + 1 := lt_add_one _
    apply absurd (impossible.trans printed)
    apply not_lt.2
    calc 2 * ((10 ^ (width + 1) : Nat) : ℚ≥0)
        ≤ 2 * (10 * (((below + 1 : Nat) : ℚ≥0) * 2 ^ (shift + 30))) := by gcongr
      _ ≤ 2 * (10 * magnitude) := by gcongr
  · intro less
    calc 2 * (10 * magnitude) + 1
        ≤ 2 * (10 * ((below : ℚ≥0) * 2 ^ (shift + 30))) + 1 := by
          gcongr
          exact gap less
      _ < _ := lastCast

theorem temperatureText_fits_iff (number : Number) :
    bytesWritten (temperatureText ((number.round binary64).round binary32)) ≤ displayBufferSize ↔
      FitsDisplay number := by
  have reduce : ∀ shown : Number, bytesWritten (temperatureText shown) ≤ displayBufferSize ↔
      (printTenths shown).length ≤ 28 := by
    intro shown
    have lengthEq : (temperatureText shown).length = (printTenths shown).length + 3 :=
      List.length_append
    unfold bytesWritten displayBufferSize
    omega
  have infinite : ∀ negative, (printTenths (.infinite negative)).length ≤ 28 := by decide
  have notANumber : ∀ negative, (printTenths (.nan negative)).length ≤ 28 := by decide
  rw [reduce]
  cases number with
  | infinite negative => exact iff_of_true (infinite negative) trivial
  | nan negative => exact iff_of_true (notANumber negative) trivial
  | finite negative magnitude =>
      have limit : (printTenths (.finite negative
          (binary32.roundMagnitude (binary64.roundMagnitude magnitude)))).length ≤ 28 ↔
            magnitude < displayLimit negative := by
        cases negative with
        | false =>
            obtain ⟨exactBound, gap⟩ := twiceRounded_lt_iff 10842021 33
              (by decide) (by decide) (by decide) (by decide) magnitude
            exact (printed_iff_below false 26 (by decide) (by decide) (by decide) gap).trans
              exactBound
        | true =>
            obtain ⟨exactBound, gap⟩ := twiceRounded_lt_iff 8673617 30
              (by decide) (by decide) (by decide) (by decide) magnitude
            exact (printed_iff_below true 25 (by decide) (by decide) (by decide) gap).trans
              exactBound
      rcases twiceRounded_finite_or negative magnitude with
        ⟨roundedEq, finite⟩ | ⟨roundedEq, overflow⟩
      · rw [roundedEq, limit]
        exact (or_iff_left (not_le.2 finite)).symm
      · rw [roundedEq]
        exact iff_of_true (infinite negative) (Or.inr overflow)

/-- A posted reading prints within the buffer exactly when the number in the
payload is short or too large for a float. -/
theorem update_fits_display_iff (uptime : Int) (locals : PostLocals) (request : PostRequest)
    (context : LoopContext) (node : NodeInfo) :
    (bytesWritten (temperatureText
            (context.updateEntry node (tempNodePost uptime locals request)).currentTemp) ≤
          displayBufferSize ∧
        bytesWritten (humidityText
            (context.updateEntry node (tempNodePost uptime locals request)).currentHum) ≤
          displayBufferSize) ↔
      FitsDisplay (strtod (payloadText request.payload locals.payloadStr).toList) := by
  have current := updateEntry_current context node (tempNodePost uptime locals request)
  have temp : (context.updateEntry node (tempNodePost uptime locals request)).currentTemp = _ :=
    congrArg SensorData.temp current
  have hum : (context.updateEntry node (tempNodePost uptime locals request)).currentHum = _ :=
    congrArg SensorData.hum current
  rw [temp, hum]
  have placeholder : bytesWritten (humidityText (tempNodePost uptime locals request).reading.hum) ≤
      displayBufferSize := by
    change bytesWritten (humidityText (.finite true 1)) ≤ displayBufferSize
    decide
  rw [and_iff_left placeholder]
  exact temperatureText_fits_iff _

/-- `"1267650600228229401496703205376.0"` -/
def longReading : PostRequest :=
  { uriQuery := []
    payload := printNat (2 ^ 100) ++ point :: printNat 0 }

theorem longReading_number (payloadStr : Buffer payloadStrSize) :
    strtod (payloadText longReading.payload payloadStr).toList = .finite false (2 ^ 100) := by
  rw [payloadText_toList _ (by decide) (by decide)]
  have text : longReading.payload = (Numeral.print false (2 ^ 100) 0).text := by
    rw [Numeral.text_print]
    rfl
  have ends : ∀ rest : List UInt8, EndsNumeral (0 :: rest) :=
    fun _ _ first => (Option.some.inj first).symm
  rw [text, strtod_print false _ _ (ends _)]
  have oneDigit : (printNat 0).length = 1 := rfl
  rw [oneDigit]
  norm_num

theorem longReading_overruns :
    ¬∃ (uptime : Int) (locals : PostLocals) (context : LoopContext) (node : NodeInfo),
      bytesWritten (temperatureText
        (context.updateEntry node (tempNodePost uptime locals longReading)).currentTemp) ≤
          displayBufferSize := by
  rintro ⟨uptime, locals, context, node, fits⟩
  have current := updateEntry_current context node (tempNodePost uptime locals longReading)
  have temp : (context.updateEntry node (tempNodePost uptime locals longReading)).currentTemp = _ :=
    congrArg SensorData.temp current
  rw [temp] at fits
  have allowed := (temperatureText_fits_iff _).1 fits
  rw [longReading_number] at allowed
  rcases allowed with short | huge
  · have limit : (2 : ℚ≥0) ^ 100 < (displayLimit false : Nat) := short
    norm_cast at limit
  · norm_cast at huge

end ZephyrHomeHub.Hub
