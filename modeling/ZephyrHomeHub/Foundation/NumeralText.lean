import ZephyrHomeHub.Foundation.CString
import ZephyrHomeHub.Foundation.DecimalNumeral

/-! Decimal numerals as a grammar, and `strtod` on them. The reader looks at a C
string only, and of a numeral of the grammar it reads the whole. -/

namespace Foundation.NumeralText

open Foundation.BinaryFloat Foundation.CString Foundation.DecimalNumeral

/-! ### The reader stops at a NUL -/

section Scanning

variable {predicate : UInt8 → Bool}

theorem takeWhile_cstr (stops : predicate 0 = false) (text : List UInt8) :
    (cstr text).takeWhile predicate = text.takeWhile predicate := by
  induction text with
  | nil => rfl
  | cons byte rest ih =>
      rw [cstr_cons]
      split
      · rename_i zero
        rw [zero, List.takeWhile_cons, stops]
        rfl
      · rw [List.takeWhile_cons, List.takeWhile_cons, ih]

theorem dropWhile_cstr (stops : predicate 0 = false) (text : List UInt8) :
    (cstr text).dropWhile predicate = cstr (text.dropWhile predicate) := by
  induction text with
  | nil => rfl
  | cons byte rest ih =>
      rw [cstr_cons]
      split
      · rename_i zero
        rw [zero, List.dropWhile_cons, stops]
        exact (cstr_cons 0 rest).symm
      · rename_i nonzero
        rw [List.dropWhile_cons, List.dropWhile_cons]
        split
        · exact ih
        · rw [cstr_cons, if_neg nonzero]

end Scanning

theorem takeSign_cstr (text : List UInt8) :
    takeSign (cstr text) = ((takeSign text).1, cstr (takeSign text).2) := by
  cases text with
  | nil => rfl
  | cons byte rest =>
      rw [cstr_cons, takeSign]
      by_cases zero : byte = 0
      · subst byte
        rfl
      · rw [if_neg zero, takeSign]
        by_cases negative : byte = minus
        · rw [if_pos negative, if_pos negative]
        · rw [if_neg negative, if_neg negative]
          by_cases positive : byte = plus
          · rw [if_pos positive, if_pos positive]
          · rw [if_neg positive, if_neg positive, cstr_cons, if_neg zero]

theorem startsWith_cstr {word : List UInt8} (clean : (0 : UInt8) ∉ word) (text : List UInt8) :
    startsWith word (cstr text) = startsWith word text := by
  unfold startsWith
  induction word generalizing text with
  | nil => rfl
  | cons letter word ih =>
      rw [List.mem_cons, not_or] at clean
      cases text with
      | nil => rfl
      | cons byte rest =>
          rw [cstr_cons]
          by_cases zero : byte = 0
          · subst byte
            have other : lowerCase 0 ≠ letter := clean.1
            simp [other]
          · have tail := ih clean.2 rest
            rw [decide_eq_decide] at tail ⊢
            simp only [if_neg zero, List.length_cons, List.take_succ_cons, List.map_cons,
              List.cons.injEq, tail]

theorem fractionPart_cstr {base : Nat} (stops : isDigit base 0 = false) (text : List UInt8) :
    fractionPart base (cstr text) =
      ((fractionPart base text).1, cstr (fractionPart base text).2) := by
  cases text with
  | nil => rfl
  | cons byte rest =>
      rw [cstr_cons, fractionPart]
      by_cases zero : byte = 0
      · subst byte
        rfl
      · rw [if_neg zero, fractionPart]
        by_cases pointed : byte = point
        · rw [if_pos pointed, if_pos pointed, takeWhile_cstr stops, dropWhile_cstr stops]
        · rw [if_neg pointed, if_neg pointed, cstr_cons, if_neg zero]

theorem scanMantissa_cstr {base : Nat} (stops : isDigit base 0 = false) (text : List UInt8) :
    scanMantissa base (cstr text) =
      (scanMantissa base text).map fun read => (read.1, read.2.1, cstr read.2.2) := by
  unfold scanMantissa
  simp only [takeWhile_cstr stops, dropWhile_cstr stops, fractionPart_cstr stops]
  split
  · rfl
  · rfl

theorem scanExponent_cstr {marker : UInt8} (nonzero : marker ≠ 0) (text : List UInt8) :
    scanExponent marker (cstr text) = scanExponent marker text := by
  cases text with
  | nil => rfl
  | cons byte rest =>
      rw [cstr_cons]
      by_cases zero : byte = 0
      · subst byte
        have other : lowerCase 0 ≠ marker := Ne.symm nonzero
        rw [if_pos rfl, scanExponent, scanExponent, if_neg other]
      · rw [if_neg zero, scanExponent, scanExponent, takeSign_cstr, takeWhile_cstr rfl]

theorem scanHexadecimal_cons (first marker : UInt8) (rest : List UInt8) :
    scanHexadecimal (first :: marker :: rest) =
      if first = 48 ∧ lowerCase marker = 120 then scanMantissa 16 rest else none := by
  by_cases zero : first = 48
  · subst first
    simp only [true_and]
    rfl
  · rw [if_neg (fun both => zero both.1)]
    unfold scanHexadecimal
    split
    · rename_i same
      exact absurd (List.cons.inj same).1 zero
    · rfl

theorem scanHexadecimal_single (first : UInt8) : scanHexadecimal [first] = none := by
  unfold scanHexadecimal
  split
  · rename_i same
    cases same
  · rfl

theorem scanHexadecimal_cstr (text : List UInt8) :
    scanHexadecimal (cstr text) =
      (scanHexadecimal text).map fun read => (read.1, read.2.1, cstr read.2.2) := by
  cases text with
  | nil => rfl
  | cons first rest =>
      rw [cstr_cons]
      by_cases zero : first = 0
      · subst first
        cases rest with
        | nil => rfl
        | cons marker rest =>
            rw [if_pos rfl, scanHexadecimal_cons, if_neg (fun both => absurd both.1 (by decide))]
            rfl
      · rw [if_neg zero]
        cases rest with
        | nil =>
            rw [cstr_nil, scanHexadecimal_single]
            rfl
        | cons marker rest =>
            rw [cstr_cons]
            by_cases ended : marker = 0
            · subst marker
              rw [if_pos rfl, scanHexadecimal_single, scanHexadecimal_cons,
                if_neg (fun both => absurd both.2 (by decide))]
              rfl
            · rw [if_neg ended, scanHexadecimal_cons, scanHexadecimal_cons]
              split
              · exact scanMantissa_cstr rfl rest
              · rfl

theorem strtod_cstr (text : List UInt8) : strtod (cstr text) = strtod text := by
  unfold strtod
  simp only [dropWhile_cstr (show isSpace 0 = false from rfl), takeSign_cstr,
    startsWith_cstr (show (0 : UInt8) ∉ infWord by decide),
    startsWith_cstr (show (0 : UInt8) ∉ nanWord by decide)]
  set signed := takeSign (text.dropWhile isSpace)
  split
  · rfl
  · split
    · rfl
    · rw [scanHexadecimal_cstr, scanMantissa_cstr rfl]
      cases scanHexadecimal signed.2 with
      | some read =>
          simp only [Option.map_some, scanExponent_cstr (show (112 : UInt8) ≠ 0 by decide)]
      | none =>
          cases scanMantissa 10 signed.2 with
          | some read =>
              simp only [Option.map_none, Option.map_some,
                scanExponent_cstr (show (101 : UInt8) ≠ 0 by decide)]
          | none => rfl

/-! ### Decimal numerals -/

structure Digits where
  bytes : List UInt8
  nonempty : bytes ≠ []
  digits : ∀ byte ∈ bytes, isDigit 10 byte = true

inductive Sign where
  | unsigned
  | positive
  | negative

def Sign.text : Sign → List UInt8
  | .unsigned => []
  | .positive => [plus]
  | .negative => [minus]

def Sign.isNegative : Sign → Bool
  | .unsigned => false
  | .positive => false
  | .negative => true

structure Exponent where
  marker : UInt8
  isMarker : lowerCase marker = 101
  sign : Sign
  digits : Digits

structure Numeral where
  sign : Sign
  whole : Digits
  fraction : Option Digits
  exponent : Option Exponent

def Exponent.text (exponent : Exponent) : List UInt8 :=
  exponent.marker :: (exponent.sign.text ++ exponent.digits.bytes)

def Exponent.value (exponent : Exponent) : Int :=
  if exponent.sign.isNegative then -(readDigits 10 exponent.digits.bytes : Int)
  else readDigits 10 exponent.digits.bytes

def Numeral.fractionBytes (numeral : Numeral) : List UInt8 :=
  (numeral.fraction.map Digits.bytes).getD []

def Numeral.fractionText (numeral : Numeral) : List UInt8 :=
  (numeral.fraction.map fun digits => point :: digits.bytes).getD []

def Numeral.exponentText (numeral : Numeral) : List UInt8 :=
  (numeral.exponent.map Exponent.text).getD []

def Numeral.exponentValue (numeral : Numeral) : Int :=
  (numeral.exponent.map Exponent.value).getD 0

def Numeral.body (numeral : Numeral) : List UInt8 :=
  numeral.whole.bytes ++ (numeral.fractionText ++ numeral.exponentText)

def Numeral.text (numeral : Numeral) : List UInt8 := numeral.sign.text ++ numeral.body

def Numeral.magnitude (numeral : Numeral) : ℚ≥0 :=
  readDigits 10 (numeral.whole.bytes ++ numeral.fractionBytes) /
    ((10 : Nat) : ℚ≥0) ^ numeral.fractionBytes.length *
      ((10 : Nat) : ℚ≥0) ^ numeral.exponentValue

def Numeral.value (numeral : Numeral) : ℚ :=
  if numeral.sign.isNegative then -(numeral.magnitude : ℚ) else numeral.magnitude

theorem Numeral.text_ne_nil (numeral : Numeral) : numeral.text ≠ [] := by
  intro empty
  have body := (List.append_eq_nil_iff.1 empty).2
  exact numeral.whole.nonempty (List.append_eq_nil_iff.1 body).1

theorem exists_digitByte {byte : UInt8} (digit : isDigit 10 byte = true) :
    ∃ value < 10, byte = digitByte value := by
  have small : digitValue byte < 10 := of_decide_eq_true digit
  have bounded := byte.toNat_lt
  unfold digitValue at small
  split at small
  · rename_i range
    refine ⟨byte.toNat - 48, small, ?_⟩
    apply UInt8.toNat_inj.1
    rw [digitByte, UInt8.toNat_ofNat', Nat.mod_eq_of_lt (by omega)]
    omega
  · split at small
    · omega
    · split at small
      · omega
      · omega

def EndsDigits (rest : List UInt8) : Prop := ∀ byte ∈ rest.head?, isDigit 10 byte = false

theorem Digits.scan (digits : Digits) {rest : List UInt8} (ends : EndsDigits rest) :
    (digits.bytes ++ rest).takeWhile (isDigit 10) = digits.bytes ∧
      (digits.bytes ++ rest).dropWhile (isDigit 10) = rest :=
  scan_digits digits.digits ends

theorem marker_not_digit {marker : UInt8} (isMarker : lowerCase marker = 101) :
    isDigit 10 marker = false := by
  rw [Bool.eq_false_iff]
  intro digit
  obtain ⟨value, small, rfl⟩ := exists_digitByte digit
  revert isMarker
  interval_cases value <;> decide

theorem exponentText_endsDigits (numeral : Numeral) : EndsDigits numeral.exponentText := by
  unfold EndsDigits Numeral.exponentText
  cases numeral.exponent with
  | none =>
      intro byte first
      cases first
  | some exponent =>
      intro byte first
      cases first
      exact marker_not_digit exponent.isMarker

theorem Digits.starts (digits : Digits) (rest : List UInt8) :
    ∃ value < 10, ∃ tail, digits.bytes ++ rest = digitByte value :: tail := by
  rcases List.exists_cons_of_ne_nil digits.nonempty with ⟨byte, tail, bytes⟩
  have digit := digits.digits byte (by rw [bytes]; exact List.mem_cons_self)
  obtain ⟨value, small, rfl⟩ := exists_digitByte digit
  exact ⟨value, small, tail ++ rest, by rw [bytes, List.cons_append]⟩

theorem Sign.take (sign : Sign) (digits : Digits) (rest : List UInt8) :
    takeSign ((sign.text ++ (digits.bytes ++ rest)).dropWhile isSpace) =
        (sign.isNegative, digits.bytes ++ rest) ∧
      takeSign (sign.text ++ (digits.bytes ++ rest)) =
        (sign.isNegative, digits.bytes ++ rest) := by
  cases sign with
  | unsigned =>
      obtain ⟨value, small, tail, starts⟩ := digits.starts rest
      obtain ⟨-, -, notSpace, unsigned⟩ := digit_start small tail
      rw [Sign.text, List.nil_append, starts, List.dropWhile_cons_of_neg (by simp [notSpace])]
      exact ⟨unsigned, unsigned⟩
  | positive => exact ⟨rfl, rfl⟩
  | negative => exact ⟨rfl, rfl⟩

theorem scanExponent_exponentText (numeral : Numeral) :
    scanExponent 101 numeral.exponentText = numeral.exponentValue := by
  unfold Numeral.exponentText Numeral.exponentValue
  cases numeral.exponent with
  | none => rfl
  | some exponent =>
      have nothing : EndsDigits [] := fun _ first => nomatch first
      have scan := (exponent.digits.scan nothing).1
      have signed := (exponent.sign.take exponent.digits []).2
      rw [List.append_nil] at scan signed
      change scanExponent 101 (exponent.marker :: (exponent.sign.text ++ _)) = exponent.value
      simp only [scanExponent, if_pos exponent.isMarker, signed, scan, Exponent.value]

theorem scanMantissa_body (numeral : Numeral) :
    scanMantissa 10 numeral.body =
      some (readDigits 10 (numeral.whole.bytes ++ numeral.fractionBytes),
        numeral.fractionBytes.length, numeral.exponentText) := by
  have stop := exponentText_endsDigits numeral
  have fraction : fractionPart 10 (numeral.fractionText ++ numeral.exponentText) =
      (numeral.fractionBytes, numeral.exponentText) := by
    unfold Numeral.fractionText Numeral.fractionBytes
    cases numeral.fraction with
    | none =>
        change fractionPart 10 numeral.exponentText = ([], numeral.exponentText)
        unfold Numeral.exponentText
        cases numeral.exponent with
        | none => rfl
        | some exponent =>
            have noPoint : exponent.marker ≠ point := by
              intro same
              have isMarker := exponent.isMarker
              rw [same] at isMarker
              exact absurd isMarker (by decide)
            exact if_neg noPoint
    | some digits =>
        have scan := digits.scan stop
        change fractionPart 10 (point :: (digits.bytes ++ numeral.exponentText)) =
          (digits.bytes, numeral.exponentText)
        rw [fractionPart, if_pos rfl, scan.1, scan.2]
  have ends : EndsDigits (numeral.fractionText ++ numeral.exponentText) := by
    unfold Numeral.fractionText
    cases numeral.fraction with
    | none => exact stop
    | some digits =>
        intro byte first
        cases first
        rfl
  have scan := numeral.whole.scan ends
  simp only [scanMantissa, Numeral.body, scan.1, scan.2, fraction, numeral.whole.nonempty,
    false_and, if_false]

theorem Sign.mem_text {sign : Sign} {byte : UInt8} (member : byte ∈ sign.text) :
    byte = plus ∨ byte = minus := by
  cases sign with
  | unsigned => cases member
  | positive => exact .inl (List.mem_singleton.1 member)
  | negative => exact .inr (List.mem_singleton.1 member)

theorem Exponent.mem_text {exponent : Exponent} {byte : UInt8} (member : byte ∈ exponent.text) :
    lowerCase byte = 101 ∨ (byte = plus ∨ byte = minus) ∨ isDigit 10 byte = true := by
  rcases List.mem_cons.1 member with rfl | later
  · exact .inl exponent.isMarker
  rcases List.mem_append.1 later with sign | digits
  · exact .inr (.inl (Sign.mem_text sign))
  · exact .inr (.inr (exponent.digits.digits byte digits))

theorem Numeral.mem_text {numeral : Numeral} {byte : UInt8} (member : byte ∈ numeral.text) :
    isDigit 10 byte = true ∨ byte = point ∨ (byte = plus ∨ byte = minus) ∨
      lowerCase byte = 101 := by
  unfold Numeral.text Numeral.body Numeral.fractionText Numeral.exponentText at member
  rcases List.mem_append.1 member with sign | member
  · exact .inr (.inr (.inl (Sign.mem_text sign)))
  rcases List.mem_append.1 member with whole | member
  · exact .inl (numeral.whole.digits byte whole)
  rcases List.mem_append.1 member with fraction | exponent
  · cases present : numeral.fraction with
    | none =>
        rw [present] at fraction
        cases fraction
    | some digits =>
        rw [present] at fraction
        rcases List.mem_cons.1 fraction with isPoint | later
        · exact .inr (.inl isPoint)
        · exact .inl (digits.digits byte later)
  · cases present : numeral.exponent with
    | none =>
        rw [present] at exponent
        cases exponent
    | some marked =>
        rw [present] at exponent
        rcases Exponent.mem_text exponent with isMarker | sign | digit
        · exact .inr (.inr (.inr isMarker))
        · exact .inr (.inr (.inl sign))
        · exact .inl digit

private theorem body_no_hex (numeral : Numeral) {byte : UInt8} (member : byte ∈ numeral.body) :
    lowerCase byte ≠ 120 := by
  rcases Numeral.mem_text (List.mem_append_right numeral.sign.text member) with
    digit | rfl | (rfl | rfl) | isMarker
  · obtain ⟨value, small, rfl⟩ := exists_digitByte digit
    interval_cases value <;> decide
  · decide
  · decide
  · decide
  · rw [isMarker]
    decide

theorem Numeral.zero_not_mem_text (numeral : Numeral) : (0 : UInt8) ∉ numeral.text := by
  intro member
  rcases Numeral.mem_text member with digit | isPoint | (isPlus | isMinus) | isMarker
  · revert digit
    decide
  · revert isPoint
    decide
  · revert isPlus
    decide
  · revert isMinus
    decide
  · revert isMarker
    decide

theorem scanHexadecimal_body (numeral : Numeral) : scanHexadecimal numeral.body = none := by
  have noHex : ∀ byte ∈ numeral.body, lowerCase byte ≠ 120 := fun _ => body_no_hex numeral
  match bodyEq : numeral.body with
  | [] => rfl
  | [byte] => exact scanHexadecimal_single byte
  | first :: marker :: rest =>
      rw [bodyEq] at noHex
      rw [scanHexadecimal_cons, if_neg]
      intro both
      exact noHex marker (List.mem_cons_of_mem _ List.mem_cons_self) both.2

/-- Of a numeral the reader reads the whole. -/
theorem strtod_text (numeral : Numeral) :
    strtod numeral.text = .finite numeral.sign.isNegative numeral.magnitude := by
  have signed := (numeral.sign.take numeral.whole
    (numeral.fractionText ++ numeral.exponentText)).1
  obtain ⟨value, small, tail, starts⟩ :=
    numeral.whole.starts (numeral.fractionText ++ numeral.exponentText)
  obtain ⟨notInf, notNan, -, -⟩ := digit_start small tail
  rw [← starts] at notInf notNan
  change takeSign (numeral.text.dropWhile isSpace) = (_, numeral.body) at signed
  change startsWith infWord numeral.body = false at notInf
  change startsWith nanWord numeral.body = false at notNan
  simp only [strtod, signed, notInf, notNan, Bool.false_eq_true, if_false, scanHexadecimal_body,
    scanMantissa_body, scanExponent_exponentText, Numeral.magnitude, Nat.cast_ofNat]

theorem Numeral.starts (numeral : Numeral) :
    ∃ byte ∈ numeral.text.head?, byte = plus ∨ byte = minus ∨ isDigit 10 byte = true := by
  unfold Numeral.text
  cases numeral.sign with
  | positive => exact ⟨plus, rfl, .inl rfl⟩
  | negative => exact ⟨minus, rfl, .inr (.inl rfl)⟩
  | unsigned =>
      rcases List.exists_cons_of_ne_nil numeral.whole.nonempty with ⟨byte, tail, bytes⟩
      refine ⟨byte, ?_, .inr (.inr (numeral.whole.digits byte ?_))⟩
      · unfold Numeral.body
        rw [bytes]
        rfl
      · rw [bytes]
        exact List.mem_cons_self

theorem toRat_strtod_text (numeral : Numeral) :
    (strtod numeral.text).toRat = some numeral.value := by
  rw [strtod_text]
  rfl

/-! ### Printed numbers -/

theorem strtod_text_append (numeral : Numeral) {rest : List UInt8} (ends : EndsNumeral rest) :
    strtod (numeral.text ++ rest) = strtod numeral.text := by
  have clean := numeral.zero_not_mem_text
  rw [← strtod_cstr (numeral.text ++ rest)]
  cases rest with
  | nil => rw [List.append_nil, cstr_of_clean clean]
  | cons byte rest =>
      have zero : byte = 0 := ends byte rfl
      rw [zero, cstr_append_zero clean]

def Digits.ofNat (value : Nat) : Digits :=
  { bytes := printNat value
    nonempty := printNat_ne_nil value
    digits := fun _ member => isDigit_of_mem_printNat member }

/-- `sprintf("%s%d.%d")` -/
def Numeral.print (negative : Bool) (whole fraction : Nat) : Numeral :=
  { sign := if negative then .negative else .unsigned
    whole := Digits.ofNat whole
    fraction := some (Digits.ofNat fraction)
    exponent := none }

theorem Numeral.text_print (negative : Bool) (whole fraction : Nat) :
    (Numeral.print negative whole fraction).text =
      (if negative then [minus] else []) ++ printNat whole ++ point :: printNat fraction := by
  have body : (Numeral.print negative whole fraction).body =
      printNat whole ++ point :: (printNat fraction ++ []) := rfl
  rw [Numeral.text, body, List.append_nil, List.append_assoc]
  cases negative <;> rfl

/-- The fraction is worth its digits as they stand, so one digit counts tenths. -/
theorem strtod_print (negative : Bool) (whole fraction : Nat) {rest : List UInt8}
    (ends : EndsNumeral rest) :
    strtod ((Numeral.print negative whole fraction).text ++ rest) =
      .finite negative
        (((whole * 10 ^ (printNat fraction).length + fraction : Nat) : ℚ≥0) /
          10 ^ (printNat fraction).length) := by
  have sign : (Numeral.print negative whole fraction).sign.isNegative = negative := by
    cases negative <;> rfl
  have digits : readDigits 10 (printNat whole ++ printNat fraction) =
      whole * 10 ^ (printNat fraction).length + fraction := by
    rw [readDigits_append, readDigits_printNat, readDigits_printNat]
  have magnitude : (Numeral.print negative whole fraction).magnitude =
      (readDigits 10 (printNat whole ++ printNat fraction) : ℚ≥0) /
        ((10 : Nat) : ℚ≥0) ^ (printNat fraction).length * ((10 : Nat) : ℚ≥0) ^ (0 : Int) := rfl
  rw [strtod_text_append _ ends, strtod_text, sign, magnitude, digits, zpow_zero, mul_one,
    Nat.cast_ofNat]

end Foundation.NumeralText
