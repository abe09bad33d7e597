import ZephyrHomeHub.Foundation.DecimalNumeral

/-! Bytes printed as two upper-case hexadecimal digits each, as `printf("%02X")`
does. The digits have a fixed width, so a text of them determines the bytes. -/

namespace Foundation.HexBytes

open Foundation.DecimalNumeral

def hexDigit (value : Nat) : UInt8 := UInt8.ofNat (if value < 10 then 48 + value else 55 + value)

def printHexByte (byte : UInt8) : List UInt8 :=
  [hexDigit (byte.toNat / 16), hexDigit (byte.toNat % 16)]

def printHex (bytes : List UInt8) : List UInt8 := bytes.flatMap printHexByte

/-- The sixteen digits `0123456789ABCDEF` -/
def upperHexDigits : List UInt8 :=
  [48, 49, 50, 51, 52, 53, 54, 55, 56, 57, 65, 66, 67, 68, 69, 70]

theorem hexDigit_listed {value : Nat} (small : value < 16) :
    upperHexDigits[value]? = some (hexDigit value) := by
  interval_cases value <;> rfl

theorem getElem?_printHex {bytes : List UInt8} {position : Nat} {byte : UInt8}
    (here : bytes[position]? = some byte) :
    (printHex bytes)[2 * position]? = upperHexDigits[byte.toNat / 16]? ∧
      (printHex bytes)[2 * position + 1]? = upperHexDigits[byte.toNat % 16]? := by
  have bounded := byte.toNat_lt
  rw [hexDigit_listed (by omega), hexDigit_listed (by omega)]
  induction bytes generalizing position with
  | nil => cases here
  | cons first rest ih =>
      cases position with
      | zero =>
          cases here
          exact ⟨rfl, rfl⟩
      | succ position => exact ih here

theorem digitValue_hexDigit {value : Nat} (small : value < 16) :
    digitValue (hexDigit value) = value := by
  interval_cases value <;> rfl

theorem readDigits_printHexByte (byte : UInt8) :
    readDigits 16 (printHexByte byte) = byte.toNat := by
  have bounded := byte.toNat_lt
  change (0 * 16 + digitValue _) * 16 + digitValue _ = _
  rw [digitValue_hexDigit (by omega), digitValue_hexDigit (by omega)]
  omega

theorem printHexByte_injective {left right : UInt8}
    (same : printHexByte left = printHexByte right) : left = right := by
  apply UInt8.toNat_inj.1
  rw [← readDigits_printHexByte left, same, readDigits_printHexByte]

theorem length_printHex (bytes : List UInt8) : (printHex bytes).length = 2 * bytes.length := by
  induction bytes with
  | nil => rfl
  | cons byte rest ih =>
      change (printHexByte byte ++ printHex rest).length = _
      rw [List.length_append, ih, List.length_cons]
      change 2 + _ = _
      omega

theorem printHex_injective {left right : List UInt8} (same : printHex left = printHex right) :
    left = right := by
  induction left generalizing right with
  | nil =>
      cases right with
      | nil => rfl
      | cons byte rest => cases same
  | cons byte rest ih =>
      cases right with
      | nil => cases same
      | cons other others =>
          obtain ⟨here, later⟩ := List.append_inj same rfl
          rw [printHexByte_injective here, ih later]

theorem mem_printHex {bytes : List UInt8} {digit : UInt8} (member : digit ∈ printHex bytes) :
    isDigit 16 digit = true := by
  obtain ⟨byte, -, here⟩ := List.mem_flatMap.1 member
  have bounded := byte.toNat_lt
  have printed : ∃ value < 16, digit = hexDigit value := by
    rcases List.mem_cons.1 here with high | low
    · exact ⟨_, by omega, high⟩
    · exact ⟨_, by omega, List.mem_singleton.1 low⟩
  obtain ⟨value, small, rfl⟩ := printed
  rw [isDigit, digitValue_hexDigit small]
  exact decide_eq_true small

theorem zero_not_mem_printHex (bytes : List UInt8) : (0 : UInt8) ∉ printHex bytes := by
  intro member
  have digit := mem_printHex member
  revert digit
  decide

theorem readDigits_hexDigits {digits : List Nat} (small : ∀ digit ∈ digits, digit < 16) :
    readDigits 16 (digits.map hexDigit).reverse = Nat.ofDigits 16 digits := by
  induction digits with
  | nil => rfl
  | cons digit rest ih =>
      rw [List.map_cons, List.reverse_cons, readDigits_append_singleton,
        ih (fun other member => small other (List.mem_cons_of_mem digit member)),
        digitValue_hexDigit (small digit List.mem_cons_self), Nat.ofDigits_cons]
      omega

theorem mem_hexDigits {digits : List Nat} (small : ∀ digit ∈ digits, digit < 16) {byte : UInt8}
    (member : byte ∈ (digits.map hexDigit).reverse) : ∃ value < 16, byte = hexDigit value := by
  rcases List.mem_map.1 (List.mem_reverse.1 member) with ⟨digit, present, rfl⟩
  exact ⟨digit, small digit present, rfl⟩

end Foundation.HexBytes
