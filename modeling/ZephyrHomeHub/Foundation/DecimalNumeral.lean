import Mathlib.Data.Nat.Digits.Lemmas
import ZephyrHomeHub.Foundation.BinaryFloat

/-! Decimal numerals as bytes: printing a natural number, and reading a numeral
as C's `strtod` does. The reader skips white space, takes a sign, and accepts
the names of infinity and NaN, a hexadecimal numeral or a decimal one. It stops
at the first byte that does not belong to the numeral, so at a NUL at the
latest, and reads zero when no numeral starts the text. -/

namespace Foundation.DecimalNumeral

open Foundation.BinaryFloat

def minus : UInt8 := 45
def plus : UInt8 := 43
def point : UInt8 := 46

def digitByte (digit : Nat) : UInt8 := UInt8.ofNat (48 + digit)

def printNat (value : Nat) : List UInt8 :=
  if value = 0 then [digitByte 0] else ((Nat.digits 10 value).map digitByte).reverse

def digitValue (byte : UInt8) : Nat :=
  if 48 ≤ byte.toNat ∧ byte.toNat ≤ 57 then byte.toNat - 48
  else if 97 ≤ byte.toNat ∧ byte.toNat ≤ 102 then byte.toNat - 87
  else if 65 ≤ byte.toNat ∧ byte.toNat ≤ 70 then byte.toNat - 55
  else 16

def isDigit (base : Nat) (byte : UInt8) : Bool := digitValue byte < base

def readDigits (base : Nat) (bytes : List UInt8) : Nat :=
  bytes.foldl (fun value byte => value * base + digitValue byte) 0

def isSpace (byte : UInt8) : Bool :=
  byte = 32 || (9 ≤ byte.toNat && byte.toNat ≤ 13)

def takeSign : List UInt8 → Bool × List UInt8
  | [] => (false, [])
  | byte :: rest =>
      if byte = minus then (true, rest)
      else if byte = plus then (false, rest)
      else (false, byte :: rest)

def lowerCase (byte : UInt8) : UInt8 :=
  if 65 ≤ byte.toNat ∧ byte.toNat ≤ 90 then byte + 32 else byte

/-- The text starts with the lower-case word, in letters of either case. -/
def startsWith (word text : List UInt8) : Bool :=
  (text.take word.length).map lowerCase = word

def fractionPart (base : Nat) : List UInt8 → List UInt8 × List UInt8
  | [] => ([], [])
  | byte :: rest =>
      if byte = point then (rest.takeWhile (isDigit base), rest.dropWhile (isDigit base))
      else ([], byte :: rest)

/-- The digits of a numeral read as one number, how many of them stand after the
point, and the text after them. -/
def scanMantissa (base : Nat) (text : List UInt8) : Option (Nat × Nat × List UInt8) :=
  let whole := text.takeWhile (isDigit base)
  let fraction := fractionPart base (text.dropWhile (isDigit base))
  if whole = [] ∧ fraction.1 = [] then none
  else some (readDigits base (whole ++ fraction.1), fraction.1.length, fraction.2)

/-- A marker without digits after it is not part of the numeral. -/
def scanExponent (marker : UInt8) : List UInt8 → Int
  | [] => 0
  | byte :: rest =>
      if lowerCase byte = marker then
        let value := readDigits 10 ((takeSign rest).2.takeWhile (isDigit 10))
        if (takeSign rest).1 then -(value : Int) else value
      else 0

def scanHexadecimal : List UInt8 → Option (Nat × Nat × List UInt8)
  | 48 :: marker :: rest => if lowerCase marker = 120 then scanMantissa 16 rest else none
  | _ => none

def infWord : List UInt8 := [105, 110, 102]
def nanWord : List UInt8 := [110, 97, 110]

/-- The exact value the text denotes, before it is rounded to a format. -/
def strtod (text : List UInt8) : Number :=
  let signed := takeSign (text.dropWhile isSpace)
  if startsWith infWord signed.2 then .infinite signed.1
  else if startsWith nanWord signed.2 then .nan signed.1
  else
    match scanHexadecimal signed.2 with
    | some (value, places, rest) =>
        .finite signed.1 (ldexp (value / 16 ^ places) (scanExponent 112 rest))
    | none =>
        match scanMantissa 10 signed.2 with
        | some (value, places, rest) =>
            .finite signed.1 (value / 10 ^ places * 10 ^ scanExponent 101 rest)
        | none => .zero

/-- `printf("%.1f")`: one digit after the point, rounded to nearest. -/
def printTenths : Number → List UInt8
  | .finite negative magnitude =>
      let tenths := roundHalfEven (10 * magnitude)
      (if negative then [minus] else []) ++ printNat (tenths / 10) ++
        [point, digitByte (tenths % 10)]
  | .infinite negative => (if negative then [minus] else []) ++ infWord
  | .nan negative => (if negative then [minus] else []) ++ nanWord

/-- `printf("%02d")` of a number that is not negative. -/
def printTwoDigits (value : Nat) : List UInt8 :=
  if value < 10 then digitByte 0 :: printNat value else printNat value

theorem digitValue_digitByte {digit : Nat} (small : digit < 10) :
    digitValue (digitByte digit) = digit := by
  interval_cases digit <;> rfl

theorem isDigit_digitByte {digit : Nat} (small : digit < 10) :
    isDigit 10 (digitByte digit) = true := by
  rw [isDigit, digitValue_digitByte small]
  exact decide_eq_true small

theorem printNat_ne_nil (value : Nat) : printNat value ≠ [] := by
  unfold printNat
  split
  · exact List.cons_ne_nil _ _
  · rename_i nonzero
    rw [ne_eq, List.reverse_eq_nil_iff, List.map_eq_nil_iff]
    exact Nat.digits_ne_nil_iff_ne_zero.2 nonzero

theorem mem_printNat {value : Nat} {byte : UInt8} (member : byte ∈ printNat value) :
    ∃ digit < 10, byte = digitByte digit := by
  unfold printNat at member
  split at member
  · exact ⟨0, by decide, List.mem_singleton.1 member⟩
  · obtain ⟨digit, present, equal⟩ := List.mem_map.1 (List.mem_reverse.1 member)
    exact ⟨digit, Nat.digits_lt_base (by decide) present, equal.symm⟩

theorem isDigit_of_mem_printNat {value : Nat} {byte : UInt8} (member : byte ∈ printNat value) :
    isDigit 10 byte = true := by
  obtain ⟨digit, small, rfl⟩ := mem_printNat member
  exact isDigit_digitByte small

theorem printNat_length_le_iff {width : Nat} (positive : 0 < width) (value : Nat) :
    (printNat value).length ≤ width ↔ value < 10 ^ width := by
  unfold printNat
  split
  · rename_i zero
    subst value
    exact iff_of_true positive (Nat.pow_pos (by decide))
  · rw [List.length_reverse, List.length_map]
    exact Nat.digits_length_le_iff (by decide) value

theorem readDigits_append_singleton (base : Nat) (bytes : List UInt8) (byte : UInt8) :
    readDigits base (bytes ++ [byte]) = readDigits base bytes * base + digitValue byte := by
  rw [readDigits, List.foldl_append]
  rfl

theorem readDigits_append (base : Nat) (left right : List UInt8) :
    readDigits base (left ++ right) =
      readDigits base left * base ^ right.length + readDigits base right := by
  induction right using List.reverseRecOn with
  | nil => simp [readDigits]
  | append_singleton right byte ih =>
      rw [← List.append_assoc, readDigits_append_singleton, readDigits_append_singleton, ih,
        List.length_append, List.length_singleton, Nat.pow_succ]
      ring

private theorem readDigits_reverse_map (digits : List Nat) (small : ∀ digit ∈ digits, digit < 10) :
    readDigits 10 (digits.map digitByte).reverse = Nat.ofDigits 10 digits := by
  induction digits with
  | nil => rfl
  | cons digit rest ih =>
      have tail := ih fun other member => small other (List.mem_cons_of_mem digit member)
      rw [List.map_cons, List.reverse_cons, readDigits_append_singleton, tail,
        digitValue_digitByte (small digit List.mem_cons_self), Nat.ofDigits_cons]
      ring

theorem readDigits_printNat (value : Nat) : readDigits 10 (printNat value) = value := by
  unfold printNat
  split
  · rename_i zero
    subst value
    rfl
  · rw [readDigits_reverse_map _ fun digit member => Nat.digits_lt_base (by decide) member,
      Nat.ofDigits_digits]

def EndsNumeral (rest : List UInt8) : Prop := ∀ byte ∈ rest.head?, byte = 0

theorem scan_digits {base : Nat} {digits rest : List UInt8}
    (all : ∀ byte ∈ digits, isDigit base byte = true)
    (stops : ∀ byte ∈ rest.head?, isDigit base byte = false) :
    (digits ++ rest).takeWhile (isDigit base) = digits ∧
      (digits ++ rest).dropWhile (isDigit base) = rest := by
  rw [List.takeWhile_append_of_pos all, List.dropWhile_append_of_pos all]
  cases rest with
  | nil => exact ⟨List.append_nil _, rfl⟩
  | cons byte rest =>
      have stop := stops byte rfl
      rw [List.takeWhile_cons_of_neg (by simp [stop]), List.dropWhile_cons_of_neg (by simp [stop]),
        List.append_nil]
      exact ⟨rfl, rfl⟩

/-- A digit starts neither a name nor, with a digit or a point after it, a
hexadecimal numeral, and it is neither a space nor a sign. -/
theorem digit_start {digit : Nat} (small : digit < 10) (tail : List UInt8) :
    startsWith infWord (digitByte digit :: tail) = false ∧
      startsWith nanWord (digitByte digit :: tail) = false ∧
      isSpace (digitByte digit) = false ∧
      takeSign (digitByte digit :: tail) = (false, digitByte digit :: tail) := by
  have notLetter : lowerCase (digitByte digit) ≠ 105 ∧ lowerCase (digitByte digit) ≠ 110 := by
    interval_cases digit <;> decide
  have notSign : isSpace (digitByte digit) = false ∧ digitByte digit ≠ minus ∧
      digitByte digit ≠ plus := by
    interval_cases digit <;> decide
  refine ⟨?_, ?_, notSign.1, ?_⟩
  · simp [startsWith, infWord, notLetter.1]
  · simp [startsWith, nanWord, notLetter.2]
  · rw [takeSign, if_neg notSign.2.1, if_neg notSign.2.2]

end Foundation.DecimalNumeral
