import Mathlib.Data.Vector.Basic
import Mathlib.Tactic.Common

/-! C strings in fixed-size byte buffers. A string is the bytes before the first
NUL. Reading past the end of a list of bytes is undefined in C; here the end of
the list reads as a NUL, and writing past the end of a buffer is cut off, so the
facts about a call are stated for the sizes at which it stays inside. -/

namespace Foundation.CString

abbrev Buffer (size : Nat) := List.Vector UInt8 size

def Buffer.zero (size : Nat) : Buffer size := List.Vector.replicate size 0

def cstr (bytes : List UInt8) : List UInt8 :=
  bytes.takeWhile fun byte => byte ≠ 0

/-- A buffer that holds a string: one of its bytes is a NUL. -/
structure StringBuffer (size : Nat) where
  buffer : Buffer size
  terminated : (0 : UInt8) ∈ buffer.toList
deriving DecidableEq

def StringBuffer.text {size : Nat} (string : StringBuffer size) : List UInt8 :=
  cstr string.buffer.toList

def strcmp : List UInt8 → List UInt8 → Int
  | [], [] => 0
  | [], right :: _ => -(right.toNat : Int)
  | left :: _, [] => left.toNat
  | left :: lefts, right :: rights =>
      if left = right then if left = 0 then 0 else strcmp lefts rights
      else (left.toNat : Int) - right.toNat

def Buffer.memcpy {size : Nat} (destination : Buffer size) (source : List UInt8) (count : Nat) :
    Buffer size :=
  ⟨((source.take count) ++ destination.toList.drop (source.take count).length).take size, by
    rw [List.length_take, List.length_append, List.length_drop, destination.toList_length]
    omega⟩

def Buffer.assign {size : Nat} (buffer : Buffer size) (index : Nat) (byte : UInt8) : Buffer size :=
  ⟨buffer.toList.set index byte, by rw [List.length_set, buffer.toList_length]⟩

/-- The string and its terminator go to the front, the bytes after stay. -/
def Buffer.strcpy {size : Nat} (destination : Buffer size) (source : List UInt8) : Buffer size :=
  destination.memcpy (cstr source ++ [0]) ((cstr source).length + 1)

/-- At most `count` bytes of the string, padded with NULs up to `count`. -/
def Buffer.strncpy {size : Nat} (destination : Buffer size) (source : List UInt8) (count : Nat) :
    Buffer size :=
  destination.memcpy ((cstr source).take count ++
    List.replicate (count - (cstr source).length) 0) count

/-- At most `count - 1` bytes of the text and a NUL. -/
def Buffer.snprintf {size : Nat} (destination : Buffer size) (count : Nat) (text : List UInt8) :
    Buffer size :=
  (destination.memcpy text (min (count - 1) text.length)).assign (min (count - 1) text.length) 0

theorem cstr_nil : cstr [] = [] := rfl

theorem cstr_cons (byte : UInt8) (rest : List UInt8) :
    cstr (byte :: rest) = if byte = 0 then [] else byte :: cstr rest := by
  by_cases zero : byte = 0 <;> simp [cstr, zero]

theorem zero_not_mem_cstr (bytes : List UInt8) : (0 : UInt8) ∉ cstr bytes := by
  induction bytes with
  | nil => exact List.not_mem_nil
  | cons byte rest ih =>
      rw [cstr_cons]
      split
      · exact List.not_mem_nil
      · rename_i nonzero
        rw [List.mem_cons]
        rintro (same | later)
        · exact nonzero same.symm
        · exact ih later

theorem cstr_of_clean {text : List UInt8} (clean : (0 : UInt8) ∉ text) : cstr text = text := by
  induction text with
  | nil => rfl
  | cons byte text ih =>
      rw [List.mem_cons, not_or] at clean
      rw [cstr_cons, if_neg (Ne.symm clean.1), ih clean.2]

theorem cstr_append_zero {text : List UInt8} (clean : (0 : UInt8) ∉ text) (rest : List UInt8) :
    cstr (text ++ 0 :: rest) = text := by
  induction text with
  | nil => exact cstr_cons 0 rest
  | cons byte text ih =>
      rw [List.mem_cons, not_or] at clean
      rw [List.cons_append, cstr_cons, if_neg (Ne.symm clean.1), ih clean.2]

theorem cstr_terminated (bytes rest : List UInt8) : cstr (bytes ++ 0 :: rest) = cstr bytes := by
  induction bytes with
  | nil => exact cstr_cons 0 rest
  | cons byte bytes ih => rw [List.cons_append, cstr_cons, cstr_cons, ih]

theorem cstr_take (bytes : List UInt8) (count : Nat) :
    cstr (bytes.take count) = (cstr bytes).take count := by
  induction bytes generalizing count with
  | nil => rw [List.take_nil, cstr_nil, List.take_nil]
  | cons byte bytes ih =>
      cases count with
      | zero => rfl
      | succ count =>
          rw [List.take_succ_cons, cstr_cons, cstr_cons, ih]
          split
          · rfl
          · rfl

theorem cstr_length_le (bytes : List UInt8) : (cstr bytes).length ≤ bytes.length :=
  (List.takeWhile_prefix _).length_le

theorem cstr_length_lt {bytes : List UInt8} (terminated : (0 : UInt8) ∈ bytes) :
    (cstr bytes).length < bytes.length := by
  induction bytes with
  | nil => cases terminated
  | cons byte rest ih =>
      rw [cstr_cons]
      split
      · exact Nat.succ_pos _
      · rename_i nonzero
        rcases List.mem_cons.1 terminated with same | later
        · exact absurd same.symm nonzero
        · exact Nat.succ_lt_succ (ih later)

theorem strcmp_eq_zero_iff (left right : List UInt8) :
    strcmp left right = 0 ↔ cstr left = cstr right := by
  have positive : ∀ byte : UInt8, byte ≠ 0 → 0 < byte.toNat := by
    intro byte nonzero
    rcases Nat.eq_zero_or_pos byte.toNat with zero | positive
    · exact absurd (UInt8.toNat_inj.1 zero) nonzero
    · exact positive
  induction left generalizing right with
  | nil =>
      cases right with
      | nil => simp only [strcmp]
      | cons byte rest =>
          rw [cstr_nil, cstr_cons]
          by_cases zero : byte = 0
          · simp [strcmp, zero]
          · have := positive byte zero
            simp only [strcmp, if_neg zero, reduceCtorEq, iff_false]
            omega
  | cons byte rest ih =>
      cases right with
      | nil =>
          rw [cstr_nil, cstr_cons]
          by_cases zero : byte = 0
          · simp [strcmp, zero]
          · have := positive byte zero
            simp only [strcmp, if_neg zero, reduceCtorEq, iff_false]
            omega
      | cons other others =>
          rw [cstr_cons, cstr_cons, strcmp]
          by_cases same : byte = other
          · subst other
            rw [if_pos rfl]
            by_cases zero : byte = 0
            · simp [zero]
            · simp only [if_neg zero, List.cons.injEq, true_and]
              exact ih others
          · have distinct : byte.toNat ≠ other.toNat := fun equal =>
              same (UInt8.toNat_inj.1 equal)
            rw [if_neg same]
            constructor
            · intro equal
              omega
            · intro equal
              by_cases zero : byte = 0 <;> by_cases otherZero : other = 0 <;>
                simp_all

theorem toList_memcpy {size : Nat} (destination : Buffer size) (source : List UInt8)
    (count : Nat) (fits : (source.take count).length ≤ size) :
    (destination.memcpy source count).toList =
      source.take count ++ destination.toList.drop (source.take count).length := by
  apply List.take_of_length_le
  rw [List.length_append, List.length_drop, destination.toList_length]
  omega

theorem toList_memcpy_terminated {size : Nat} (destination : Buffer size) (source : List UInt8)
    {count : Nat} (available : count ≤ source.length) (fits : count < size) :
    ((destination.memcpy source count).assign count 0).toList =
      source.take count ++ 0 :: destination.toList.drop (count + 1) := by
  have lengthEq : (source.take count).length = count := by
    rw [List.length_take, Nat.min_eq_left available]
  have room : count < destination.toList.length := by
    rw [destination.toList_length]
    exact fits
  change (destination.memcpy source count).toList.set count 0 = _
  rw [toList_memcpy _ _ _ (by omega), lengthEq,
    List.set_append_right _ _ (Nat.le_of_eq lengthEq), lengthEq,
    Nat.sub_self, List.drop_eq_getElem_cons room, List.set_cons_zero]

/-- The first `count` bytes of the source and a NUL after them stand in the destination,
whose other bytes are as they were: neither buffer was left. -/
structure CopiedInside {size : Nat} (destination : Buffer size) (source : List UInt8)
    (count : Nat) (result : Buffer size) : Prop where
  available : count ≤ source.length
  room : count < size
  bytes : result.toList = source.take count ++ 0 :: destination.toList.drop (count + 1)

theorem memcpy_copiedInside {size : Nat} (destination : Buffer size) {source : List UInt8}
    {count : Nat} (available : count ≤ source.length) (room : count < size) :
    CopiedInside destination source count ((destination.memcpy source count).assign count 0) :=
  ⟨available, room, toList_memcpy_terminated destination source available room⟩

private theorem toList_strcpy {size : Nat} (destination : Buffer size) (source : List UInt8)
    (fits : (cstr source).length < size) :
    (destination.strcpy source).toList =
      cstr source ++ 0 :: destination.toList.drop ((cstr source).length + 1) := by
  have lengthEq : (cstr source ++ [0]).length = (cstr source).length + 1 :=
    List.length_append
  have whole : (cstr source ++ [0]).take ((cstr source).length + 1) = cstr source ++ [0] :=
    List.take_of_length_le (Nat.le_of_eq lengthEq)
  rw [Buffer.strcpy, toList_memcpy _ _ _ (by rw [whole, lengthEq]; exact fits), whole, lengthEq,
    List.append_assoc]
  rfl

theorem StringBuffer.text_length_lt {size : Nat} (string : StringBuffer size) :
    string.text.length < size := by
  have bounded := cstr_length_lt string.terminated
  rwa [List.Vector.toList_length] at bounded

def StringBuffer.zero (size : Nat) (positive : 0 < size) : StringBuffer size :=
  { buffer := Buffer.zero size
    terminated := by
      have zeros : (Buffer.zero size).toList = List.replicate size 0 := rfl
      rw [zeros]
      exact List.mem_replicate.2 ⟨Nat.ne_of_gt positive, rfl⟩ }

/-- `strncpy` of fewer bytes than a zeroed buffer has leaves its last NUL. -/
def StringBuffer.strncpy {size : Nat} (source : List UInt8) (count : Nat) (short : count < size) :
    StringBuffer size :=
  { buffer := (Buffer.zero size).strncpy source count
    terminated := by
      unfold Buffer.strncpy
      set copied := (cstr source).take count ++ List.replicate (count - (cstr source).length) 0
      have shorter : (copied.take count).length ≤ count := List.length_take_le _ _
      rw [toList_memcpy _ _ _ (by omega)]
      apply List.mem_append_right
      have zeros : (Buffer.zero size).toList = List.replicate size 0 := rfl
      rw [zeros, List.drop_replicate, List.mem_replicate]
      exact ⟨by omega, rfl⟩ }

def StringBuffer.strcpy {size : Nat} (destination source : StringBuffer size) :
    StringBuffer size :=
  { buffer := destination.buffer.strcpy source.buffer.toList
    terminated := by
      rw [toList_strcpy _ _ source.text_length_lt]
      exact List.mem_append_right _ List.mem_cons_self }

theorem cstr_snprintf {size : Nat} (destination : Buffer size) (text : List UInt8)
    (positive : 0 < size) :
    cstr (destination.snprintf size text).toList = (cstr text).take (size - 1) := by
  have fits : min (size - 1) text.length < size := by omega
  rw [Buffer.snprintf, toList_memcpy_terminated _ _ (Nat.min_le_right _ _) fits, cstr_terminated,
    cstr_take]
  rcases Nat.le_total (size - 1) text.length with long | short
  · rw [Nat.min_eq_left long]
  · have shorter := cstr_length_le text
    rw [Nat.min_eq_right short, List.take_of_length_le shorter,
      List.take_of_length_le (Nat.le_trans shorter short)]

theorem StringBuffer.text_strncpy {size : Nat} (source : List UInt8) (count : Nat)
    (short : count < size) :
    (StringBuffer.strncpy source count short).text = (cstr source).take count := by
  set padding := List.replicate (count - (cstr source).length) (0 : UInt8) with paddingEq
  have lengthEq : ((cstr source).take count ++ padding).length = count := by
    rw [paddingEq, List.length_append, List.length_take, List.length_replicate]
    omega
  have whole : ((cstr source).take count ++ padding).take count =
      (cstr source).take count ++ padding := List.take_of_length_le (Nat.le_of_eq lengthEq)
  have zeros : (Buffer.zero size).toList = List.replicate size 0 := rfl
  obtain ⟨more, room⟩ := Nat.exists_eq_add_of_lt short
  have after : padding ++ (Buffer.zero size).toList.drop count =
      0 :: List.replicate (count - (cstr source).length + more) 0 := by
    rw [paddingEq, zeros, List.drop_replicate, ← List.replicate_add, ← List.replicate_succ]
    congr 1
    omega
  have clean : (0 : UInt8) ∉ (cstr source).take count := fun member =>
    zero_not_mem_cstr source (List.mem_of_mem_take member)
  change cstr ((Buffer.zero size).memcpy ((cstr source).take count ++ padding) count).toList = _
  rw [toList_memcpy _ _ _ (by rw [whole, lengthEq]; exact Nat.le_of_lt short), whole, lengthEq,
    List.append_assoc, after]
  exact cstr_append_zero clean _

theorem getElem?_strncpy_zero {size : Nat} (source : List UInt8) {count index : Nat}
    (beyond : count ≤ index) (inside : index < size) :
    ((Buffer.zero size).strncpy source count).toList[index]? = some 0 := by
  set copied := (cstr source).take count ++ List.replicate (count - (cstr source).length) 0
  have shorter : (copied.take count).length ≤ count := List.length_take_le _ _
  have zeros : (Buffer.zero size).toList = List.replicate size 0 := rfl
  change ((Buffer.zero size).memcpy copied count).toList[index]? = some 0
  rw [toList_memcpy _ _ _ (by omega), zeros, List.drop_replicate,
    List.getElem?_append_right (by omega), List.getElem?_replicate, if_pos (by omega)]

theorem StringBuffer.strncpy_congr {size : Nat} {source other : List UInt8} {count : Nat}
    {short : count < size} (same : cstr source = cstr other) :
    StringBuffer.strncpy source count short = StringBuffer.strncpy other count short := by
  have buffers : (Buffer.zero size).strncpy source count =
      (Buffer.zero size).strncpy other count := by
    unfold Buffer.strncpy
    rw [same]
  unfold StringBuffer.strncpy
  simp only [buffers]

theorem StringBuffer.text_strcpy {size : Nat} (destination source : StringBuffer size) :
    (destination.strcpy source).text = source.text := by
  rw [StringBuffer.text, StringBuffer.strcpy, toList_strcpy _ _ source.text_length_lt]
  exact cstr_append_zero (zero_not_mem_cstr _) _

end Foundation.CString
