import Mathlib.Logic.Function.Basic
import Mathlib.Tactic.Common

/-! Texts of assignments: pieces between one separator, each a key and a value
joined at the first occurrence of another. Read into a dictionary, they leave
under a key the value of the last piece that assigns to it. -/

namespace Foundation.KeyValueText

universe u

variable {α : Type u} [DecidableEq α]

abbrev Dictionary (α : Type u) := List α → Option (List α)

def splitFirst (separator : α) : List α → Option (List α × List α)
  | [] => none
  | symbol :: rest =>
      if symbol = separator then some ([], rest)
      else (splitFirst separator rest).map fun parts => (symbol :: parts.1, parts.2)

/-- A piece without the separator assigns nothing. -/
def assign (separator : α) (dict : Dictionary α) (piece : List α) : Dictionary α :=
  match splitFirst separator piece with
  | some (key, value) => Function.update dict key (some value)
  | none => dict

def valueOf (separator : α) (key piece : List α) : Option (List α) :=
  match splitFirst separator piece with
  | some (name, value) => if name = key then some value else none
  | none => none

theorem splitFirst_eq_some_iff {separator : α} {text key value : List α} :
    splitFirst separator text = some (key, value) ↔
      separator ∉ key ∧ text = key ++ separator :: value := by
  induction text generalizing key with
  | nil =>
      constructor
      · intro impossible
        cases impossible
      · rintro ⟨-, impossible⟩
        cases key <;> cases impossible
  | cons symbol rest ih =>
      rw [splitFirst]
      split
      · rename_i same
        subst same
        constructor
        · intro found
          cases found
          exact ⟨List.not_mem_nil, rfl⟩
        · rintro ⟨clean, textEq⟩
          cases key with
          | nil =>
              cases textEq
              rfl
          | cons first others =>
              cases textEq
              exact absurd List.mem_cons_self clean
      · rename_i different
        rw [Option.map_eq_some_iff]
        constructor
        · rintro ⟨⟨before, after⟩, found, same⟩
          cases same
          obtain ⟨clean, restEq⟩ := ih.1 found
          refine ⟨?_, by rw [restEq]; rfl⟩
          rw [List.mem_cons, not_or]
          exact ⟨fun equal => different equal.symm, clean⟩
        · rintro ⟨clean, textEq⟩
          cases key with
          | nil =>
              cases textEq
              exact absurd rfl different
          | cons first others =>
              cases textEq
              rw [List.mem_cons, not_or] at clean
              exact ⟨(others, value), ih.2 ⟨clean.2, rfl⟩, rfl⟩

theorem valueOf_eq_some_iff {separator : α} {key : List α} (clean : separator ∉ key)
    {piece value : List α} :
    valueOf separator key piece = some value ↔ piece = key ++ separator :: value := by
  constructor
  · intro found
    rw [valueOf] at found
    split at found
    · rename_i name other parts
      split at found
      · rename_i same
        cases found
        rw [(splitFirst_eq_some_iff.1 parts).2, same]
      · cases found
    · cases found
  · intro pieceEq
    rw [valueOf, splitFirst_eq_some_iff.2 ⟨clean, pieceEq⟩]
    exact if_pos rfl

theorem assign_apply (separator : α) (dict : Dictionary α) (piece key : List α) :
    assign separator dict piece key = (valueOf separator key piece).or (dict key) := by
  rw [assign, valueOf]
  cases splitFirst separator piece with
  | none => rfl
  | some parts =>
      change Function.update dict parts.1 (some parts.2) key =
        (if parts.1 = key then some parts.2 else none).or (dict key)
      by_cases same : parts.1 = key
      · rw [if_pos same, same, Function.update_self, Option.some_or]
      · rw [if_neg same, Function.update_of_ne (fun equal => same equal.symm), Option.none_or]

theorem foldl_assign (separator : α) (key : List α) (pieces : List (List α))
    (dict : Dictionary α) :
    pieces.foldl (assign separator) dict key =
      (pieces.filterMap (valueOf separator key)).getLast?.or (dict key) := by
  induction pieces generalizing dict with
  | nil => rfl
  | cons piece rest ih =>
      rw [List.foldl_cons, ih, assign_apply, List.filterMap_cons]
      cases valueOf separator key piece with
      | none => rfl
      | some value =>
          rw [List.getLast?_cons]
          cases (rest.filterMap (valueOf separator key)).getLast? <;> rfl

theorem mem_splitOn_cons {separator symbol : α} {text piece : List α}
    (member : piece ∈ (symbol :: text).splitOn separator) :
    piece = [] ∨ piece ∈ text.splitOn separator ∨
      symbol ≠ separator ∧ ∃ rest ∈ text.splitOn separator, piece = symbol :: rest := by
  rw [List.splitOn_cons_eq_if_modifyHead] at member
  split at member
  · rcases List.mem_cons.1 member with empty | later
    · exact Or.inl empty
    · exact Or.inr (Or.inl later)
  · rename_i different
    obtain ⟨head, others, pieces⟩ :=
      List.exists_cons_of_ne_nil (List.splitOn_ne_nil separator text)
    rw [pieces, List.modifyHead_cons] at member
    rw [pieces]
    rcases List.mem_cons.1 member with first | later
    · exact Or.inr (Or.inr ⟨fun same => different (beq_iff_eq.2 same), head,
        List.mem_cons_self, first⟩)
    · exact Or.inr (Or.inl (List.mem_cons_of_mem _ later))

theorem separator_not_mem_piece {separator : α} {text piece : List α}
    (member : piece ∈ text.splitOn separator) : separator ∉ piece := by
  induction text generalizing piece with
  | nil =>
      cases List.mem_singleton.1 member
      exact List.not_mem_nil
  | cons symbol text ih =>
      rcases mem_splitOn_cons member with empty | later | ⟨different, rest, restMember, pieceEq⟩
      · rw [empty]
        exact List.not_mem_nil
      · exact ih later
      · rw [pieceEq, List.mem_cons, not_or]
        exact ⟨fun same => different same.symm, ih restMember⟩

theorem length_piece_le {separator : α} {text piece : List α}
    (member : piece ∈ text.splitOn separator) : piece.length ≤ text.length := by
  induction text generalizing piece with
  | nil =>
      cases List.mem_singleton.1 member
      exact Nat.le_refl _
  | cons symbol text ih =>
      rcases mem_splitOn_cons member with empty | later | ⟨-, rest, restMember, pieceEq⟩
      · rw [empty]
        exact Nat.zero_le _
      · exact Nat.le_succ_of_le (ih later)
      · rw [pieceEq]
        exact Nat.succ_le_succ (ih restMember)

theorem piece_eq_of_length {separator : α} {text piece : List α}
    (member : piece ∈ text.splitOn separator) (whole : text.length ≤ piece.length) :
    piece = text := by
  induction text generalizing piece with
  | nil => exact List.mem_singleton.1 member
  | cons symbol text ih =>
      rcases mem_splitOn_cons member with empty | later | ⟨-, rest, restMember, pieceEq⟩
      · rw [empty] at whole
        exact absurd whole (Nat.not_succ_le_zero _)
      · exact absurd (Nat.le_trans whole (length_piece_le later)) (Nat.not_succ_le_self _)
      · rw [pieceEq, ih restMember]
        rw [pieceEq] at whole
        exact Nat.le_of_succ_le_succ whole

/-- A key and a value that survive in a text of assignments. -/
structure Pair (between equals : α) where
  key : List α
  value : List α
  keyWhole : equals ∉ key
  keyInside : between ∉ key
  valueInside : between ∉ value

variable {between equals : α}

def Pair.text (pair : Pair between equals) : List α :=
  pair.key ++ equals :: pair.value

def Pair.written (pairs : List (Pair between equals)) : List α :=
  [between].intercalate (pairs.map Pair.text)

def Pair.values (pairs : List (Pair between equals)) (key : List α) : List (List α) :=
  (pairs.filter fun pair => pair.key = key).map Pair.value

def Pair.dictionary (pairs : List (Pair between equals)) : Dictionary α :=
  fun key => (Pair.values pairs key).getLast?

theorem Pair.valueOf_text (pair : Pair between equals) (key : List α) :
    valueOf equals key pair.text = if pair.key = key then some pair.value else none := by
  have split : splitFirst equals pair.text = some (pair.key, pair.value) :=
    splitFirst_eq_some_iff.2 ⟨pair.keyWhole, rfl⟩
  rw [valueOf, split]

omit [DecidableEq α] in
theorem Pair.between_not_mem_text (different : between ≠ equals) (pair : Pair between equals) :
    between ∉ pair.text := by
  intro member
  rcases List.mem_append.1 member with inKey | inValue
  · exact pair.keyInside inKey
  · rcases List.mem_cons.1 inValue with same | inValue
    · exact different same
    · exact pair.valueInside inValue

theorem Pair.filterMap_texts (pairs : List (Pair between equals)) (key : List α) :
    (pairs.map Pair.text).filterMap (valueOf equals key) = Pair.values pairs key := by
  induction pairs with
  | nil => rfl
  | cons pair rest ih =>
      rw [List.map_cons, List.filterMap_cons, pair.valueOf_text, ih]
      unfold Pair.values
      by_cases same : pair.key = key
      · simp [same]
      · simp [same]

theorem Pair.filterMap_written (different : between ≠ equals) (pairs : List (Pair between equals))
    (key : List α) :
    ((Pair.written pairs).splitOn between).filterMap (valueOf equals key) =
      Pair.values pairs key := by
  cases pairs with
  | nil => rfl
  | cons first rest =>
      have clean : ∀ piece ∈ (first :: rest).map Pair.text, between ∉ piece := by
        intro piece member
        rcases List.mem_map.1 member with ⟨pair, -, rfl⟩
        exact pair.between_not_mem_text different
      have nonempty : (first :: rest).map Pair.text ≠ [] := List.cons_ne_nil _ _
      rw [Pair.written, List.splitOn_intercalate between clean nonempty, Pair.filterMap_texts]

/-- Whatever is read could have been written. -/
theorem exists_pairs (pieces : List (List α)) (clean : ∀ piece ∈ pieces, between ∉ piece) :
    ∃ pairs : List (Pair between equals), ∀ key,
      pieces.filterMap (valueOf equals key) = Pair.values pairs key := by
  induction pieces with
  | nil => exact ⟨[], fun _ => rfl⟩
  | cons piece rest ih =>
      rcases List.forall_mem_cons.1 clean with ⟨here, later⟩
      rcases ih later with ⟨pairs, same⟩
      cases split : splitFirst equals piece with
      | none =>
          refine ⟨pairs, fun key => ?_⟩
          rw [List.filterMap_cons, valueOf, split]
          exact same key
      | some parts =>
          rcases splitFirst_eq_some_iff.1 split with ⟨whole, pieceEq⟩
          rw [pieceEq, List.mem_append, List.mem_cons, not_or, not_or] at here
          let pair : Pair between equals :=
            { key := parts.1
              value := parts.2
              keyWhole := whole
              keyInside := here.1
              valueInside := here.2.2 }
          have text : piece = pair.text := pieceEq
          refine ⟨pair :: pairs, fun key => ?_⟩
          rw [← Pair.filterMap_texts, List.map_cons, List.filterMap_cons, List.filterMap_cons,
            ← text, same key, Pair.filterMap_texts]

end Foundation.KeyValueText
