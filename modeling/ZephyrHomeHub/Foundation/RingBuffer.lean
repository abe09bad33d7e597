import Mathlib.Data.List.DropRight
import Mathlib.Data.Nat.ModEq
import Mathlib.Logic.Function.Basic
import Mathlib.Tactic.Common

/-! A ring of fixed capacity that overwrites its oldest cell when it is full. The
head is the next cell to write and the count says how many cells back from it
are valid. After any sequence of pushes the valid cells, read from the oldest,
are the last items of the sequence. -/

namespace Foundation.RingBuffer

variable {α : Type*} {capacity : Nat}

/-- The head is in range and the count within the capacity by construction. -/
structure Ring (α : Type*) (capacity : Nat) where
  cells : Fin capacity → α
  head : Fin capacity
  count : Nat
  countLe : count ≤ capacity

def Ring.wrap (ring : Ring α capacity) (index : Nat) : Fin capacity :=
  ⟨index % capacity, Nat.mod_lt index ring.head.pos⟩

def Ring.push (ring : Ring α capacity) (item : α) : Ring α capacity :=
  { cells := Function.update ring.cells ring.head item
    head := ring.wrap (ring.head.val + 1)
    count := if ring.count < capacity then ring.count + 1 else ring.count
    countLe := by
      have bounded := ring.countLe
      split <;> omega }

/-- The valid cells, forward from `head - count` modulo the capacity. -/
def Ring.contents (ring : Ring α capacity) : List α :=
  (List.range ring.count).map fun offset =>
    ring.cells (ring.wrap (ring.head.val + (capacity - ring.count) + offset))

structure Ring.Holds (ring : Ring α capacity) (items : List α) : Prop where
  head : ring.head.val = items.length % capacity
  count : ring.count = min capacity items.length
  cell : ∀ index, items.length - ring.count ≤ index → index < items.length →
    items[index]? = some (ring.cells (ring.wrap index))

theorem Ring.holds_nil (ring : Ring α capacity) (head : ring.head.val = 0)
    (count : ring.count = 0) : ring.Holds [] :=
  { head := by rw [head, List.length_nil, Nat.zero_mod]
    count := by rw [count, List.length_nil, Nat.min_zero]
    cell := by
      intro index _ inside
      exact absurd inside (Nat.not_lt_zero index) }

private theorem wrap_ne_of_lt (ring : Ring α capacity) {earlier later : Nat}
    (before : earlier < later) (near : later - earlier < capacity) :
    ring.wrap earlier ≠ ring.wrap later := by
  intro same
  have equal : earlier % capacity = later % capacity := congrArg Fin.val same
  have divides : capacity ∣ later - earlier := (Nat.modEq_iff_dvd' (by omega)).1 equal
  have atLeast := Nat.le_of_dvd (by omega) divides
  omega

theorem Ring.Holds.push {ring : Ring α capacity} {items : List α} (holds : ring.Holds items)
    (item : α) : (ring.push item).Holds (items ++ [item]) := by
  have bounded := ring.countLe
  have headEq := holds.head
  have countEq := holds.count
  have headCell : ring.wrap items.length = ring.head := Fin.ext headEq.symm
  have newCount : (ring.push item).count = min capacity (items.length + 1) := by
    simp only [Ring.push]
    split <;> omega
  refine { head := ?_, count := ?_, cell := ?_ }
  · simp only [Ring.push, Ring.wrap, List.length_append, List.length_singleton, headEq,
      Nat.mod_add_mod]
  · simpa only [List.length_append, List.length_singleton] using newCount
  · intro index fromOldest inside
    rw [newCount, List.length_append, List.length_singleton] at fromOldest
    rw [List.length_append, List.length_singleton] at inside
    have cellEq : (ring.push item).cells ((ring.push item).wrap index) =
        Function.update ring.cells ring.head item (ring.wrap index) := rfl
    rw [cellEq]
    by_cases last : index = items.length
    · subst index
      rw [headCell, Function.update_self]
      simp
    · have before : index < items.length := by omega
      have other : ring.wrap index ≠ ring.head := by
        rw [← headCell]
        exact wrap_ne_of_lt ring before (by omega)
      rw [Function.update_of_ne other, List.getElem?_append_left before]
      exact holds.cell index (by omega) before

theorem Ring.Holds.contents_eq {ring : Ring α capacity} {items : List α}
    (holds : ring.Holds items) : ring.contents = items.rtake capacity := by
  have countEq := holds.count
  have bounded := ring.countLe
  apply List.ext_getElem?
  intro offset
  have startEq : items.length - capacity = items.length - ring.count := by omega
  rw [List.rtake, List.getElem?_drop, startEq]
  by_cases inside : offset < ring.count
  · have sameCell : ring.wrap (ring.head.val + (capacity - ring.count) + offset) =
        ring.wrap (items.length - ring.count + offset) := by
      apply Fin.ext
      have lap : items.length + (capacity - ring.count) + offset =
          items.length - ring.count + offset + capacity := by omega
      calc (ring.head.val + (capacity - ring.count) + offset) % capacity
          = (items.length % capacity + ((capacity - ring.count) + offset)) % capacity := by
            rw [holds.head, Nat.add_assoc]
        _ = (items.length - ring.count + offset + capacity) % capacity := by
            rw [Nat.mod_add_mod, ← Nat.add_assoc, lap]
        _ = (items.length - ring.count + offset) % capacity := Nat.add_mod_right _ _
    rw [holds.cell _ (by omega) (by omega), ← sameCell]
    simp only [Ring.contents, List.getElem?_map, List.getElem?_range inside, Option.map_some]
  · have contentsLength : ring.contents.length = ring.count := by
      rw [Ring.contents, List.length_map, List.length_range]
    rw [List.getElem?_eq_none (by omega), List.getElem?_eq_none (by omega)]

theorem rtake_append_singleton (items : List α) (item : α) (size : Nat) :
    (items.rtake size ++ [item]).rtake size = (items ++ [item]).rtake size := by
  cases size with
  | zero => rw [List.rtake_zero, List.rtake_zero]
  | succ size =>
      have shorter : (items.rtake (size + 1)).rtake size = items.rtake size := by
        rw [List.rtake_eq_reverse_take_reverse, List.rtake_eq_reverse_take_reverse,
          List.rtake_eq_reverse_take_reverse, List.reverse_reverse, List.take_take,
          Nat.min_eq_left (Nat.le_succ size)]
      rw [List.rtake_concat_succ, List.rtake_concat_succ, shorter]

end Foundation.RingBuffer
