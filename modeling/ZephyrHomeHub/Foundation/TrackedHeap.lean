import Mathlib.Data.List.Nodup

/-! A heap under observation. Blocks are numbered in the order of their allocation;
the heap stays sound as long as every access and every release is of a live block.
The contents of blocks and the reasons for which an allocation fails are left to the
program. -/

namespace Foundation.TrackedHeap

/-- `peak` is the most blocks that were ever live at once. -/
structure Heap where
  allocations : Nat
  live : List Nat
  peak : Nat
  sound : Bool
  allocated : ∀ block ∈ live, block < allocations
  distinct : live.Nodup
  counted : live.length ≤ peak

def Heap.fresh : Heap :=
  { allocations := 0
    live := []
    peak := 0
    sound := true
    allocated := List.forall_mem_nil _
    distinct := List.nodup_nil
    counted := Nat.le_refl 0 }

theorem Heap.next_not_live (heap : Heap) : heap.allocations ∉ heap.live := by
  intro member
  exact Nat.lt_irrefl _ (heap.allocated _ member)

def Heap.malloc (heap : Heap) : Nat × Heap :=
  (heap.allocations,
    { allocations := heap.allocations + 1
      live := heap.allocations :: heap.live
      peak := max heap.peak (heap.live.length + 1)
      sound := heap.sound
      allocated := by
        intro block member
        rcases List.mem_cons.1 member with rfl | older
        · exact Nat.lt_succ_self _
        · exact Nat.lt_succ_of_lt (heap.allocated block older)
      distinct := List.nodup_cons.2 ⟨heap.next_not_live, heap.distinct⟩
      counted := Nat.le_max_right _ _ })

def Heap.touch (heap : Heap) (block : Nat) : Heap :=
  { heap with sound := heap.sound && decide (block ∈ heap.live) }

def Heap.free (heap : Heap) (block : Nat) : Heap :=
  { allocations := heap.allocations
    live := heap.live.erase block
    peak := heap.peak
    sound := heap.sound && decide (block ∈ heap.live)
    allocated := fun other member => heap.allocated other (List.mem_of_mem_erase member)
    distinct := heap.distinct.erase block
    counted := Nat.le_trans List.length_erase_le heap.counted }

/-- Exactly these blocks are live, nothing went wrong so far, and there were never more
than `limit` of them. -/
structure Heap.Holds (heap : Heap) (blocks : List Nat) (limit : Nat) : Prop where
  live : heap.live = blocks
  sound : heap.sound = true
  within : heap.peak ≤ limit

variable {heap : Heap} {blocks : List Nat} {block limit : Nat}

theorem Heap.fresh_holds (limit : Nat) : Heap.fresh.Holds [] limit :=
  { live := rfl
    sound := rfl
    within := Nat.zero_le limit }

theorem Heap.Holds.malloc (holds : heap.Holds blocks limit) (room : blocks.length < limit) :
    heap.malloc.2.Holds (heap.malloc.1 :: blocks) limit := by
  have grown : heap.live.length + 1 ≤ limit := by
    rw [holds.live]
    exact room
  exact
    { live := congrArg (List.cons _) holds.live
      sound := holds.sound
      within := Nat.max_le.2 ⟨holds.within, grown⟩ }

theorem Heap.Holds.touch (holds : heap.Holds blocks limit) (member : block ∈ blocks) :
    (heap.touch block).Holds blocks limit := by
  have live : block ∈ heap.live := by
    rw [holds.live]
    exact member
  exact
    { live := holds.live
      sound := by simp only [Heap.touch, holds.sound, live, decide_true, Bool.and_self]
      within := holds.within }

theorem Heap.Holds.free (holds : heap.Holds (block :: blocks) limit) :
    (heap.free block).Holds blocks limit := by
  have live : block ∈ heap.live := by
    rw [holds.live]
    exact List.mem_cons_self
  exact
    { live := by
        simp only [Heap.free, holds.live, List.erase_cons_head]
      sound := by simp only [Heap.free, holds.sound, live, decide_true, Bool.and_self]
      within := holds.within }

end Foundation.TrackedHeap
