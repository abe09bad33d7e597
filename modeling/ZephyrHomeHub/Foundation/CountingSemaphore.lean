import Mathlib.Tactic.Common

/-! Counting semaphores with a limit. A give beyond the limit is lost. -/

namespace Foundation.CountingSemaphore

structure Semaphore (limit : Nat) where
  count : Nat
  bounded : count ≤ limit

variable {limit : Nat}

def Semaphore.empty (limit : Nat) : Semaphore limit :=
  { count := 0
    bounded := Nat.zero_le limit }

def Semaphore.give (sem : Semaphore limit) : Semaphore limit :=
  if room : sem.count < limit then { count := sem.count + 1, bounded := room } else sem

/-- Without a count the caller has to wait. -/
def Semaphore.take (sem : Semaphore limit) : Option (Semaphore limit) :=
  if 0 < sem.count then
    some { count := sem.count - 1, bounded := Nat.le_trans (Nat.sub_le _ _) sem.bounded }
  else none

def Semaphore.takeNoWait (sem : Semaphore limit) : Semaphore limit := sem.take.getD sem

theorem Semaphore.give_available (positive : 0 < limit) (sem : Semaphore limit) :
    0 < sem.give.count := by
  unfold Semaphore.give
  split
  · exact Nat.succ_pos _
  · rename_i full
    exact Nat.lt_of_lt_of_le positive (Nat.not_lt.1 full)

theorem Semaphore.take_eq_some {sem next : Semaphore limit} (taken : sem.take = some next) :
    0 < sem.count ∧ next.count = sem.count - 1 := by
  unfold Semaphore.take at taken
  split at taken
  · rename_i available
    cases taken
    exact ⟨available, rfl⟩
  · cases taken

theorem Semaphore.count_takeNoWait (sem : Semaphore limit) :
    sem.takeNoWait.count = sem.count - 1 := by
  unfold Semaphore.takeNoWait
  cases taken : sem.take with
  | some next => exact (Semaphore.take_eq_some taken).2
  | none =>
      unfold Semaphore.take at taken
      split at taken
      · cases taken
      · change sem.count = _
        omega

theorem Semaphore.takeNoWait_binary (sem : Semaphore 1) : sem.takeNoWait.count = 0 := by
  have bounded := sem.bounded
  rw [Semaphore.count_takeNoWait]
  omega

end Foundation.CountingSemaphore
