import ZephyrHomeHub.Foundation.CountingSemaphore

/-! The wait for an IP address, which the hub and the nodes share: `network_init` adds
the callback, `on_ipv4_obtained` gives `sem_ipv4`, and `wait_for_ip_addr` takes it
before it logs the addresses. -/

namespace ZephyrHomeHub.Network

open Foundation.CountingSemaphore

/-- The semaphore, with the number of `NET_EVENT_IPV4_ADDR_ADD` the callback was
called for. -/
structure AddressWait where
  callbackAdded : Bool
  semIpv4 : Semaphore 1
  heard : Nat
  returned : Bool

/-- `K_SEM_DEFINE(sem_ipv4, 0, 1)` -/
def AddressWait.boot : AddressWait :=
  { callbackAdded := false
    semIpv4 := Semaphore.empty 1
    heard := 0
    returned := false }

def AddressWait.networkInit (wait : AddressWait) : AddressWait :=
  { wait with callbackAdded := true }

/-- An address that is added before the callback is not heard of. -/
def AddressWait.ipv4AddrAdd (wait : AddressWait) : AddressWait :=
  if wait.callbackAdded then
    { wait with semIpv4 := wait.semIpv4.give, heard := wait.heard + 1 }
  else wait

def AddressWait.waitForIpAddr (wait : AddressWait) : Option AddressWait :=
  wait.semIpv4.take.map fun semIpv4 => { wait with semIpv4 := semIpv4, returned := true }

/-- Until the wait returns, the semaphore is given exactly when an address was heard
of, and it returns after one only. -/
structure AddressWait.Tracked (wait : AddressWait) : Prop where
  given : wait.returned = false → (0 < wait.semIpv4.count ↔ 0 < wait.heard)
  came : wait.returned = true → 0 < wait.heard
  listened : 0 < wait.heard → wait.callbackAdded = true

variable {wait next : AddressWait}

theorem addressWait_tracked_boot : AddressWait.boot.Tracked :=
  { given := fun _ => Iff.rfl
    came := fun returned => nomatch returned
    listened := fun heard => absurd heard (Nat.lt_irrefl 0) }

theorem AddressWait.Tracked.networkInit (tracked : wait.Tracked) : wait.networkInit.Tracked :=
  { given := tracked.given
    came := tracked.came
    listened := fun _ => rfl }

theorem AddressWait.ipv4AddrAdd_returned (wait : AddressWait) :
    wait.ipv4AddrAdd.returned = wait.returned := by
  unfold AddressWait.ipv4AddrAdd
  split <;> rfl

theorem AddressWait.Tracked.ipv4AddrAdd (tracked : wait.Tracked) : wait.ipv4AddrAdd.Tracked := by
  unfold AddressWait.ipv4AddrAdd
  split
  · rename_i listening
    exact
      { given := fun _ =>
          iff_of_true (Semaphore.give_available Nat.one_pos wait.semIpv4) (Nat.succ_pos _)
        came := fun _ => Nat.succ_pos _
        listened := fun _ => listening }
  · exact tracked

theorem AddressWait.waitForIpAddr_cases (returns : wait.waitForIpAddr = some next) :
    0 < wait.semIpv4.count ∧ next.returned = true ∧ next.heard = wait.heard ∧
      next.callbackAdded = wait.callbackAdded := by
  rcases Option.map_eq_some_iff.1 returns with ⟨semIpv4, taken, rfl⟩
  exact ⟨(Semaphore.take_eq_some taken).1, rfl, rfl, rfl⟩

theorem AddressWait.Tracked.waitForIpAddr (tracked : wait.Tracked)
    (waiting : wait.returned = false) (returns : wait.waitForIpAddr = some next) :
    next.Tracked := by
  rcases AddressWait.waitForIpAddr_cases returns with ⟨available, returned, heard, callback⟩
  have came : 0 < wait.heard := (tracked.given waiting).1 available
  exact
    { given := fun again => Bool.noConfusion (returned.symm.trans again)
      came := fun _ => heard ▸ came
      listened := fun _ => callback ▸ tracked.listened came }

/-- No wake-up is lost: the wait can return exactly when an address was heard of. -/
theorem AddressWait.Tracked.returns_iff (tracked : wait.Tracked)
    (waiting : wait.returned = false) : (wait.waitForIpAddr).isSome = true ↔ 0 < wait.heard := by
  rw [← tracked.given waiting, AddressWait.waitForIpAddr, Option.isSome_map, Semaphore.take]
  split
  · rename_i available
    exact iff_of_true rfl available
  · rename_i empty
    exact iff_of_false Bool.false_ne_true empty

end ZephyrHomeHub.Network
