import Mathlib.Tactic.Common

/-! A work queue served by one thread. It runs the handlers of its items one at a
time in submission order. An item submitted while it is queued stays queued
once, and it is busy from its submission until its handler has returned. The
handler has one effect; what matters to a user of the queue is the list of items
whose effect is still due. -/

namespace Foundation.SingleWorker

structure WorkQueue (Item : Type) where
  queued : List Item
  /-- The item whose handler runs, and whether its effect is done. -/
  running : Option (Item × Bool)

variable {Item : Type}

def WorkQueue.empty : WorkQueue Item := { queued := [], running := none }

/-- The items whose effect is still due, in the order it will take place. -/
def WorkQueue.waiting (work : WorkQueue Item) : List Item :=
  match work.running with
  | some (item, false) => item :: work.queued
  | some (_, true) => work.queued
  | none => work.queued

def WorkQueue.start (work : WorkQueue Item) : Option (WorkQueue Item) :=
  match work.running, work.queued with
  | none, item :: rest => some { queued := rest, running := some (item, false) }
  | none, [] => none
  | some _, _ => none

def WorkQueue.act (work : WorkQueue Item) : Option (Item × WorkQueue Item) :=
  match work.running with
  | some (item, false) => some (item, { work with running := some (item, true) })
  | some (_, true) => none
  | none => none

def WorkQueue.finish (work : WorkQueue Item) : Option (WorkQueue Item) :=
  match work.running with
  | some (_, true) => some { work with running := none }
  | some (_, false) => none
  | none => none

theorem WorkQueue.start_waiting {work next : WorkQueue Item} (started : work.start = some next) :
    next.waiting = work.waiting := by
  obtain ⟨queued, running⟩ := work
  cases running with
  | some _ => cases started
  | none =>
      cases queued with
      | nil => cases started
      | cons item rest =>
          cases started
          rfl

theorem WorkQueue.act_waiting {work next : WorkQueue Item} {item : Item}
    (acted : work.act = some (item, next)) : work.waiting = item :: next.waiting := by
  obtain ⟨queued, running⟩ := work
  cases running with
  | none => cases acted
  | some handler =>
      obtain ⟨current, done⟩ := handler
      cases done with
      | true => cases acted
      | false =>
          cases acted
          rfl

theorem WorkQueue.finish_waiting {work next : WorkQueue Item} (finished : work.finish = some next) :
    next.waiting = work.waiting := by
  obtain ⟨queued, running⟩ := work
  cases running with
  | none => cases finished
  | some handler =>
      obtain ⟨current, done⟩ := handler
      cases done with
      | false => cases finished
      | true =>
          cases finished
          rfl

def WorkQueue.remaining (work : WorkQueue Item) : Nat :=
  3 * work.queued.length +
    match work.running with
    | none => 0
    | some (_, true) => 1
    | some (_, false) => 2

theorem WorkQueue.progress (work : WorkQueue Item) :
    (work.remaining = 0 ∧ work.waiting = []) ∨
      (∃ next, work.start = some next ∧ next.remaining + 1 = work.remaining) ∨
      (∃ item next, work.act = some (item, next) ∧ next.remaining + 1 = work.remaining) ∨
      ∃ next, work.finish = some next ∧ next.remaining + 1 = work.remaining := by
  obtain ⟨queued, running⟩ := work
  cases running with
  | none =>
      cases queued with
      | nil => exact Or.inl ⟨rfl, rfl⟩
      | cons item rest => exact Or.inr (Or.inl ⟨_, rfl, rfl⟩)
  | some handler =>
      obtain ⟨current, done⟩ := handler
      cases done with
      | true => exact Or.inr (Or.inr (Or.inr ⟨_, rfl, rfl⟩))
      | false => exact Or.inr (Or.inr (Or.inl ⟨_, _, rfl, rfl⟩))

theorem WorkQueue.waiting_le_remaining (work : WorkQueue Item) :
    work.waiting.length ≤ work.remaining := by
  obtain ⟨queued, running⟩ := work
  cases running with
  | none =>
      simp only [WorkQueue.waiting, WorkQueue.remaining]
      omega
  | some handler =>
      obtain ⟨current, done⟩ := handler
      cases done with
      | true =>
          simp only [WorkQueue.waiting, WorkQueue.remaining]
          omega
      | false =>
          simp only [WorkQueue.waiting, WorkQueue.remaining, List.length_cons]
          omega

theorem WorkQueue.start_queued {work next : WorkQueue Item} (started : work.start = some next) :
    next.queued.Sublist work.queued := by
  obtain ⟨queued, running⟩ := work
  cases running with
  | some _ => cases started
  | none =>
      cases queued with
      | nil => cases started
      | cons item rest =>
          cases started
          exact List.sublist_cons_self item rest

theorem WorkQueue.act_queued {work next : WorkQueue Item} {item : Item}
    (acted : work.act = some (item, next)) : next.queued = work.queued := by
  obtain ⟨queued, running⟩ := work
  cases running with
  | none => cases acted
  | some handler =>
      obtain ⟨current, done⟩ := handler
      cases done with
      | true => cases acted
      | false =>
          cases acted
          rfl

theorem WorkQueue.finish_queued {work next : WorkQueue Item}
    (finished : work.finish = some next) : next.queued = work.queued := by
  obtain ⟨queued, running⟩ := work
  cases running with
  | none => cases finished
  | some handler =>
      obtain ⟨current, done⟩ := handler
      cases done with
      | false => cases finished
      | true =>
          cases finished
          rfl

theorem WorkQueue.remaining_le (work : WorkQueue Item) :
    work.remaining ≤ 3 * work.queued.length + 2 ∧
      work.waiting.length ≤ work.queued.length + 1 := by
  obtain ⟨queued, running⟩ := work
  cases running with
  | none =>
      simp only [WorkQueue.waiting, WorkQueue.remaining]
      omega
  | some handler =>
      obtain ⟨current, done⟩ := handler
      cases done with
      | true =>
          simp only [WorkQueue.waiting, WorkQueue.remaining]
          omega
      | false =>
          simp only [WorkQueue.waiting, WorkQueue.remaining, List.length_cons]
          omega

theorem WorkQueue.eq_empty_of_remaining {work : WorkQueue Item} (zero : work.remaining = 0) :
    work = WorkQueue.empty := by
  obtain ⟨queued, running⟩ := work
  cases running with
  | none =>
      cases queued with
      | nil => rfl
      | cons item rest =>
          simp only [WorkQueue.remaining, List.length_cons] at zero
          omega
  | some handler =>
      obtain ⟨current, done⟩ := handler
      cases done with
      | true =>
          simp only [WorkQueue.remaining] at zero
          omega
      | false =>
          simp only [WorkQueue.remaining] at zero
          omega

theorem WorkQueue.start_remaining {work next : WorkQueue Item} (started : work.start = some next) :
    next.remaining + 1 = work.remaining := by
  obtain ⟨queued, running⟩ := work
  cases running with
  | some _ => cases started
  | none =>
      cases queued with
      | nil => cases started
      | cons item rest =>
          cases started
          rfl

theorem WorkQueue.act_remaining {work next : WorkQueue Item} {item : Item}
    (acted : work.act = some (item, next)) : next.remaining + 1 = work.remaining := by
  obtain ⟨queued, running⟩ := work
  cases running with
  | none => cases acted
  | some handler =>
      obtain ⟨current, done⟩ := handler
      cases done with
      | true => cases acted
      | false =>
          cases acted
          rfl

theorem WorkQueue.finish_remaining {work next : WorkQueue Item}
    (finished : work.finish = some next) : next.remaining + 1 = work.remaining := by
  obtain ⟨queued, running⟩ := work
  cases running with
  | none => cases finished
  | some handler =>
      obtain ⟨current, done⟩ := handler
      cases done with
      | false => cases finished
      | true =>
          cases finished
          rfl

def WorkQueue.untilAct (work : WorkQueue Item) : Nat :=
  match work.running with
  | none => 1
  | some (_, false) => 0
  | some (_, true) => 2

theorem WorkQueue.start_untilAct {work next : WorkQueue Item} (started : work.start = some next) :
    next.untilAct + 1 = work.untilAct := by
  obtain ⟨queued, running⟩ := work
  cases running with
  | some _ => cases started
  | none =>
      cases queued with
      | nil => cases started
      | cons item rest =>
          cases started
          rfl

theorem WorkQueue.act_untilAct {work next : WorkQueue Item} {item : Item}
    (acted : work.act = some (item, next)) : work.untilAct = 0 ∧ next.untilAct = 2 := by
  obtain ⟨queued, running⟩ := work
  cases running with
  | none => cases acted
  | some handler =>
      obtain ⟨current, done⟩ := handler
      cases done with
      | true => cases acted
      | false =>
          cases acted
          exact ⟨rfl, rfl⟩

theorem WorkQueue.finish_untilAct {work next : WorkQueue Item}
    (finished : work.finish = some next) : next.untilAct + 1 = work.untilAct := by
  obtain ⟨queued, running⟩ := work
  cases running with
  | none => cases finished
  | some handler =>
      obtain ⟨current, done⟩ := handler
      cases done with
      | false => cases finished
      | true =>
          cases finished
          rfl

section Decidable

variable [DecidableEq Item]

def WorkQueue.submit (work : WorkQueue Item) (item : Item) : WorkQueue Item :=
  if item ∈ work.queued then work else { work with queued := work.queued ++ [item] }

def WorkQueue.busy (work : WorkQueue Item) (item : Item) : Bool :=
  item ∈ work.queued || work.running.any fun handler => handler.1 = item

theorem WorkQueue.busy_of_waiting {work : WorkQueue Item} {item : Item}
    (waits : item ∈ work.waiting) : work.busy item = true := by
  obtain ⟨queued, running⟩ := work
  unfold WorkQueue.busy
  rw [Bool.or_eq_true, decide_eq_true_eq]
  cases running with
  | none => exact Or.inl waits
  | some handler =>
      obtain ⟨current, done⟩ := handler
      cases done with
      | true => exact Or.inl waits
      | false =>
          rcases List.mem_cons.1 waits with same | later
          · exact Or.inr (decide_eq_true same.symm)
          · exact Or.inl later

theorem WorkQueue.submit_waiting {work : WorkQueue Item} {item : Item}
    (idle : item ∉ work.waiting) : (work.submit item).waiting = work.waiting ++ [item] := by
  obtain ⟨queued, running⟩ := work
  have unqueued : item ∉ queued := by
    intro inQueue
    apply idle
    cases running with
    | none => exact inQueue
    | some handler =>
        obtain ⟨current, done⟩ := handler
        cases done with
        | true => exact inQueue
        | false => exact List.mem_cons_of_mem current inQueue
  rw [WorkQueue.submit, if_neg unqueued]
  cases running with
  | none => rfl
  | some handler =>
      obtain ⟨current, done⟩ := handler
      cases done with
      | true => rfl
      | false => rfl

theorem WorkQueue.submit_cases (work : WorkQueue Item) (item : Item) :
    work.submit item = work ∨
      (item ∉ work.queued ∧ work.submit item = { work with queued := work.queued ++ [item] }) := by
  unfold WorkQueue.submit
  split
  · exact Or.inl rfl
  · rename_i unqueued
    exact Or.inr ⟨unqueued, rfl⟩

theorem WorkQueue.submit_untilAct (work : WorkQueue Item) (item : Item) :
    (work.submit item).untilAct = work.untilAct := by
  rcases work.submit_cases item with same | ⟨-, added⟩
  · rw [same]
  · rw [added]
    rfl

theorem WorkQueue.submit_nodup {work : WorkQueue Item} (once : work.queued.Nodup) (item : Item) :
    (work.submit item).queued.Nodup := by
  rcases work.submit_cases item with same | ⟨unqueued, added⟩
  · rw [same]
    exact once
  · rw [added]
    refine List.nodup_append.2 ⟨once, List.nodup_cons.2 ⟨List.not_mem_nil, List.nodup_nil⟩, ?_⟩
    intro earlier queued last isLast same
    cases List.mem_singleton.1 isLast
    exact unqueued (same ▸ queued)

theorem WorkQueue.start_busy {work next : WorkQueue Item} (started : work.start = some next)
    {item : Item} (idle : work.busy item = false) : next.busy item = false := by
  obtain ⟨queued, running⟩ := work
  cases running with
  | some _ => cases started
  | none =>
      cases queued with
      | nil => cases started
      | cons head rest =>
          cases started
          simp only [WorkQueue.busy, Option.any_none, Option.any_some, Bool.or_false,
            decide_eq_false_iff_not, List.mem_cons, not_or, Bool.or_eq_false_iff] at idle ⊢
          exact ⟨idle.2, Ne.symm idle.1⟩

theorem WorkQueue.act_busy {work next : WorkQueue Item} {acting item : Item}
    (acted : work.act = some (acting, next)) : next.busy item = work.busy item := by
  obtain ⟨queued, running⟩ := work
  cases running with
  | none => cases acted
  | some handler =>
      obtain ⟨current, done⟩ := handler
      cases done with
      | true => cases acted
      | false =>
          cases acted
          rfl

theorem WorkQueue.finish_busy {work next : WorkQueue Item} (finished : work.finish = some next)
    {item : Item} (idle : work.busy item = false) : next.busy item = false := by
  obtain ⟨queued, running⟩ := work
  cases running with
  | none => cases finished
  | some handler =>
      obtain ⟨current, done⟩ := handler
      cases done with
      | false => cases finished
      | true =>
          cases finished
          unfold WorkQueue.busy at idle ⊢
          rw [Bool.or_eq_false_iff] at idle
          rw [idle.1]
          rfl

end Decidable

end Foundation.SingleWorker
