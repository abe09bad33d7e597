import ZephyrHomeHub.Foundation.LabelledMachine

/-! Steps that lower a rank. Where some of a machine's actions lower a rank and the
others do not raise it, a run has no more of the first than the rank, and where such
an action is possible at every positive rank, they alone bring the rank to zero. -/

namespace Foundation.RankedProgress

open Foundation.LabelledMachine

universe u v

variable {State : Type u} {Action : Type v} {machine : Machine State Action}

/-- On states with the invariant, `lowering` actions lower the rank and `quiet`
actions keep it. -/
structure Ranked (machine : Machine State Action) (invariant : State → Prop)
    (lowering : Action → Bool) (quiet : Action → Prop) (rank : State → Nat) : Prop where
  lowers : ∀ state action next, invariant state → lowering action = true →
    machine.step state action = some next → rank next < rank state
  keeps : ∀ state action next, invariant state → quiet action → lowering action = false →
    machine.step state action = some next → rank next = rank state
  preserves : ∀ state action next, invariant state → quiet action →
    machine.step state action = some next → invariant next
  quiet_of_lowering : ∀ action, lowering action = true → quiet action

variable {invariant : State → Prop} {lowering : Action → Bool} {quiet : Action → Prop}
variable {rank : State → Nat}

theorem Ranked.run_invariant (ranked : Ranked machine invariant lowering quiet rank)
    {state final : State} {actions : List Action} (holds : invariant state)
    (within : ∀ action ∈ actions, quiet action) (ran : machine.run state actions = some final) :
    invariant final :=
  machine.run_preserves_within quiet invariant
    (fun state action next here holds => ranked.preserves state action next holds here)
    state final actions within holds ran

theorem Ranked.count_le (ranked : Ranked machine invariant lowering quiet rank)
    {state final : State} {actions : List Action} (holds : invariant state)
    (within : ∀ action ∈ actions, quiet action) (ran : machine.run state actions = some final) :
    actions.countP lowering + rank final ≤ rank state := by
  induction actions generalizing state with
  | nil =>
      cases ran
      exact Nat.le_of_eq (Nat.zero_add _)
  | cons action rest ih =>
      rcases List.forall_mem_cons.1 within with ⟨here, later⟩
      rcases (machine.run_cons_eq_some _ _ _ _).1 ran with ⟨next, stepped, continued⟩
      have afterwards := ih (ranked.preserves state action next holds here stepped) later continued
      cases own : lowering action with
      | true =>
          have lower := ranked.lowers state action next holds own stepped
          rw [List.countP_cons_of_pos own]
          omega
      | false =>
          have same := ranked.keeps state action next holds here own stepped
          rw [List.countP_cons_of_neg (Bool.eq_false_iff.1 own)]
          omega

theorem Ranked.reaches_zero (ranked : Ranked machine invariant lowering quiet rank)
    (progress : ∀ state, invariant state → 0 < rank state →
      ∃ action next, lowering action = true ∧ machine.step state action = some next)
    {state : State} (holds : invariant state) :
    ∃ actions final, (∀ action ∈ actions, lowering action = true) ∧
      machine.run state actions = some final ∧ invariant final ∧ rank final = 0 := by
  induction count : rank state using Nat.strongRecOn generalizing state with
  | _ count ih =>
      rcases Nat.eq_zero_or_pos (rank state) with zero | positive
      · exact ⟨[], state, List.forall_mem_nil _, rfl, holds, zero⟩
      · rcases progress state holds positive with ⟨action, next, own, stepped⟩
        have lower := ranked.lowers state action next holds own stepped
        have kept := ranked.preserves state action next holds
          (ranked.quiet_of_lowering action own) stepped
        rcases ih (rank next) (count ▸ lower) kept rfl with ⟨actions, final, all, ran, rest⟩
        refine ⟨action :: actions, final, List.forall_mem_cons.2 ⟨own, all⟩, ?_, rest⟩
        exact (machine.run_cons_eq_some _ _ _ _).2 ⟨next, stepped, ran⟩

end Foundation.RankedProgress
