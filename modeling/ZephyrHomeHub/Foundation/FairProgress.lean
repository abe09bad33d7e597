import Mathlib.Order.WellFounded
import ZephyrHomeHub.Foundation.LabelledMachine

/-! Runs that never end, and weak fairness: a thread that could go on for ever is let
go on some time. Where each step of a fair thread brings a rank down, no other step
brings it up, and the thread can go on until the goal is reached, the goal is reached,
whatever the others do meanwhile. -/

namespace Foundation.FairProgress

open Foundation.LabelledMachine

universe u v w

variable {State : Type u} {Action : Type v} {machine : Machine State Action}

structure EndlessRun (machine : Machine State Action) where
  state : Nat → State
  action : Nat → Action
  step : ∀ time, machine.step (state time) (action time) = some (state (time + 1))

variable (run : EndlessRun machine)

theorem EndlessRun.preserves (invariant : State → Prop)
    (preserved : ∀ state action next, invariant state →
      machine.step state action = some next → invariant next)
    {time later : Nat} (order : time ≤ later) (holds : invariant (run.state time)) :
    invariant (run.state later) := by
  induction later, order using Nat.le_induction with
  | base => exact holds
  | succ later _ ih => exact preserved _ _ _ ih (run.step later)

theorem EndlessRun.reachable (starts : machine.Reachable (run.state 0)) (time : Nat) :
    machine.Reachable (run.state time) :=
  run.preserves machine.Reachable (fun _ _ _ reachable stepped => reachable.step stepped)
    (Nat.zero_le time) starts

/-- From any time on, one of these actions is taken some time, or none of them is
possible some time. -/
def EndlessRun.Fair (own : Action → Prop) : Prop :=
  ∀ time, ∃ later, time ≤ later ∧
    (own (run.action later) ∨
      ∀ action, own action → machine.step (run.state later) action = none)

/-- Until the goal is reached, a thread can go on, and its steps alone change the rank,
downwards. -/
structure Advances (machine : Machine State Action) {Rank : Type w} [Preorder Rank]
    (own : Action → Prop) (invariant goal : State → Prop) (rank : State → Rank) : Prop where
  possible : ∀ state, invariant state → ¬goal state →
    ∃ action next, own action ∧ machine.step state action = some next
  lowers : ∀ state action next, invariant state → ¬goal state → own action →
    machine.step state action = some next → goal next ∨ rank next < rank state
  keeps : ∀ state action next, invariant state → ¬goal state → ¬own action →
    machine.step state action = some next → goal next ∨ rank next ≤ rank state
  preserves : ∀ state action next, invariant state → machine.step state action = some next →
    invariant next

variable {Rank : Type w} [Preorder Rank] {own : Action → Prop} {invariant goal : State → Prop}
variable {rank : State → Rank} {run}

theorem Advances.step (advances : Advances machine own invariant goal rank)
    {state next : State} {action : Action} (holds : invariant state) (waiting : ¬goal state)
    (stepped : machine.step state action = some next) : goal next ∨ rank next ≤ rank state := by
  by_cases mine : own action
  · exact (advances.lowers state action next holds waiting mine stepped).imp_right le_of_lt
  · exact advances.keeps state action next holds waiting mine stepped

/-- The goal is reached by a time, or the rank has not risen by then. -/
theorem Advances.reaches_or_waits (advances : Advances machine own invariant goal rank)
    {time later : Nat} (order : time ≤ later) (holds : invariant (run.state time)) :
    (∃ between, time ≤ between ∧ goal (run.state between)) ∨
      (¬goal (run.state later) ∧ rank (run.state later) ≤ rank (run.state time)) := by
  induction later, order using Nat.le_induction with
  | base =>
      by_cases reached : goal (run.state time)
      · exact .inl ⟨time, Nat.le_refl time, reached⟩
      · exact .inr ⟨reached, le_rfl⟩
  | succ later order ih =>
      rcases ih with reached | ⟨waiting, bound⟩
      · exact .inl reached
      · have here := run.preserves invariant advances.preserves order holds
        by_cases reached : goal (run.state (later + 1))
        · exact .inl ⟨later + 1, Nat.le_succ_of_le order, reached⟩
        · have lower := (advances.step here waiting (run.step later)).resolve_left reached
          exact .inr ⟨reached, lower.trans bound⟩

theorem Advances.eventually [WellFoundedLT Rank]
    (advances : Advances machine own invariant goal rank) (fair : run.Fair own) {time : Nat}
    (holds : invariant (run.state time)) : ∃ later, time ≤ later ∧ goal (run.state later) := by
  induction placed : rank (run.state time) using WellFoundedLT.induction generalizing time with
  | ind position ih =>
      rcases fair time with ⟨later, order, turn⟩
      rcases advances.reaches_or_waits order holds with reached | ⟨waiting, bound⟩
      · exact reached
      · have here := run.preserves invariant advances.preserves order holds
        rcases turn with taken | impossible
        · rcases advances.lowers _ _ _ here waiting taken (run.step later) with reached | lower
          · exact ⟨later + 1, Nat.le_succ_of_le order, reached⟩
          · have next := advances.preserves _ _ _ here (run.step later)
            have below : rank (run.state (later + 1)) < position :=
              placed ▸ lower.trans_le bound
            rcases ih _ below next rfl with ⟨final, after, reached⟩
            exact ⟨final, (Nat.le_succ_of_le order).trans after, reached⟩
        · rcases advances.possible _ here waiting with ⟨action, next, mine, stepped⟩
          rw [impossible action mine] at stepped
          cases stepped

/-- A state and the actions that lead from it to the next one at rest. -/
structure Round (machine : Machine State Action) (rest : State → Prop) where
  state : State
  actions : List Action
  ends : ∃ final, machine.run state actions = some final ∧ rest final

variable {rest : State → Prop} {begins : Action → Prop}

theorem Round.exists_next
    (rounds : ∀ state, rest state → ∃ action actions final, begins action ∧
      machine.run state (action :: actions) = some final ∧ rest final)
    (current : Round machine rest) :
    ∃ (action : Action) (next : Round machine rest),
      machine.step current.state action = some next.state ∧
        (current.actions = [] → rest current.state ∧ begins action) ∧
        ∀ first later, current.actions = first :: later →
          action = first ∧ next.actions = later := by
  rcases current with ⟨state, _ | ⟨first, later⟩, final, ran, rests⟩
  · cases ran
    rcases rounds _ rests with ⟨action, actions, final, started, ran, restsThen⟩
    rcases (machine.run_cons_eq_some _ _ _ _).1 ran with ⟨next, stepped, continued⟩
    exact ⟨action, ⟨next, actions, final, continued, restsThen⟩, stepped,
      fun _ => ⟨rests, started⟩, fun _ _ impossible => nomatch impossible⟩
  · rcases (machine.run_cons_eq_some _ _ _ _).1 ran with ⟨next, stepped, continued⟩
    refine ⟨first, ⟨next, later, final, continued, rests⟩, stepped, ?_, ?_⟩
    · intro impossible
      cases impossible
    · rintro _ _ ⟨⟩
      exact ⟨rfl, rfl⟩

section Iterate

variable {action : Round machine rest → Action} {next : Round machine rest → Round machine rest}

def EndlessRun.ofRounds (first : Round machine rest)
    (stepped : ∀ current, machine.step current.state (action current) = some (next current).state) :
    EndlessRun machine :=
  { state := fun time => (next^[time] first).state
    action := fun time => action (next^[time] first)
    step := by
      intro time
      rw [Function.iterate_succ_apply']
      exact stepped _ }

variable
  (continues : ∀ (current : Round machine rest) first later, current.actions = first :: later →
    action current = first ∧ (next current).actions = later)

include continues

theorem Round.run_iterate
    (stepped : ∀ current, machine.step current.state (action current) = some (next current).state)
    (before after : List Action) (current : Round machine rest)
    (split : current.actions = before ++ after) :
    machine.run current.state before = some (next^[before.length] current).state := by
  induction before generalizing current with
  | nil => rfl
  | cons head tail ih =>
      rcases continues current head (tail ++ after) split with ⟨taken, left⟩
      refine (machine.run_cons_eq_some _ _ _ _).2 ⟨(next current).state, ?_, ih _ left⟩
      rw [← taken]
      exact stepped current

theorem Round.iterate_length (left : List Action) (current : Round machine rest)
    (here : current.actions = left) : (next^[left.length] current).actions = [] := by
  induction left generalizing current with
  | nil => exact here
  | cons head tail ih => exact ih (next current) (continues current head tail here).2

end Iterate

/-- Where a round can begin at each state at rest, a run to such a state goes on for
ever, with a round begun at rest again and again. -/
theorem EndlessRun.exists_of_rounds
    (rounds : ∀ state, rest state → ∃ action actions final, begins action ∧
      machine.run state (action :: actions) = some final ∧ rest final)
    {start final : State} {actions : List Action} (ran : machine.run start actions = some final)
    (rests : rest final) :
    ∃ run : EndlessRun machine,
      (∀ before after, actions = before ++ after →
        machine.run start before = some (run.state before.length)) ∧
      ∀ time, ∃ later, time ≤ later ∧ rest (run.state later) ∧ begins (run.action later) := by
  choose action next stepped resting continues using Round.exists_next rounds
  refine ⟨.ofRounds ⟨start, actions, final, ran, rests⟩ stepped, ?_, ?_⟩
  · intro before after split
    exact Round.run_iterate continues stepped before after ⟨start, actions, final, ran, rests⟩
      split
  · -- what is left of the round at this time brings the run to rest
    intro time
    have ended := Round.iterate_length continues _
      (next^[time] ⟨start, actions, final, ran, rests⟩) rfl
    rw [← Function.iterate_add_apply] at ended
    exact ⟨_, Nat.le_add_left time _, resting _ ended⟩

end Foundation.FairProgress
