import ZephyrHomeHub.Foundation.LabelledMachine

/-! A component of a larger machine, seen through a map of the states. A step of the
whole is one step of the component or none, so the component runs as it would alone:
its invariants hold in the whole, and so does what its runs avoid. -/

namespace Foundation.ComponentView

open Foundation.LabelledMachine

universe u v

variable {Whole Part : Type u} {WholeAction PartAction : Type v}
variable {whole : Machine Whole WholeAction} {part : Machine Part PartAction}

/-- The component's state in a state of the whole, and the step that an action of
the whole is to it, if any. -/
structure View (whole : Machine Whole WholeAction) (part : Machine Part PartAction) where
  state : Whole → Part
  action : Whole → WholeAction → Option PartAction
  initial : state whole.initial = part.initial
  step : ∀ before wholeAction after, whole.step before wholeAction = some after →
    part.run (state before) (action before wholeAction).toList = some (state after)

def View.trace (view : View whole part) : Whole → List WholeAction → List PartAction
  | _, [] => []
  | state, action :: rest =>
      (view.action state action).toList ++
        match whole.step state action with
        | none => []
        | some next => View.trace view next rest

theorem View.run (view : View whole part) {before after : Whole} {actions : List WholeAction}
    (ran : whole.run before actions = some after) :
    part.run (view.state before) (view.trace before actions) = some (view.state after) := by
  induction actions generalizing before with
  | nil =>
      cases ran
      rfl
  | cons action rest ih =>
      rcases (whole.run_cons_eq_some _ _ _ _).1 ran with ⟨next, stepped, continued⟩
      have traced : view.trace before (action :: rest) =
          (view.action before action).toList ++ view.trace next rest := by
        rw [View.trace, stepped]
      rw [traced, part.run_append_eq_some]
      exact ⟨_, view.step before action next stepped, ih continued⟩

theorem View.mem_trace (view : View whole part) {before : Whole} {actions : List WholeAction}
    {inner : PartAction} (member : inner ∈ view.trace before actions) :
    ∃ state, ∃ action ∈ actions, view.action state action = some inner := by
  induction actions generalizing before with
  | nil => cases member
  | cons action rest ih =>
      rcases List.mem_append.1 member with here | later
      · exact ⟨before, action, List.mem_cons_self, Option.mem_toList.1 here⟩
      · cases stepped : whole.step before action with
        | none =>
            rw [stepped] at later
            cases later
        | some next =>
            rw [stepped] at later
            rcases ih later with ⟨state, other, among, taken⟩
            exact ⟨state, other, List.mem_cons_of_mem action among, taken⟩

theorem View.reachable (view : View whole part) {state : Whole}
    (reachable : whole.Reachable state) :
    part.Reachable (view.state state) := by
  rcases reachable with ⟨actions, ran⟩
  refine ⟨view.trace whole.initial actions, ?_⟩
  rw [← view.initial]
  exact view.run ran

theorem View.step_cases (view : View whole part) {before after : Whole} {action : WholeAction}
    (stepped : whole.step before action = some after) :
    (view.action before action = none ∧ view.state after = view.state before) ∨
      ∃ inner, view.action before action = some inner ∧
        part.step (view.state before) inner = some (view.state after) := by
  have moved := view.step before action after stepped
  cases taken : view.action before action with
  | none =>
      rw [taken] at moved
      exact .inl ⟨rfl, (Option.some.inj moved).symm⟩
  | some inner =>
      rw [taken] at moved
      rcases (part.run_cons_eq_some _ _ _ _).1 moved with ⟨next, stepped, finished⟩
      cases finished
      exact .inr ⟨inner, rfl, stepped⟩

end Foundation.ComponentView
