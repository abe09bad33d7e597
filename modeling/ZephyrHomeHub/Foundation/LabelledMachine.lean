import Mathlib.Tactic.Common

/-! Deterministic labelled machines. In a given state an action is either
disabled or leads to exactly one state, so a run is its list of actions. The
interleavings of several threads are the lists of actions that one machine with
one action for each atomic step can take. -/

namespace Foundation.LabelledMachine

universe u v

structure Machine (State : Type u) (Action : Type v) where
  initial : State
  step : State → Action → Option State

variable {State : Type u} {Action : Type v} (machine : Machine State Action)

def Machine.run : State → List Action → Option State
  | state, [] => some state
  | state, action :: rest =>
      (machine.step state action).bind fun next => Machine.run next rest

def Machine.Reachable (state : State) : Prop :=
  ∃ actions, machine.run machine.initial actions = some state

/-- Every state the run visits is good, its first and its last included. -/
def Machine.Always (good : State → Prop) : State → List Action → Prop
  | state, [] => good state
  | state, action :: rest =>
      good state ∧ ∀ next, machine.step state action = some next → Machine.Always good next rest

/-- Every action the run takes meets the guard in the state it is taken from. -/
def Machine.Guarded (guard : State → Action → Prop) : State → List Action → Prop
  | _, [] => True
  | state, action :: rest =>
      ∀ next, machine.step state action = some next →
        guard state action ∧ Machine.Guarded guard next rest

def Machine.decideGuarded {guard : State → Action → Prop}
    (decide : ∀ state action, Decidable (guard state action)) :
    ∀ state actions, Decidable (machine.Guarded guard state actions)
  | _, [] => isTrue trivial
  | state, action :: rest =>
      match stepped : machine.step state action with
      | none => isTrue fun _ impossible => nomatch stepped.symm.trans impossible
      | some next =>
          have := decide state action
          have := Machine.decideGuarded decide next rest
          decidable_of_iff (guard state action ∧ machine.Guarded guard next rest)
            ⟨fun both _ same => Option.some.inj (stepped.symm.trans same) ▸ both,
              fun guarded => guarded next stepped⟩

instance {guard : State → Action → Prop} [decide : ∀ state action, Decidable (guard state action)]
    (state : State) (actions : List Action) : Decidable (machine.Guarded guard state actions) :=
  machine.decideGuarded decide state actions

theorem Machine.run_nil (state : State) : machine.run state [] = some state := rfl

theorem Machine.run_cons_eq_some (state final : State) (action : Action) (rest : List Action) :
    machine.run state (action :: rest) = some final ↔
      ∃ next, machine.step state action = some next ∧ machine.run next rest = some final := by
  simp only [Machine.run, Option.bind_eq_some_iff]

theorem Machine.run_append_eq_some (state final : State) (first second : List Action) :
    machine.run state (first ++ second) = some final ↔
      ∃ middle, machine.run state first = some middle ∧
        machine.run middle second = some final := by
  induction first generalizing state with
  | nil =>
      simp only [List.nil_append, Machine.run_nil, Option.some.injEq, exists_eq_left']
  | cons action rest ih =>
      simp only [List.cons_append, Machine.run_cons_eq_some, ih]
      constructor
      · rintro ⟨next, stepped, middle, ran, finished⟩
        exact ⟨middle, ⟨next, stepped, ran⟩, finished⟩
      · rintro ⟨middle, ⟨next, stepped, ran⟩, finished⟩
        exact ⟨next, stepped, middle, ran, finished⟩

theorem Machine.run_preserves_within (allowed : Action → Prop) (invariant : State → Prop)
    (preserved : ∀ state action next, allowed action → invariant state →
      machine.step state action = some next → invariant next)
    (state final : State) (actions : List Action) (within : ∀ action ∈ actions, allowed action)
    (holds : invariant state) (ran : machine.run state actions = some final) :
    invariant final := by
  induction actions generalizing state with
  | nil =>
      cases ran
      exact holds
  | cons action rest ih =>
      obtain ⟨here, later⟩ := List.forall_mem_cons.1 within
      obtain ⟨next, stepped, continued⟩ := (machine.run_cons_eq_some _ _ _ _).1 ran
      exact ih next later (preserved state action next here holds stepped) continued

theorem Machine.run_preserves (invariant : State → Prop)
    (preserved : ∀ state action next, invariant state →
      machine.step state action = some next → invariant next)
    (state final : State) (actions : List Action) (holds : invariant state)
    (ran : machine.run state actions = some final) : invariant final :=
  machine.run_preserves_within (fun _ => True) invariant
    (fun state action next _ => preserved state action next) state final actions
    (fun _ _ => trivial) holds ran

theorem Machine.Reachable.invariant {machine : Machine State Action} (invariant : State → Prop)
    (start : invariant machine.initial)
    (preserved : ∀ state action next, invariant state →
      machine.step state action = some next → invariant next)
    {state : State} (reachable : machine.Reachable state) : invariant state := by
  obtain ⟨actions, ran⟩ := reachable
  exact machine.run_preserves invariant preserved machine.initial state actions start ran

theorem Machine.Reachable.step {machine : Machine State Action} {state next : State}
    {action : Action} (reachable : machine.Reachable state)
    (stepped : machine.step state action = some next) : machine.Reachable next := by
  obtain ⟨actions, ran⟩ := reachable
  refine ⟨actions ++ [action], (machine.run_append_eq_some _ _ _ _).2 ⟨state, ran, ?_⟩⟩
  exact (machine.run_cons_eq_some _ _ _ _).2 ⟨next, stepped, rfl⟩

theorem Machine.Reachable.run {machine : Machine State Action} {state final : State}
    {actions : List Action} (reachable : machine.Reachable state)
    (ran : machine.run state actions = some final) : machine.Reachable final := by
  obtain ⟨before, ranBefore⟩ := reachable
  exact ⟨before ++ actions, (machine.run_append_eq_some _ _ _ _).2 ⟨state, ranBefore, ran⟩⟩

theorem Machine.Reachable.invariant_within {machine : Machine State Action}
    (invariant : State → Prop) (start : invariant machine.initial)
    (preserved : ∀ state action next, machine.Reachable state → invariant state →
      machine.step state action = some next → invariant next)
    {state : State} (reachable : machine.Reachable state) : invariant state := by
  have both := reachable.invariant (fun state => machine.Reachable state ∧ invariant state)
    ⟨⟨[], rfl⟩, start⟩
    (fun state action next before stepped =>
      ⟨before.1.step stepped, preserved state action next before.1 before.2 stepped⟩)
  exact both.2

theorem Machine.always_mono {good better : State → Prop}
    (weaken : ∀ state, better state → good state)
    (state : State) (actions : List Action) (along : machine.Always better state actions) :
    machine.Always good state actions := by
  induction actions generalizing state with
  | nil => exact weaken state along
  | cons action rest ih =>
      exact ⟨weaken state along.1, fun next stepped => ih next (along.2 next stepped)⟩

theorem Machine.always_last {good : State → Prop} {state final : State} {actions : List Action}
    (along : machine.Always good state actions)
    (ran : machine.run state actions = some final) : good final := by
  induction actions generalizing state with
  | nil =>
      cases ran
      exact along
  | cons action rest ih =>
      obtain ⟨next, stepped, continued⟩ := (machine.run_cons_eq_some _ _ _ _).1 ran
      exact ih (along.2 next stepped) continued

theorem Machine.always_of_guarded (invariant : State → Prop) (guard : State → Action → Prop)
    (preserved : ∀ state action next, invariant state → guard state action →
      machine.step state action = some next → invariant next)
    (state : State) (actions : List Action) (holds : invariant state)
    (guarded : machine.Guarded guard state actions) : machine.Always invariant state actions := by
  induction actions generalizing state with
  | nil => exact holds
  | cons action rest ih =>
      refine ⟨holds, fun next stepped => ?_⟩
      obtain ⟨here, later⟩ := guarded next stepped
      exact ih next (preserved state action next holds here stepped) later

theorem Machine.guarded_of_within {allowed : Action → Prop} (state : State)
    (actions : List Action) (within : ∀ action ∈ actions, allowed action) :
    machine.Guarded (fun _ action => allowed action) state actions := by
  induction actions generalizing state with
  | nil => trivial
  | cons action rest ih =>
      obtain ⟨here, later⟩ := List.forall_mem_cons.1 within
      exact fun next _ => ⟨here, ih next later⟩

/-- Where the guard decides, from a good state, whether the next state is good,
the runs that stay good are exactly the guarded ones. -/
theorem Machine.always_iff_guarded (allowed : Action → Prop) (invariant good : State → Prop)
    (guard : State → Action → Prop)
    (preserved : ∀ state action next, allowed action → invariant state →
      machine.step state action = some next → invariant next)
    (decides : ∀ state action next, allowed action → invariant state → good state →
      machine.step state action = some next → (good next ↔ guard state action))
    (state : State) (actions : List Action) (within : ∀ action ∈ actions, allowed action)
    (holds : invariant state) (start : good state) :
    machine.Always good state actions ↔ machine.Guarded guard state actions := by
  induction actions generalizing state with
  | nil => exact ⟨fun _ => trivial, fun _ => start⟩
  | cons action rest ih =>
      obtain ⟨allowedHere, allowedLater⟩ := List.forall_mem_cons.1 within
      have kept : ∀ next, machine.step state action = some next → invariant next :=
        fun next stepped => preserved state action next allowedHere holds stepped
      constructor
      · rintro ⟨_, along⟩ next stepped
        have goodNext : good next := by
          have later := along next stepped
          cases rest with
          | nil => exact later
          | cons _ _ => exact later.1
        exact ⟨(decides state action next allowedHere holds start stepped).1 goodNext,
          (ih next allowedLater (kept next stepped) goodNext).1 (along next stepped)⟩
      · intro guarded
        refine ⟨start, fun next stepped => ?_⟩
        obtain ⟨here, later⟩ := guarded next stepped
        have goodNext := (decides state action next allowedHere holds start stepped).2 here
        exact (ih next allowedLater (kept next stepped) goodNext).2 later

/-- A measure that guarded steps keep and the others raise is unchanged by a run
exactly when the whole run is guarded. -/
theorem Machine.measure_unchanged_iff_guarded (invariant : State → Prop)
    (guard : State → Action → Prop) (measure : State → Nat)
    (preserved : ∀ state action next, invariant state →
      machine.step state action = some next → invariant next)
    (kept : ∀ state action next, invariant state → guard state action →
      machine.step state action = some next → measure next = measure state)
    (raised : ∀ state action next, invariant state → ¬guard state action →
      machine.step state action = some next → measure state < measure next)
    (state final : State) (actions : List Action) (holds : invariant state)
    (ran : machine.run state actions = some final) :
    measure state ≤ measure final ∧
      (measure final = measure state ↔ machine.Guarded guard state actions) := by
  induction actions generalizing state with
  | nil =>
      cases ran
      exact ⟨Nat.le_refl _, fun _ => trivial, fun _ => rfl⟩
  | cons action rest ih =>
      obtain ⟨next, stepped, continued⟩ := (machine.run_cons_eq_some _ _ _ _).1 ran
      obtain ⟨grows, exactTail⟩ :=
        ih next (preserved state action next holds stepped) continued
      have onlyNext : ∀ other, machine.step state action = some other → other = next :=
        fun other otherStep => Option.some.inj (otherStep.symm.trans stepped)
      by_cases here : guard state action
      · have same := kept state action next holds here stepped
        refine ⟨same ▸ grows, ?_, ?_⟩
        · intro unchanged other otherStep
          cases onlyNext other otherStep
          exact ⟨here, exactTail.1 (unchanged.trans same.symm)⟩
        · intro guarded
          exact (exactTail.2 (guarded next stepped).2).trans same
      · have more := raised state action next holds here stepped
        refine ⟨by omega, ?_, ?_⟩
        · intro unchanged
          omega
        · intro guarded
          exact absurd (guarded next stepped).1 here

def Machine.Leads (allowed : Action → Prop) (state : State) (good : State → Prop) : Prop :=
  ∃ actions final, (∀ action ∈ actions, allowed action) ∧
    machine.run state actions = some final ∧ good final

variable {machine} {allowed more : Action → Prop} {state next : State}
variable {good better middle : State → Prop}

theorem Machine.Leads.here (reached : good state) : machine.Leads allowed state good :=
  ⟨[], state, List.forall_mem_nil _, rfl, reached⟩

theorem Machine.Leads.step {action : Action} (may : allowed action)
    (stepped : machine.step state action = some next) (later : machine.Leads allowed next good) :
    machine.Leads allowed state good := by
  rcases later with ⟨actions, final, within, ran, reached⟩
  refine ⟨action :: actions, final, List.forall_mem_cons.2 ⟨may, within⟩, ?_, reached⟩
  exact (machine.run_cons_eq_some _ _ _ _).2 ⟨next, stepped, ran⟩

theorem Machine.Leads.trans (first : machine.Leads allowed state middle)
    (second : ∀ between, machine.Reachable between → middle between →
      machine.Leads allowed between good)
    (reachable : machine.Reachable state) : machine.Leads allowed state good := by
  rcases first with ⟨before, between, within, ran, reached⟩
  rcases second between (reachable.run ran) reached with ⟨later, final, kept, continued, ends⟩
  refine ⟨before ++ later, final, List.forall_mem_append.2 ⟨within, kept⟩, ?_, ends⟩
  exact (machine.run_append_eq_some _ _ _ _).2 ⟨between, ran, continued⟩

theorem Machine.Leads.mono (leads : machine.Leads allowed state good)
    (weaker : ∀ action, allowed action → more action)
    (weaken : ∀ final, good final → better final) :
    machine.Leads more state better := by
  rcases leads with ⟨actions, final, within, ran, reached⟩
  exact ⟨actions, final, fun action member => weaker action (within action member), ran,
    weaken final reached⟩

end Foundation.LabelledMachine
