import ZephyrHomeHub.Hub.Startup
import ZephyrHomeHub.Hub.TabVisibility

/-! What is on the cards of a hub whose threads interleave. The drain loop runs with
the temperature tab in place, so a card shows the last reading drained with the tab
active, or the placeholder. -/

namespace ZephyrHomeHub.Hub

open Foundation.LabelledMachine

variable {hub next : StartedHub}

/-- The table is that of the messages received, but for the one `main` holds, and each
was drained with the tab in place. -/
def StartedHub.Drawn (hub : StartedHub) : Prop :=
  ∃ items : MessageSequence, hub.clocked.nodes = items.table ∧
    (∀ item ∈ items, item.1.tempTab = true) ∧
    items.map Prod.snd ++ hub.clocked.held.toList = hub.clocked.pipeline.received

theorem drawn_powerOn : StartedHub.powerOn.Drawn := ⟨[], rfl, List.forall_mem_nil _, rfl⟩

def StartedAction.Drains : StartedAction → Prop
  | .msgqGet => True
  | .loopBody => True
  | _ => False

structure ClockedHub.SameTable (hub after : ClockedHub) : Prop where
  nodes : after.nodes = hub.nodes
  held : after.held = hub.held
  received : after.pipeline.received = hub.pipeline.received

theorem ClockedHub.sameTable_within {hub after : ClockedHub} {action : PipelineAction Unit}
    (other : action ≠ .get) (stepped : hub.within (hub.pipeline.step action) = some after) :
    hub.SameTable after := by
  rcases ClockedHub.within_cases stepped with ⟨pipeline, same, rfl⟩
  exact ⟨rfl, rfl, Pipeline.step_received other same⟩

theorem StartedHub.sameTable_step {action : StartedAction} (other : ¬action.Drains)
    (stepped : hub.step action = some next) : hub.clocked.SameTable next.clocked := by
  rcases StartedHub.clocked_cases stepped with ⟨-, same⟩ | ⟨inner, taken, moved⟩
  · rw [same]
    exact ⟨rfl, rfl, rfl⟩
  · cases action with
    | uiWorkQueueInit =>
        cases taken
        exact ClockedHub.sameTable_within (ThreadStep.action_ne_get _) moved
    | tick elapsed =>
        cases taken
        rw [← Option.some.inj moved]
        exact ⟨rfl, rfl, rfl⟩
    | post locals request =>
        cases taken
        refine ClockedHub.sameTable_within ?_ moved
        intro get
        cases get
    | thread step =>
        cases taken
        exact ClockedHub.sameTable_within (ThreadStep.action_ne_get _) moved
    | msgqGet => exact absurd trivial other
    | loopBody => exact absurd trivial other
    | _ => cases taken

theorem StartedHub.Drawn.step (drawn : hub.Drawn) (prepared : hub.Prepared)
    {action : StartedAction} (stepped : hub.step action = some next) : next.Drawn := by
  rcases drawn with ⟨items, table, tab, before⟩
  by_cases drains : action.Drains
  · cases action with
    | msgqGet =>
        rcases StartedHub.msgqGet_cases stepped with ⟨clocked, -, got, rfl⟩
        rcases ClockedHub.msgqGet_cases got with ⟨msg, pipeline, free, -, received, -, rfl⟩
        refine ⟨items, table, tab, ?_⟩
        rw [free, Option.toList_none, List.append_nil] at before
        exact (congrArg (· ++ [msg]) before).trans received.symm
    | loopBody =>
        rcases StartedHub.loopBody_cases stepped with
          ⟨msg, clocked, looping, held, -, rfl, rfl⟩
        refine ⟨items ++ [(hub.context, msg)], ?_, ?_, ?_⟩
        · rw [MessageSequence.table, drainAll_append, ← MessageSequence.table, ← table]
        · exact List.forall_mem_append.2
            ⟨tab, List.forall_mem_singleton.2 (prepared.tab looping)⟩
        · rw [held] at before
          rw [List.map_append, ← before]
          exact List.append_nil _
    | _ => exact drains.elim
  · rcases StartedHub.sameTable_step drains stepped with ⟨nodes, held, received⟩
    refine ⟨items, nodes.trans table, tab, ?_⟩
    rw [held, received]
    exact before

theorem reachable_drawn (reachable : startedMachine.Reachable hub) : hub.Drawn :=
  reachable.invariant_within StartedHub.Drawn drawn_powerOn
    (fun _ _ _ before drawn stepped => drawn.step (reachable_prepared before) stepped)

theorem MessageSequence.card_labels (items : MessageSequence)
    (tab : ∀ item ∈ items, item.1.tempTab = true) {slot : Slot} {card : Card}
    (has : (items.table slot).card = some card) :
    (items.table slot).used = true ∧
      (card.labels = placeholderLabels ∨
        ∃ item ∈ items, item.2.id = (items.table slot).id ∧
          card.labels = item.2.reading.labels) := by
  have used : (items.table slot).used = true := by
    have complete := (items.creations_eq tab).1 slot
    rw [has] at complete
    exact complete.symm
  refine ⟨used, ?_⟩
  rcases items.cardsShow tab slot used with ⟨shown, same, labels⟩
  cases Option.some.inj (has.symm.trans same)
  rw [labels]
  unfold lastLabels
  cases last : (items.shown (items.table slot).id).getLast? with
  | none => exact .inl rfl
  | some reading =>
      rcases List.mem_map.1 (List.mem_of_getLast? last) with ⟨item, member, rfl⟩
      rcases List.mem_filter.1 member with ⟨active, own⟩
      exact .inr ⟨item, List.mem_of_mem_filter active, of_decide_eq_true own, rfl⟩

end ZephyrHomeHub.Hub
