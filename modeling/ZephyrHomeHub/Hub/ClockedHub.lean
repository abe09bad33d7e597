import ZephyrHomeHub.Hub.NodeTableRefinement
import ZephyrHomeHub.Hub.PipelineFidelity
import ZephyrHomeHub.Hub.PostedMessage

/-! The hub with its clock: `temp_node_post` stamps a message when it is called,
and `main` holds a message between `k_msgq_get` and the end of the loop body. What
follows from it on whole runs rests on two facts about one step: the messages stay
in the order of their posts, and no message appears that was not posted. -/

namespace ZephyrHomeHub.Hub

open Foundation.CString Foundation.LabelledMachine Foundation.SingleWorker

structure ClockedHub where
  uptime : Int
  pipeline : Pipeline Unit
  held : Option TempDataMsg
  nodes : Nodes

def ClockedHub.boot : ClockedHub :=
  { uptime := 0
    pipeline := Pipeline.boot Unit
    held := none
    nodes := Nodes.zero }

inductive ThreadStep where
  | uiWorkQueueInit
  | check
  | copy
  | submit
  | dequeue
  | put
  | finish

def ThreadStep.action : ThreadStep → PipelineAction Unit
  | .uiWorkQueueInit => .uiWorkQueueInit
  | .check => .check ()
  | .copy => .copy ()
  | .submit => .submit ()
  | .dequeue => .dequeue
  | .put => .put
  | .finish => .finish

inductive ClockedAction where
  | tick (elapsed : Nat)
  | post (locals : PostLocals) (request : PostRequest)
  | thread (step : ThreadStep)
  | msgqGet
  | loopBody (temperatureTabActive tempTab : Bool)

def ClockedHub.within (hub : ClockedHub) (stepped : Option (Pipeline Unit)) : Option ClockedHub :=
  stepped.map fun pipeline => { hub with pipeline := pipeline }

def ClockedHub.msgqGet (hub : ClockedHub) : Option ClockedHub :=
  match hub.held, hub.pipeline.msgq with
  | none, msg :: _ =>
      hub.pipeline.get.map fun pipeline => { hub with pipeline := pipeline, held := some msg }
  | _, _ => none

def ClockedHub.loopBody (hub : ClockedHub) (temperatureTabActive tempTab : Bool) :
    Option ClockedHub :=
  hub.held.map fun msg =>
    { hub with
      held := none
      nodes := (drainBody
        { uptime := hub.uptime
          temperatureTabActive := temperatureTabActive
          tempTab := tempTab } hub.nodes msg).1 }

def ClockedHub.step (hub : ClockedHub) : ClockedAction → Option ClockedHub
  | .tick elapsed => some { hub with uptime := hub.uptime + elapsed }
  | .post locals request =>
      hub.within (hub.pipeline.step (.call () (tempNodePost hub.uptime locals request)))
  | .thread step => hub.within (hub.pipeline.step step.action)
  | .msgqGet => hub.msgqGet
  | .loopBody temperatureTabActive tempTab => hub.loopBody temperatureTabActive tempTab

def clockedMachine : Machine ClockedHub ClockedAction :=
  { initial := ClockedHub.boot
    step := ClockedHub.step }

/-! ### Messages on their way -/

def CallerState.msgs : CallerState → List TempDataMsg
  | .idle => []
  | .checking _ msg => [msg]
  | .copying _ msg => [msg]
  | .submitting _ msg => [msg]

/-- Received, queued, due to be put, in the caller's hands: the newest last. -/
def Pipeline.stream (pipeline : Pipeline Unit) : List TempDataMsg :=
  pipeline.received ++ (pipeline.msgq ++ (pipeline.pending ++ (pipeline.caller ()).msgs))

def PipelineAction.called : PipelineAction Unit → List TempDataMsg
  | .call _ msg => [msg]
  | _ => []

variable {pipeline next : Pipeline Unit}

private theorem stream_keeps {msgs : List TempDataMsg}
    (received : next.received = pipeline.received) (msgq : next.msgq = pipeline.msgq)
    (later : (next.pending ++ (next.caller ()).msgs).Sublist
      (pipeline.pending ++ (pipeline.caller ()).msgs ++ msgs)) :
    next.stream.Sublist (pipeline.stream ++ msgs) := by
  unfold Pipeline.stream
  rw [received, msgq, List.append_assoc, List.append_assoc]
  exact ((List.Sublist.refl _).append ((List.Sublist.refl _).append later))

private theorem stream_put (stepped : pipeline.put = some next) :
    next.stream.Sublist pipeline.stream := by
  rcases Pipeline.put_cases stepped with ⟨slot, work, acted, rfl⟩
  unfold Pipeline.stream
  rw [Pipeline.pending_act acted]
  rcases pipeline.tempDataEnqueue_cases (pipeline.workPool slot) with ⟨-, equal⟩ | ⟨-, equal⟩
  · rw [equal]
    refine List.Sublist.append_left ?_ _
    change ((pipeline.msgq ++ [pipeline.workPool slot]) ++ _).Sublist _
    rw [List.append_assoc]
    exact List.Sublist.refl _
  · rw [equal]
    refine List.Sublist.append_left (List.Sublist.append_left ?_ _) _
    exact List.sublist_cons_self _ _

/-- A step keeps the order of the messages and adds at most the one called with, at
the end. -/
theorem Pipeline.stream_step (inOrder : pipeline.InOrder) (slotFree : pipeline.SlotFree)
    {action : PipelineAction Unit} (stepped : pipeline.step action = some next) :
    next.stream.Sublist (pipeline.stream ++ action.called) := by
  cases action with
  | uiWorkQueueInit =>
      rcases Pipeline.uiWorkQueueInit_cases stepped with ⟨-, rfl⟩
      exact List.sublist_append_left _ _
  | call caller msg =>
      rcases Pipeline.call_cases stepped with ⟨idle, ⟨-, rfl⟩ | ⟨-, rfl⟩⟩
      · refine stream_keeps rfl rfl ?_
        rw [idle]
        change (pipeline.pending ++ [msg]).Sublist (pipeline.pending ++ [] ++ [msg])
        rw [List.append_nil]
      · refine stream_keeps rfl rfl ?_
        change (pipeline.pending ++ []).Sublist _
        rw [List.append_nil, List.append_assoc]
        exact List.sublist_append_left _ _
  | check caller =>
      rcases Pipeline.check_cases stepped with
        ⟨slot, msg, here, ⟨-, more, rfl⟩ | ⟨-, -, rfl⟩ | ⟨-, rfl⟩⟩
      · refine stream_keeps rfl rfl ?_
        rw [here]
        exact List.sublist_append_left _ _
      · refine stream_keeps rfl rfl ?_
        change (pipeline.pending ++ []).Sublist _
        rw [List.append_nil, List.append_assoc]
        exact List.sublist_append_left _ _
      · refine stream_keeps rfl rfl ?_
        rw [here]
        exact List.sublist_append_left _ _
  | copy caller =>
      have pending := inOrder.pending_copy (slotFree.undisturbed (.copy caller)) stepped
      rcases Pipeline.copy_cases stepped with ⟨slot, msg, here, rfl⟩
      refine stream_keeps rfl rfl ?_
      rw [pending, here]
      exact List.sublist_append_left _ _
  | submit caller =>
      rcases Pipeline.submit_cases stepped with ⟨slot, msg, here, rfl⟩
      refine stream_keeps rfl rfl ?_
      change ((pipeline.work.submit slot).waiting.map pipeline.workPool ++ []).Sublist _
      rw [inOrder.pending_submit here, here, List.append_nil]
      exact List.sublist_append_left _ _
  | dequeue =>
      rcases Pipeline.dequeue_cases stepped with ⟨work, started, rfl⟩
      refine stream_keeps rfl rfl ?_
      unfold Pipeline.pending
      rw [WorkQueue.start_waiting started]
      exact List.sublist_append_left _ _
  | put => exact (stream_put stepped).trans (List.sublist_append_left _ _)
  | finish =>
      rcases Pipeline.finish_cases stepped with ⟨work, finished, rfl⟩
      refine stream_keeps rfl rfl ?_
      unfold Pipeline.pending
      rw [WorkQueue.finish_waiting finished]
      exact List.sublist_append_left _ _
  | get =>
      rcases Pipeline.get_cases stepped with ⟨msg, rest, queued, rfl⟩
      unfold Pipeline.stream
      rw [queued]
      refine List.Sublist.trans ?_ (List.sublist_append_left _ _)
      change ((pipeline.received ++ [msg]) ++ (rest ++ _)).Sublist _
      rw [List.append_assoc]
      exact List.Sublist.refl _

/-- Every message in a pool slot, in the queue, received or with the caller. -/
structure Pipeline.Carries (good : TempDataMsg → Prop) (pipeline : Pipeline Unit) : Prop where
  pool : ∀ slot, good (pipeline.workPool slot)
  queued : ∀ msg ∈ pipeline.msgq, good msg
  received : ∀ msg ∈ pipeline.received, good msg
  calling : ∀ msg ∈ (pipeline.caller ()).msgs, good msg

theorem Pipeline.Carries.step {good : TempDataMsg → Prop} (carries : pipeline.Carries good)
    {action : PipelineAction Unit} (called : ∀ msg ∈ action.called, good msg)
    (stepped : pipeline.step action = some next) : next.Carries good := by
  rcases carries with ⟨pool, queued, received, calling⟩
  cases action with
  | uiWorkQueueInit =>
      rcases Pipeline.uiWorkQueueInit_cases stepped with ⟨-, rfl⟩
      exact ⟨pool, queued, received, calling⟩
  | call caller msg =>
      rcases Pipeline.call_cases stepped with ⟨-, ⟨-, rfl⟩ | ⟨-, rfl⟩⟩
      · exact ⟨pool, queued, received, called⟩
      · exact ⟨pool, queued, received, List.forall_mem_nil _⟩
  | check caller =>
      rcases Pipeline.check_cases stepped with
        ⟨slot, msg, here, ⟨-, more, rfl⟩ | ⟨-, -, rfl⟩ | ⟨-, rfl⟩⟩
      · rw [here] at calling
        exact ⟨pool, queued, received, calling⟩
      · exact ⟨pool, queued, received, List.forall_mem_nil _⟩
      · rw [here] at calling
        exact ⟨pool, queued, received, calling⟩
  | copy caller =>
      rcases Pipeline.copy_cases stepped with ⟨slot, msg, here, rfl⟩
      rw [here] at calling
      refine ⟨?_, queued, received, calling⟩
      intro other
      change good (Function.update pipeline.workPool slot msg other)
      by_cases same : other = slot
      · rw [same, Function.update_self]
        exact calling msg List.mem_cons_self
      · rw [Function.update_of_ne same]
        exact pool other
  | submit caller =>
      rcases Pipeline.submit_cases stepped with ⟨slot, msg, -, rfl⟩
      exact ⟨pool, queued, received, List.forall_mem_nil _⟩
  | dequeue =>
      rcases Pipeline.dequeue_cases stepped with ⟨work, -, rfl⟩
      exact ⟨pool, queued, received, calling⟩
  | put =>
      rcases Pipeline.put_cases stepped with ⟨slot, work, -, rfl⟩
      rcases pipeline.tempDataEnqueue_cases (pipeline.workPool slot) with ⟨-, equal⟩ | ⟨-, equal⟩
      · rw [equal]
        refine ⟨pool, ?_, received, calling⟩
        exact List.forall_mem_append.2 ⟨queued, List.forall_mem_singleton.2 (pool slot)⟩
      · rw [equal]
        exact ⟨pool, queued, received, calling⟩
  | finish =>
      rcases Pipeline.finish_cases stepped with ⟨work, -, rfl⟩
      exact ⟨pool, queued, received, calling⟩
  | get =>
      rcases Pipeline.get_cases stepped with ⟨msg, rest, first, rfl⟩
      rw [first] at queued
      rcases List.forall_mem_cons.1 queued with ⟨here, later⟩
      refine ⟨pool, later, ?_, calling⟩
      exact List.forall_mem_append.2 ⟨received, List.forall_mem_singleton.2 here⟩

theorem Pipeline.Carries.mono {good better : TempDataMsg → Prop}
    (weaken : ∀ msg, better msg → good msg) (carries : pipeline.Carries better) :
    pipeline.Carries good :=
  { pool := fun slot => weaken _ (carries.pool slot)
    queued := fun msg member => weaken msg (carries.queued msg member)
    received := fun msg member => weaken msg (carries.received msg member)
    calling := fun msg member => weaken msg (carries.calling msg member) }

theorem Pipeline.Carries.stream {good : TempDataMsg → Prop} (carries : pipeline.Carries good) :
    ∀ msg ∈ pipeline.stream, good msg := by
  intro msg member
  unfold Pipeline.stream at member
  rcases List.mem_append.1 member with received | member
  · exact carries.received msg received
  rcases List.mem_append.1 member with queued | member
  · exact carries.queued msg queued
  rcases List.mem_append.1 member with pending | calling
  · rcases List.mem_map.1 pending with ⟨slot, -, rfl⟩
    exact carries.pool slot
  · exact carries.calling msg calling

/-! ### One step of the hub -/

theorem ClockedHub.within_cases {hub after : ClockedHub} {stepped : Option (Pipeline Unit)}
    (taken : hub.within stepped = some after) :
    ∃ pipeline, stepped = some pipeline ∧ after = { hub with pipeline := pipeline } := by
  rcases Option.map_eq_some_iff.1 taken with ⟨pipeline, same, equal⟩
  exact ⟨pipeline, same, equal.symm⟩

theorem ClockedHub.msgqGet_cases {hub after : ClockedHub} (stepped : hub.msgqGet = some after) :
    ∃ msg pipeline, hub.held = none ∧ hub.pipeline.step .get = some pipeline ∧
      pipeline.received = hub.pipeline.received ++ [msg] ∧
      hub.pipeline.msgq.head? = some msg ∧
      after = { hub with pipeline := pipeline, held := some msg } := by
  unfold ClockedHub.msgqGet at stepped
  split at stepped
  · rename_i msg rest free queued
    rcases Option.map_eq_some_iff.1 stepped with ⟨pipeline, got, rfl⟩
    rcases Pipeline.get_cases got with ⟨first, others, same, rfl⟩
    rw [queued] at same
    cases same
    exact ⟨msg, _, free, got, rfl, congrArg List.head? queued, rfl⟩
  · cases stepped

theorem ClockedHub.loopBody_cases {hub after : ClockedHub} {temperatureTabActive tempTab : Bool}
    (stepped : hub.loopBody temperatureTabActive tempTab = some after) :
    ∃ msg context, hub.held = some msg ∧ context.uptime = hub.uptime ∧
      after = { hub with held := none, nodes := (drainBody context hub.nodes msg).1 } := by
  rcases Option.map_eq_some_iff.1 stepped with ⟨msg, held, equal⟩
  exact ⟨msg, _, held, rfl, equal.symm⟩

theorem ThreadStep.action_called (step : ThreadStep) : step.action.called = [] := by
  cases step <;> rfl

/-- The pipeline rests or takes one step of its own, at one moment, and the only
messages it is called with are those of `temp_node_post`. -/
theorem ClockedHub.pipeline_cases {hub after : ClockedHub} {action : ClockedAction}
    (stepped : hub.step action = some after) :
    after.pipeline = hub.pipeline ∨
      ∃ inner, hub.pipeline.step inner = some after.pipeline ∧ after.uptime = hub.uptime ∧
        ∀ msg ∈ inner.called, ∃ locals request, msg = tempNodePost hub.uptime locals request := by
  cases action with
  | tick elapsed =>
      cases stepped
      exact .inl rfl
  | post locals request =>
      rcases ClockedHub.within_cases stepped with ⟨pipeline, same, rfl⟩
      exact .inr ⟨_, same, rfl, List.forall_mem_singleton.2 ⟨locals, request, rfl⟩⟩
  | thread step =>
      rcases ClockedHub.within_cases stepped with ⟨pipeline, same, rfl⟩
      refine .inr ⟨_, same, rfl, ?_⟩
      rw [step.action_called]
      exact List.forall_mem_nil _
  | msgqGet =>
      rcases ClockedHub.msgqGet_cases stepped with ⟨msg, pipeline, -, got, -, -, rfl⟩
      exact .inr ⟨_, got, rfl, List.forall_mem_nil _⟩
  | loopBody temperatureTabActive tempTab =>
      rcases ClockedHub.loopBody_cases stepped with ⟨msg, context, -, -, rfl⟩
      exact .inl rfl

/-- The single caller disturbs no slot, and the table is that of the messages
received, but for the one `main` holds. -/
structure ClockedHub.Sound (hub : ClockedHub) : Prop where
  inOrder : hub.pipeline.InOrder
  slotFree : hub.pipeline.SlotFree
  table : ∃ items : MessageSequence, hub.nodes = items.table ∧
    items.map Prod.snd ++ hub.held.toList = hub.pipeline.received

theorem clocked_sound_boot : ClockedHub.boot.Sound :=
  { inOrder := inOrder_boot
    slotFree := by
      intro slot msg here
      cases here
    table := ⟨[], rfl, rfl⟩ }

theorem Pipeline.step_received {action : PipelineAction Unit} (other : action ≠ .get)
    (stepped : pipeline.step action = some next) : next.received = pipeline.received := by
  cases action with
  | uiWorkQueueInit =>
      rcases Pipeline.uiWorkQueueInit_cases stepped with ⟨-, rfl⟩
      rfl
  | call caller msg =>
      rcases Pipeline.call_cases stepped with ⟨-, ⟨-, rfl⟩ | ⟨-, rfl⟩⟩
      · rfl
      · rfl
  | check caller =>
      rcases Pipeline.check_cases stepped with
        ⟨slot, msg, here, ⟨-, more, rfl⟩ | ⟨-, -, rfl⟩ | ⟨-, rfl⟩⟩
      · rfl
      · rfl
      · rfl
  | copy caller =>
      rcases Pipeline.copy_cases stepped with ⟨slot, msg, here, rfl⟩
      rfl
  | submit caller =>
      rcases Pipeline.submit_cases stepped with ⟨slot, msg, -, rfl⟩
      rfl
  | dequeue =>
      rcases Pipeline.dequeue_cases stepped with ⟨work, -, rfl⟩
      rfl
  | put =>
      rcases Pipeline.put_cases stepped with ⟨slot, work, -, rfl⟩
      rcases pipeline.tempDataEnqueue_cases (pipeline.workPool slot) with ⟨-, equal⟩ | ⟨-, equal⟩
      · rw [equal]
      · rw [equal]
  | finish =>
      rcases Pipeline.finish_cases stepped with ⟨work, -, rfl⟩
      rfl
  | get => exact absurd rfl other

private theorem clocked_sound_within {hub : ClockedHub} (sound : hub.Sound)
    {action : PipelineAction Unit} (other : action ≠ .get)
    (stepped : hub.pipeline.step action = some next) :
    ClockedHub.Sound { hub with pipeline := next } := by
  rcases sound with ⟨inOrder, slotFree, items, table, received⟩
  exact
    { inOrder := inOrder.step (slotFree.undisturbed action) stepped
      slotFree := slotFree.step stepped
      table := ⟨items, table, received.trans (Pipeline.step_received other stepped).symm⟩ }

theorem ThreadStep.action_ne_get (step : ThreadStep) : step.action ≠ .get := by
  intro same
  cases step <;> cases same

theorem ClockedHub.Sound.step {hub after : ClockedHub} (sound : hub.Sound)
    {action : ClockedAction} (stepped : hub.step action = some after) : after.Sound := by
  cases action with
  | tick elapsed =>
      cases stepped
      exact ⟨sound.inOrder, sound.slotFree, sound.table⟩
  | post locals request =>
      rcases ClockedHub.within_cases stepped with ⟨pipeline, same, rfl⟩
      refine clocked_sound_within sound ?_ same
      intro get
      cases get
  | thread step =>
      rcases ClockedHub.within_cases stepped with ⟨pipeline, same, rfl⟩
      exact clocked_sound_within sound step.action_ne_get same
  | msgqGet =>
      rcases ClockedHub.msgqGet_cases stepped with ⟨msg, pipeline, free, got, received, -, rfl⟩
      rcases sound with ⟨inOrder, slotFree, items, table, before⟩
      rw [free] at before
      refine
        { inOrder := inOrder.step (slotFree.undisturbed .get) got
          slotFree := slotFree.step got
          table := ⟨items, table, ?_⟩ }
      rw [received, ← before, Option.toList_none, List.append_nil]
      rfl
  | loopBody temperatureTabActive tempTab =>
      rcases ClockedHub.loopBody_cases stepped with ⟨msg, context, held, -, rfl⟩
      rcases sound with ⟨inOrder, slotFree, items, table, before⟩
      refine ⟨inOrder, slotFree, items ++ [(context, msg)], ?_, ?_⟩
      · rw [table, MessageSequence.table, MessageSequence.table, drainAll_append]
      · rw [held] at before
        rw [← before, List.map_append]
        exact List.append_nil _

theorem ClockedHub.Sound.held_received {hub : ClockedHub} (sound : hub.Sound) :
    ∀ msg ∈ hub.held.toList, msg ∈ hub.pipeline.received := by
  rcases sound.table with ⟨items, -, received⟩
  intro msg held
  rw [← received]
  exact List.mem_append_right _ held

def ClockedHub.messages (hub : ClockedHub) : List TempDataMsg :=
  (List.finRange uiWorkPoolSize).map hub.pipeline.workPool ++ hub.pipeline.msgq ++
    hub.held.toList ++ (hub.pipeline.caller ()).msgs

theorem ClockedHub.Sound.messages {hub : ClockedHub} (sound : hub.Sound)
    {good : TempDataMsg → Prop} (carries : hub.pipeline.Carries good) :
    ∀ msg ∈ hub.messages, good msg := by
  intro msg member
  unfold ClockedHub.messages at member
  rcases List.mem_append.1 member with member | calling
  · rcases List.mem_append.1 member with member | held
    · rcases List.mem_append.1 member with pool | queued
      · rcases List.mem_map.1 pool with ⟨slot, -, rfl⟩
        exact carries.pool slot
      · exact carries.queued msg queued
    · exact carries.received msg (sound.held_received msg held)
  · exact carries.calling msg calling

def deliveryRun (locals : PostLocals) (request : PostRequest) : List ClockedAction :=
  [.post locals request, .thread .check, .thread .copy, .thread .submit, .thread .dequeue,
    .thread .put, .thread .finish]

theorem clocked_reachable_sound {hub : ClockedHub} (reachable : clockedMachine.Reachable hub) :
    hub.Sound :=
  reachable.invariant ClockedHub.Sound clocked_sound_boot
    (fun _ _ _ before stepped => before.step stepped)

end ZephyrHomeHub.Hub
