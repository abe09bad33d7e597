import Mathlib.Data.List.Perm.Subperm
import ZephyrHomeHub.Hub.CoapServer
import ZephyrHomeHub.Hub.NodeTableRefinement
import ZephyrHomeHub.Hub.PipelineFidelity

/-! The whole hub: `temp_node_post` in the CoAP thread, the pipeline, and the drain
loop of `main`. The response code does not depend on what becomes of the reading,
so a request that loses its reading is acknowledged like any other. A reading can
be lost in four places, and a run keeps every acknowledged reading exactly when
it passes all four without loss. -/

namespace ZephyrHomeHub.Hub

open Foundation.CString Foundation.LabelledMachine Foundation.RingBuffer
open Foundation.SingleWorker

inductive CoapResponseCode where
  | created
deriving DecidableEq

def tempNodePostResponse (_submitted : Int) : CoapResponseCode := .created

/-- The pipeline with its one calling thread, the table, and the messages after whose
drain their reading ended the history of their node. -/
structure HubState where
  pipeline : Pipeline Unit
  nodes : Nodes
  recorded : List TempDataMsg

def HubState.boot : HubState :=
  { pipeline := Pipeline.boot Unit
    nodes := Nodes.zero
    recorded := [] }

inductive HubAction where
  | uiWorkQueueInit
  | post (uptime : Int) (locals : PostLocals) (request : PostRequest)
  | check
  | copy
  | submit
  | dequeue
  | put
  | finish
  | drain (context : LoopContext)

def HubState.within (hub : HubState) (stepped : Option (Pipeline Unit)) : Option HubState :=
  stepped.map fun pipeline => { hub with pipeline := pipeline }

def HubState.drain (hub : HubState) (context : LoopContext) : Option HubState :=
  match hub.pipeline.msgq with
  | [] => none
  | msg :: _ => hub.pipeline.get.map fun pipeline =>
      { pipeline := pipeline
        nodes := (drainBody context hub.nodes msg).1
        recorded :=
          if (drainBody context hub.nodes msg).1.historyOf msg.id =
              (hub.nodes.historyOf msg.id ++ [msg.reading]).rtake historySize then
            hub.recorded ++ [msg]
          else hub.recorded }

def HubState.step (hub : HubState) : HubAction → Option HubState
  | .uiWorkQueueInit => hub.within hub.pipeline.uiWorkQueueInit
  | .post uptime locals request =>
      hub.within (hub.pipeline.call () (tempNodePost uptime locals request))
  | .check => hub.within (hub.pipeline.check ())
  | .copy => hub.within (hub.pipeline.copy ())
  | .submit => hub.within (hub.pipeline.submit ())
  | .dequeue => hub.within hub.pipeline.dequeue
  | .put => hub.within hub.pipeline.put
  | .finish => hub.within hub.pipeline.finish
  | .drain context => hub.drain context

def hubMachine : Machine HubState HubAction :=
  { initial := HubState.boot
    step := HubState.step }

def HubState.answered (hub : HubState) : List TempDataMsg :=
  (hub.pipeline.returns.filter fun call => tempNodePostResponse call.2 = .created).map Prod.fst

structure HubState.Quiescent (hub : HubState) : Prop where
  handled : hub.pipeline.caller () = .idle
  idle : ∀ slot, hub.pipeline.work.busy slot = false
  empty : hub.pipeline.msgq = []

/-- The step loses no reading: the work queue is initialised when a request comes
in, the last slot is not found busy, the message queue has room at the put, and
the table has the node of a drained message or a free slot. -/
def KeepsReading (hub : HubState) : HubAction → Prop
  | .post _ _ _ => hub.pipeline.workPoolInit = true
  | .check => ∀ slot msg, hub.pipeline.caller () = .checking slot msg →
      hub.pipeline.work.busy slot = true → slot.val + 1 < uiWorkPoolSize
  | .put => hub.pipeline.msgq.length < tempMsgQueueSize
  | .drain _ => ∀ msg rest, hub.pipeline.msgq = msg :: rest →
      ∃ slot, (hub.nodes slot).matches msg.nodeId ∨ (hub.nodes slot).used = false
  | _ => True

theorem HubState.within_cases {hub next : HubState} {stepped : Option (Pipeline Unit)}
    (taken : hub.within stepped = some next) :
    ∃ pipeline, stepped = some pipeline ∧ next = { hub with pipeline := pipeline } := by
  rcases Option.map_eq_some_iff.1 taken with ⟨pipeline, same, equal⟩
  exact ⟨pipeline, same, equal.symm⟩

theorem HubState.drain_cases {hub next : HubState} {context : LoopContext}
    (stepped : hub.drain context = some next) :
    ∃ msg rest, hub.pipeline.msgq = msg :: rest ∧
      next.pipeline = { hub.pipeline with
        msgq := rest, received := hub.pipeline.received ++ [msg] } ∧
      next.nodes = (drainBody context hub.nodes msg).1 ∧
      next.recorded =
        if next.nodes.historyOf msg.id =
            (hub.nodes.historyOf msg.id ++ [msg.reading]).rtake historySize then
          hub.recorded ++ [msg]
        else hub.recorded := by
  unfold HubState.drain at stepped
  cases queued : hub.pipeline.msgq with
  | nil =>
      rw [queued] at stepped
      cases stepped
  | cons msg rest =>
      rw [queued] at stepped
      rcases Option.map_eq_some_iff.1 stepped with ⟨pipeline, got, rfl⟩
      rcases Pipeline.get_cases got with ⟨first, others, same, rfl⟩
      rw [queued] at same
      cases same
      exact ⟨msg, rest, rfl, rfl, rfl, rfl⟩

theorem HubState.step_pipeline {hub next : HubState} {action : HubAction}
    (stepped : hub.step action = some next) :
    ∃ step, hub.pipeline.step step = some next.pipeline := by
  cases action with
  | uiWorkQueueInit =>
      rcases HubState.within_cases stepped with ⟨_, same, rfl⟩
      exact ⟨.uiWorkQueueInit, same⟩
  | post uptime locals request =>
      rcases HubState.within_cases stepped with ⟨_, same, rfl⟩
      exact ⟨.call () _, same⟩
  | check =>
      rcases HubState.within_cases stepped with ⟨_, same, rfl⟩
      exact ⟨.check (), same⟩
  | copy =>
      rcases HubState.within_cases stepped with ⟨_, same, rfl⟩
      exact ⟨.copy (), same⟩
  | submit =>
      rcases HubState.within_cases stepped with ⟨_, same, rfl⟩
      exact ⟨.submit (), same⟩
  | dequeue =>
      rcases HubState.within_cases stepped with ⟨_, same, rfl⟩
      exact ⟨.dequeue, same⟩
  | put =>
      rcases HubState.within_cases stepped with ⟨_, same, rfl⟩
      exact ⟨.put, same⟩
  | finish =>
      rcases HubState.within_cases stepped with ⟨_, same, rfl⟩
      exact ⟨.finish, same⟩
  | drain context =>
      rcases HubState.drain_cases stepped with ⟨msg, rest, queued, same, _⟩
      refine ⟨.get, ?_⟩
      rw [same]
      change hub.pipeline.get = _
      rw [Pipeline.get, queued]

/-- `main` writes the reading of a message for which it finds a slot, and of no other. -/
theorem HubState.drain_recorded {hub next : HubState} {registry : NodeRegistry}
    (refines : Refines hub.nodes registry) {context : LoopContext}
    (stepped : hub.drain context = some next) :
    ∃ msg rest, hub.pipeline.msgq = msg :: rest ∧
      next.pipeline = { hub.pipeline with
        msgq := rest, received := hub.pipeline.received ++ [msg] } ∧
      next.recorded =
        if (getOrCreateNode hub.nodes msg.nodeId).isSome then hub.recorded ++ [msg]
        else hub.recorded := by
  rcases HubState.drain_cases stepped with ⟨msg, rest, queued, pipeline, nodes, recorded⟩
  refine ⟨msg, rest, queued, pipeline, ?_⟩
  rw [recorded, nodes]
  exact if_congr (drainBody_writes_iff refines context msg) rfl rfl

/-! ### One step, accounted for -/

/-- The readings that are kept: recorded, queued for `main` or due to be put. -/
def HubState.held (hub : HubState) : List TempDataMsg :=
  hub.recorded ++ hub.pipeline.msgq ++ hub.pipeline.pending

/-- A step answers a request or none; a step that loses nothing keeps what was
held and the answered reading, any other step loses one of these. -/
def Accounted (hub next : HubState) (action : HubAction) : Prop :=
  ∃ new, next.answered = hub.answered ++ new ∧
    ((KeepsReading hub action ∧ next.held.Perm (hub.held ++ new)) ∨
      (¬KeepsReading hub action ∧ ∃ msg, (msg :: next.held).Perm (hub.held ++ new)))

private theorem answered_eq (hub : HubState) :
    hub.answered = hub.pipeline.returns.map Prod.fst := by
  unfold HubState.answered
  rw [List.filter_eq_self.2]
  intro call _
  rfl

private theorem accounted_same {hub next : HubState} {action : HubAction}
    (keeps : KeepsReading hub action)
    (returns : next.pipeline.returns = hub.pipeline.returns) (held : next.held = hub.held) :
    Accounted hub next action := by
  refine ⟨[], ?_, Or.inl ⟨keeps, ?_⟩⟩
  · rw [answered_eq, answered_eq, returns, List.append_nil]
  · rw [held, List.append_nil]

private theorem accounted_refused {hub next : HubState} {action : HubAction}
    (loses : ¬KeepsReading hub action) {msg : TempDataMsg} {ret : Int}
    (returns : next.pipeline.returns = hub.pipeline.returns ++ [(msg, ret)])
    (held : next.held = hub.held) : Accounted hub next action := by
  refine ⟨[msg], ?_, Or.inr ⟨loses, msg, ?_⟩⟩
  · rw [answered_eq, answered_eq, returns, List.map_append]
    rfl
  · rw [held]
    exact (List.perm_append_singleton msg hub.held).symm

private theorem accounted_put {hub next : HubState}
    (stepped : hub.within hub.pipeline.put = some next) : Accounted hub next .put := by
  rcases HubState.within_cases stepped with ⟨pipeline, same, rfl⟩
  rcases Pipeline.put_cases same with ⟨slot, work, acted, rfl⟩
  have heldEq : hub.held = hub.recorded ++ hub.pipeline.msgq ++
      hub.pipeline.workPool slot :: work.waiting.map hub.pipeline.workPool := by
    rw [HubState.held, Pipeline.pending_act acted]
  rcases hub.pipeline.tempDataEnqueue_cases (hub.pipeline.workPool slot) with
    ⟨room, equal⟩ | ⟨full, equal⟩
  · refine accounted_same (show KeepsReading hub .put from room) ?_ ?_
    · rw [equal]
    · rw [heldEq, equal]
      change hub.recorded ++ (hub.pipeline.msgq ++ [_]) ++ _ = _
      simp only [List.append_assoc, List.singleton_append]
      rfl
  · refine ⟨[], ?_, Or.inr ⟨full, hub.pipeline.workPool slot, ?_⟩⟩
    · rw [answered_eq, answered_eq, equal, List.append_nil]
    · rw [heldEq, equal, List.append_nil]
      exact List.perm_middle.symm

private theorem accounted_drain {hub next : HubState} {registry : NodeRegistry}
    (refines : Refines hub.nodes registry) {context : LoopContext}
    (stepped : hub.drain context = some next) : Accounted hub next (.drain context) := by
  rcases HubState.drain_recorded refines stepped with ⟨msg, rest, queued, pipelineEq, recordedEq⟩
  have heldEq : hub.held = hub.recorded ++ msg :: (rest ++ hub.pipeline.pending) := by
    unfold HubState.held
    rw [queued, List.append_assoc]
    rfl
  have nextHeld : next.held = next.recorded ++ (rest ++ hub.pipeline.pending) := by
    unfold HubState.held
    rw [pipelineEq, List.append_assoc]
    rfl
  have returns : next.pipeline.returns = hub.pipeline.returns := by rw [pipelineEq]
  cases found : (getOrCreateNode hub.nodes msg.nodeId).isSome with
  | true =>
      rw [found] at recordedEq
      apply accounted_same _ returns
      · rw [heldEq, nextHeld, recordedEq]
        simp
      · intro other others same
        rw [queued] at same
        cases same
        exact getOrCreateNode_room found
  | false =>
      rw [found] at recordedEq
      refine ⟨[], ?_, Or.inr ⟨fun keeps => ?_, msg, ?_⟩⟩
      · rw [answered_eq, answered_eq, returns, List.append_nil]
      · have kept := getOrCreateNode_isSome (keeps msg rest queued)
        rw [found] at kept
        cases kept
      · rw [heldEq, nextHeld, recordedEq, List.append_nil]
        exact List.perm_middle.symm

theorem HubState.step_accounted {hub next : HubState} (inOrder : hub.pipeline.InOrder)
    (slotFree : hub.pipeline.SlotFree) {registry : NodeRegistry}
    (refines : Refines hub.nodes registry) {action : HubAction}
    (stepped : hub.step action = some next) : Accounted hub next action := by
  cases action with
  | uiWorkQueueInit =>
      rcases HubState.within_cases stepped with ⟨_, same, rfl⟩
      rcases Pipeline.uiWorkQueueInit_cases same with ⟨_, rfl⟩
      exact accounted_same trivial rfl rfl
  | post uptime locals request =>
      rcases HubState.within_cases stepped with ⟨_, same, rfl⟩
      rcases Pipeline.call_cases same with ⟨_, ⟨ready, rfl⟩ | ⟨notReady, rfl⟩⟩
      · exact accounted_same ready rfl rfl
      · refine accounted_refused (fun ready => ?_) rfl rfl
        rw [KeepsReading, notReady] at ready
        cases ready
  | check =>
      rcases HubState.within_cases stepped with ⟨_, same, rfl⟩
      rcases Pipeline.check_cases same with ⟨slot, msg, here, outcome⟩
      have decided : ∀ other otherMsg, hub.pipeline.caller () = .checking other otherMsg →
          other = slot := by
        intro other otherMsg there
        rw [here] at there
        cases there
        rfl
      rcases outcome with ⟨_, more, rfl⟩ | ⟨busy, last, rfl⟩ | ⟨free, rfl⟩
      · refine accounted_same (fun other otherMsg there _ => ?_) rfl rfl
        rw [decided other otherMsg there]
        exact more
      · exact accounted_refused (fun keeps => last (keeps slot msg here busy)) rfl rfl
      · refine accounted_same (fun other otherMsg there busy => ?_) rfl rfl
        rw [decided other otherMsg there, free] at busy
        cases busy
  | copy =>
      rcases HubState.within_cases stepped with ⟨_, same, rfl⟩
      have pending := inOrder.pending_copy (slotFree.undisturbed (.copy ())) same
      rcases Pipeline.copy_cases same with ⟨slot, msg, _, rfl⟩
      refine accounted_same trivial rfl ?_
      unfold HubState.held
      rw [pending]
      rfl
  | submit =>
      rcases HubState.within_cases stepped with ⟨_, same, rfl⟩
      rcases Pipeline.submit_cases same with ⟨slot, msg, here, rfl⟩
      refine ⟨[msg], ?_, Or.inl ⟨trivial, List.Perm.of_eq ?_⟩⟩
      · rw [answered_eq, answered_eq]
        exact List.map_append
      · change hub.recorded ++ hub.pipeline.msgq ++
          (hub.pipeline.work.submit slot).waiting.map hub.pipeline.workPool = _
        rw [inOrder.pending_submit here, ← List.append_assoc]
        rfl
  | dequeue =>
      rcases HubState.within_cases stepped with ⟨_, same, rfl⟩
      rcases Pipeline.dequeue_cases same with ⟨_, started, rfl⟩
      refine accounted_same trivial rfl ?_
      unfold HubState.held Pipeline.pending
      rw [WorkQueue.start_waiting started]
  | put => exact accounted_put stepped
  | finish =>
      rcases HubState.within_cases stepped with ⟨_, same, rfl⟩
      rcases Pipeline.finish_cases same with ⟨_, finished, rfl⟩
      refine accounted_same trivial rfl ?_
      unfold HubState.held Pipeline.pending
      rw [WorkQueue.finish_waiting finished]
  | drain context => exact accounted_drain refines stepped

/-! ### Whole runs -/

/-- Each history is that of the messages recorded for its node, the last sixty. -/
def HubState.HistoriesRecorded (hub : HubState) : Prop :=
  ∀ id, hub.nodes.historyOf id =
    ((hub.recorded.filter fun msg => msg.id = id).map TempDataMsg.reading).rtake historySize

theorem HubState.HistoriesRecorded.drain {hub next : HubState} (histories : hub.HistoriesRecorded)
    {registry : NodeRegistry} (refines : Refines hub.nodes registry) {context : LoopContext}
    (stepped : hub.drain context = some next) : next.HistoriesRecorded := by
  rcases HubState.drain_cases stepped with ⟨msg, rest, -, -, nodes, recorded⟩
  rw [nodes] at recorded
  intro id
  rw [nodes, recorded]
  by_cases own : id = msg.id
  · subst own
    split
    · rename_i written
      rw [written, histories msg.id, rtake_append_singleton, List.filter_append, List.map_append,
        List.filter_singleton, decide_eq_true rfl]
      rfl
    · rename_i unwritten
      have none := mt (drainBody_writes_iff refines context msg).2 unwritten
      rw [Bool.not_eq_true, Option.isSome_eq_false_iff, Option.isNone_iff_eq_none] at none
      rw [drainBody_dropped none]
      exact histories msg.id
  · have others : (if (drainBody context hub.nodes msg).1.historyOf msg.id =
        (hub.nodes.historyOf msg.id ++ [msg.reading]).rtake historySize then
        hub.recorded ++ [msg] else hub.recorded).filter (fun found => found.id = id) =
        hub.recorded.filter fun found => found.id = id := by
      split
      · rw [List.filter_append, List.filter_singleton, decide_eq_false (Ne.symm own)]
        exact List.append_nil _
      · rfl
    rw [others, drainBody_historyOf_other refines context msg own]
    exact histories id

structure HubState.Sound (hub : HubState) : Prop where
  inOrder : hub.pipeline.InOrder
  slotFree : hub.pipeline.SlotFree
  kept : hub.held.Subperm hub.answered
  refines : ∃ registry, Refines hub.nodes registry
  histories : hub.HistoriesRecorded

theorem sound_boot : HubState.boot.Sound :=
  { inOrder := inOrder_boot
    slotFree := by
      intro slot msg here
      cases here
    kept := List.nil_subperm
    refines := ⟨_, refines_empty⟩
    histories := fun id => refines_empty.historyOf id }

theorem HubState.step_nodes {hub next : HubState} {action : HubAction}
    (stepped : hub.step action = some next) :
    (next.nodes = hub.nodes ∧ next.recorded = hub.recorded) ∨
      ∃ context, action = .drain context := by
  cases action with
  | drain context => exact .inr ⟨context, rfl⟩
  | _ =>
      rcases HubState.within_cases stepped with ⟨_, -, rfl⟩
      exact .inl ⟨rfl, rfl⟩

theorem HubState.Sound.step_table {hub next : HubState} (sound : hub.Sound) {action : HubAction}
    (stepped : hub.step action = some next) :
    (∃ registry, Refines next.nodes registry) ∧ next.HistoriesRecorded := by
  rcases sound.refines with ⟨registry, refines⟩
  rcases HubState.step_nodes stepped with ⟨nodes, recorded⟩ | ⟨context, rfl⟩
  · have histories := sound.histories
    unfold HubState.HistoriesRecorded at histories ⊢
    rw [nodes, recorded]
    exact ⟨⟨registry, refines⟩, histories⟩
  · refine ⟨?_, sound.histories.drain refines stepped⟩
    rcases HubState.drain_cases stepped with ⟨msg, rest, -, -, nodes, -⟩
    rw [nodes]
    exact ⟨_, drainBody_refines refines context msg⟩

theorem HubState.Sound.accounted {hub next : HubState} (sound : hub.Sound) {action : HubAction}
    (stepped : hub.step action = some next) : Accounted hub next action := by
  rcases sound.refines with ⟨registry, refines⟩
  exact HubState.step_accounted sound.inOrder sound.slotFree refines stepped

theorem HubState.Sound.step {hub next : HubState} (sound : hub.Sound) {action : HubAction}
    (stepped : hub.step action = some next) : next.Sound := by
  rcases HubState.step_pipeline stepped with ⟨step, pipelineStep⟩
  rcases sound.step_table stepped with ⟨refines, histories⟩
  refine
    { inOrder := sound.inOrder.step (sound.slotFree.undisturbed step) pipelineStep
      slotFree := sound.slotFree.step pipelineStep
      kept := ?_
      refines := refines
      histories := histories }
  obtain ⟨new, answered, ⟨_, held⟩ | ⟨_, msg, held⟩⟩ := sound.accounted stepped
  · rw [answered]
    exact held.subperm.trans ((List.subperm_append_right new).2 sound.kept)
  · rw [answered]
    have less : next.held.Subperm (msg :: next.held) := (List.sublist_cons_self _ _).subperm
    exact less.trans (held.subperm.trans ((List.subperm_append_right new).2 sound.kept))

def HubState.lost (hub : HubState) : Nat := hub.answered.length - hub.held.length

theorem HubState.Quiescent.recorded_iff {hub : HubState} (quiet : hub.Quiescent)
    (sound : hub.Sound) : hub.answered.Subperm hub.recorded ↔ hub.lost = 0 := by
  have nothingWaits : hub.pipeline.work.waiting = [] := by
    apply List.eq_nil_iff_forall_not_mem.2
    intro slot waits
    have busy := WorkQueue.busy_of_waiting waits
    rw [quiet.idle slot] at busy
    cases busy
  have heldEq : hub.held = hub.recorded := by
    unfold HubState.held Pipeline.pending
    rw [nothingWaits, quiet.empty, List.append_nil, List.map_nil, List.append_nil]
  have kept := sound.kept
  unfold HubState.lost
  rw [heldEq] at kept ⊢
  constructor
  · intro all
    have lengths := all.length_le
    omega
  · intro none
    have lengths := kept.length_le
    exact (kept.perm_of_length_le (by omega)).symm.subperm

/-- From boot to rest, the histories are those of the recorded messages, and a run has
every acknowledged reading among these exactly when none of its steps loses a reading. -/
theorem acknowledged_recorded_iff (actions : List HubAction) {final : HubState}
    (ran : hubMachine.run HubState.boot actions = some final) (quiet : final.Quiescent) :
    final.HistoriesRecorded ∧
      (final.answered.Subperm final.recorded ↔
        hubMachine.Guarded KeepsReading HubState.boot actions) := by
  have sound : final.Sound :=
    hubMachine.run_preserves HubState.Sound (fun _ _ _ before stepped => before.step stepped) _ _ _
      sound_boot ran
  refine ⟨sound.histories, ?_⟩
  have measured := hubMachine.measure_unchanged_iff_guarded HubState.Sound KeepsReading
    HubState.lost (fun _ _ _ before stepped => before.step stepped) ?_ ?_ _ _ actions sound_boot ran
  · rw [quiet.recorded_iff sound, ← measured.2]
    rfl
  · intro state action next before keeps stepped
    obtain ⟨new, answered, ⟨_, held⟩ | ⟨loses, _⟩⟩ := before.accounted stepped
    · unfold HubState.lost
      rw [answered, held.length_eq, List.length_append, List.length_append]
      omega
    · exact absurd keeps loses
  · intro state action next before loses stepped
    obtain ⟨new, answered, ⟨keeps, _⟩ | ⟨_, msg, held⟩⟩ := before.accounted stepped
    · exact absurd keeps loses
    · have lengths := held.length_eq
      have keptBefore := before.kept.length_le
      have keptAfter := (before.step stepped).kept.length_le
      unfold HubState.lost
      rw [answered] at keptAfter ⊢
      rw [List.length_append] at keptAfter ⊢
      rw [List.length_cons, List.length_append] at lengths
      omega

def emptyPost : HubAction :=
  .post 0 { queryOpt := { len := 0, value := Buffer.zero _ }, payloadStr := Buffer.zero _ }
    { uriQuery := [], payload := [] }

def recordedRun : List HubAction :=
  [.uiWorkQueueInit, .post 1000 noLocals kitchenRequest, .check, .copy, .submit, .dequeue, .put,
    .finish, .drain MainLoop.start.context, .post 2500 noLocals gardenRequest, .check, .copy,
    .submit, .dequeue, .put, .finish, .drain MainLoop.start.context]

theorem recordedRun_iff :
    (hubMachine.run HubState.boot recordedRun).map HubState.recorded =
        some [tempNodePost 1000 noLocals kitchenRequest,
          tempNodePost 2500 noLocals gardenRequest] ∧
      ∃ final : HubState, hubMachine.run HubState.boot recordedRun = some final ∧
        final.HistoriesRecorded ∧
        (final.answered.Subperm final.recorded ↔
          hubMachine.Guarded KeepsReading HubState.boot recordedRun) :=
  ⟨by decide +kernel,
    _, rfl, acknowledged_recorded_iff recordedRun rfl ⟨rfl, fun _ => rfl, rfl⟩⟩

theorem earlyPost_not_recorded :
    ¬∀ (actions : List HubAction) (final : HubState),
      hubMachine.run HubState.boot actions = some final → final.Quiescent →
        final.answered.Subperm final.recorded := by
  intro recorded
  have early := recorded [emptyPost] _ rfl ⟨rfl, fun _ => rfl, rfl⟩
  have lengths := early.length_le
  change 1 ≤ 0 at lengths
  omega

end ZephyrHomeHub.Hub
