import Mathlib.Data.List.Count
import ZephyrHomeHub.Hub.ClockedHub

/-! The three threads of the hub against one sequential program: a log of the submitted
messages, of which the drain loop stores a part in order. What is missing from the
table is still on its way, was refused by `ui_update_submit`, or was dropped at a full
queue, and nothing is in two of these places. -/

namespace ZephyrHomeHub.Hub

open Foundation.CString Foundation.LabelledMachine Foundation.SingleWorker

def ClockedAction.submitted (hub : ClockedHub) : ClockedAction → List TempDataMsg
  | .post locals request => [tempNodePost hub.uptime locals request]
  | _ => []

def ClockedHub.submittedAlong : ClockedHub → List ClockedAction → List TempDataMsg
  | _, [] => []
  | hub, action :: rest =>
      action.submitted hub ++
        match hub.step action with
        | none => []
        | some next => ClockedHub.submittedAlong next rest

def Pipeline.refused (pipeline : Pipeline Unit) : List TempDataMsg :=
  (pipeline.returns.filter fun call => call.2 ≠ 0).map Prod.fst

def Pipeline.dropped (pipeline : Pipeline Unit) : List TempDataMsg :=
  (pipeline.puts.filter fun put => !put.ok).map PutAttempt.msg

def Pipeline.accounted (pipeline : Pipeline Unit) : List TempDataMsg :=
  pipeline.stream ++ (pipeline.refused ++ pipeline.dropped)

variable {pipeline next : Pipeline Unit}

/-! ### One step of the pipeline -/

theorem Pipeline.refused_leave (msg : TempDataMsg) {ret : Int} (error : ret ≠ 0) :
    (pipeline.leave () msg ret).refused = pipeline.refused ++ [msg] := by
  have kept : (pipeline.returns ++ [(msg, ret)]).filter (fun call => call.2 ≠ 0) =
      pipeline.returns.filter (fun call => call.2 ≠ 0) ++ [(msg, ret)] := by
    rw [List.filter_append, List.filter_singleton, decide_eq_true error]
    rfl
  exact (congrArg (List.map Prod.fst) kept).trans List.map_append

theorem Pipeline.refused_leave_zero (msg : TempDataMsg) :
    (pipeline.leave () msg 0).refused = pipeline.refused := by
  have kept : (pipeline.returns ++ [(msg, (0 : Int))]).filter (fun call => call.2 ≠ 0) =
      pipeline.returns.filter (fun call => call.2 ≠ 0) := by
    rw [List.filter_append]
    exact List.append_nil _
  exact congrArg (List.map Prod.fst) kept

theorem Pipeline.stream_leave (msg : TempDataMsg) (ret : Int) :
    (pipeline.leave () msg ret).stream =
      pipeline.received ++ (pipeline.msgq ++ pipeline.pending) := by
  change pipeline.received ++ (pipeline.msgq ++ (pipeline.pending ++ [])) = _
  rw [List.append_nil]

theorem Pipeline.stream_moveCaller (state : CallerState) :
    (pipeline.moveCaller () state).stream =
      pipeline.received ++ (pipeline.msgq ++ (pipeline.pending ++ state.msgs)) := rfl

private theorem stream_calling {slot : PoolSlot} {msg : TempDataMsg}
    (here : pipeline.caller () = .checking slot msg) :
    pipeline.stream =
      pipeline.received ++ (pipeline.msgq ++ (pipeline.pending ++ [msg])) := by
  rw [Pipeline.stream, here]
  rfl

private theorem conserved_same {called : List TempDataMsg}
    (stream : next.stream = pipeline.stream ++ called)
    (refused : next.refused = pipeline.refused) (dropped : next.dropped = pipeline.dropped) :
    next.accounted.Perm (pipeline.accounted ++ called) := by
  unfold Pipeline.accounted
  rw [stream, refused, dropped, List.append_assoc, List.append_assoc]
  exact List.perm_append_comm.append_left _

private theorem conserved_refused {msg : TempDataMsg} {called : List TempDataMsg}
    (stream : (next.stream ++ [msg]).Perm (pipeline.stream ++ called))
    (refused : next.refused = pipeline.refused ++ [msg])
    (dropped : next.dropped = pipeline.dropped) :
    next.accounted.Perm (pipeline.accounted ++ called) := by
  rw [List.perm_iff_count] at stream ⊢
  intro other
  have counts := stream other
  simp only [Pipeline.accounted, refused, dropped, List.count_append] at counts ⊢
  omega

private theorem dropped_of_puts (put : PutAttempt)
    (puts : next.puts = pipeline.puts ++ [put]) :
    next.dropped = pipeline.dropped ++ if put.ok then [] else [put.msg] := by
  unfold Pipeline.dropped
  rw [puts, List.filter_append, List.map_append]
  cases ok : put.ok <;> simp [ok]

private theorem conserved_put (stepped : pipeline.put = some next) :
    next.accounted.Perm (pipeline.accounted ++ []) := by
  rcases Pipeline.put_cases stepped with ⟨slot, work, acted, rfl⟩
  have pending := Pipeline.pending_act acted
  rcases pipeline.tempDataEnqueue_cases (pipeline.workPool slot) with ⟨-, equal⟩ | ⟨-, equal⟩
  · rw [equal]
    refine conserved_same ?_ rfl ?_
    · unfold Pipeline.stream
      rw [pending]
      change pipeline.received ++ ((pipeline.msgq ++ [_]) ++ _) = _
      rw [List.append_assoc, List.append_nil]
      rfl
    · exact (dropped_of_puts _ rfl).trans (List.append_nil _)
  · rw [equal, List.append_nil, List.perm_iff_count]
    intro other
    have dropped : Pipeline.dropped { pipeline with
        work := work
        puts := pipeline.puts ++
          [{ msg := pipeline.workPool slot, held := pipeline.msgq.length, ok := false }] } =
        pipeline.dropped ++ [pipeline.workPool slot] :=
      dropped_of_puts
        { msg := pipeline.workPool slot, held := pipeline.msgq.length, ok := false } rfl
    simp only [Pipeline.accounted, dropped, Pipeline.stream, pending, List.count_append,
      List.count_cons, List.count_nil]
    simp only [Pipeline.pending, Pipeline.refused]
    omega

/-- A step moves messages between their places and adds the one it is called with. -/
theorem Pipeline.accounted_step (inOrder : pipeline.InOrder) (slotFree : pipeline.SlotFree)
    {action : PipelineAction Unit} (stepped : pipeline.step action = some next) :
    next.accounted.Perm (pipeline.accounted ++ action.called) := by
  cases action with
  | uiWorkQueueInit =>
      rcases Pipeline.uiWorkQueueInit_cases stepped with ⟨-, rfl⟩
      exact conserved_same (List.append_nil _).symm rfl rfl
  | call caller msg =>
      rcases Pipeline.call_cases stepped with ⟨idle, ⟨-, rfl⟩ | ⟨-, rfl⟩⟩
      · refine conserved_same ?_ rfl rfl
        rw [Pipeline.stream_moveCaller, Pipeline.stream, idle, List.append_assoc,
          List.append_assoc, List.append_assoc]
        rfl
      · refine conserved_refused ?_ (Pipeline.refused_leave msg (by decide)) rfl
        rw [Pipeline.stream_leave, Pipeline.stream, idle, CallerState.msgs, List.append_nil]
        exact List.Perm.refl _
  | check caller =>
      rcases Pipeline.check_cases stepped with
        ⟨slot, msg, here, ⟨-, more, rfl⟩ | ⟨-, -, rfl⟩ | ⟨-, rfl⟩⟩
      · refine conserved_same ?_ rfl rfl
        rw [Pipeline.stream_moveCaller, stream_calling here]
        exact (List.append_nil _).symm
      · refine conserved_refused ?_ (Pipeline.refused_leave msg (by decide)) rfl
        rw [Pipeline.stream_leave, stream_calling here, List.append_assoc, List.append_assoc]
        exact List.Perm.of_eq (List.append_nil _).symm
      · refine conserved_same ?_ rfl rfl
        rw [Pipeline.stream_moveCaller, stream_calling here]
        exact (List.append_nil _).symm
  | copy caller =>
      have pending := inOrder.pending_copy (slotFree.undisturbed (.copy caller)) stepped
      rcases Pipeline.copy_cases stepped with ⟨slot, msg, here, rfl⟩
      refine conserved_same ?_ rfl rfl
      unfold Pipeline.stream
      rw [pending, here]
      exact (List.append_nil _).symm
  | submit caller =>
      rcases Pipeline.submit_cases stepped with ⟨slot, msg, here, rfl⟩
      refine conserved_same ?_ (Pipeline.refused_leave_zero msg) rfl
      unfold Pipeline.stream
      rw [here]
      change pipeline.received ++ (pipeline.msgq ++
        ((pipeline.work.submit slot).waiting.map pipeline.workPool ++ [])) = _
      rw [inOrder.pending_submit here, List.append_nil]
      exact (List.append_nil _).symm
  | dequeue =>
      rcases Pipeline.dequeue_cases stepped with ⟨work, started, rfl⟩
      refine conserved_same ?_ rfl rfl
      unfold Pipeline.stream Pipeline.pending
      rw [WorkQueue.start_waiting started]
      exact (List.append_nil _).symm
  | put => exact conserved_put stepped
  | finish =>
      rcases Pipeline.finish_cases stepped with ⟨work, finished, rfl⟩
      refine conserved_same ?_ rfl rfl
      unfold Pipeline.stream Pipeline.pending
      rw [WorkQueue.finish_waiting finished]
      exact (List.append_nil _).symm
  | get =>
      rcases Pipeline.get_cases stepped with ⟨msg, rest, queued, rfl⟩
      refine conserved_same ?_ rfl rfl
      unfold Pipeline.stream
      rw [queued]
      change (pipeline.received ++ [msg]) ++ (rest ++ _) = _
      rw [List.append_assoc]
      exact (List.append_nil _).symm

def Pipeline.calls (pipeline : Pipeline Unit) : List TempDataMsg :=
  pipeline.returns.map Prod.fst ++ (pipeline.caller ()).msgs

theorem Pipeline.calls_leave {msg : TempDataMsg} {ret : Int} {called : List TempDataMsg}
    (calling : (pipeline.caller ()).msgs ++ called = [msg]) :
    (pipeline.leave () msg ret).calls = pipeline.calls ++ called := by
  change (pipeline.returns ++ [(msg, ret)]).map Prod.fst ++ [] = _
  rw [List.append_nil, List.map_append, Pipeline.calls, List.append_assoc, calling]
  rfl

theorem Pipeline.calls_step {action : PipelineAction Unit}
    (stepped : pipeline.step action = some next) :
    next.calls = pipeline.calls ++ action.called := by
  cases action with
  | uiWorkQueueInit =>
      rcases Pipeline.uiWorkQueueInit_cases stepped with ⟨-, rfl⟩
      exact (List.append_nil _).symm
  | call caller msg =>
      rcases Pipeline.call_cases stepped with ⟨idle, ⟨-, rfl⟩ | ⟨-, rfl⟩⟩
      · rw [Pipeline.calls, Pipeline.calls, idle, List.append_assoc]
        rfl
      · refine Pipeline.calls_leave ?_
        rw [idle]
        rfl
  | check caller =>
      rcases Pipeline.check_cases stepped with
        ⟨slot, msg, here, ⟨-, more, rfl⟩ | ⟨-, -, rfl⟩ | ⟨-, rfl⟩⟩
      · rw [Pipeline.calls, Pipeline.calls, here]
        exact (List.append_nil _).symm
      · refine Pipeline.calls_leave ?_
        rw [here]
        rfl
      · rw [Pipeline.calls, Pipeline.calls, here]
        exact (List.append_nil _).symm
  | copy caller =>
      rcases Pipeline.copy_cases stepped with ⟨slot, msg, here, rfl⟩
      rw [Pipeline.calls, Pipeline.calls, here]
      exact (List.append_nil _).symm
  | submit caller =>
      rcases Pipeline.submit_cases stepped with ⟨slot, msg, here, rfl⟩
      refine Pipeline.calls_leave ?_
      rw [here]
      rfl
  | dequeue =>
      rcases Pipeline.dequeue_cases stepped with ⟨work, -, rfl⟩
      exact (List.append_nil _).symm
  | put =>
      rcases Pipeline.put_cases stepped with ⟨slot, work, -, rfl⟩
      rcases pipeline.tempDataEnqueue_cases (pipeline.workPool slot) with ⟨-, equal⟩ | ⟨-, equal⟩
      · rw [equal]
        exact (List.append_nil _).symm
      · rw [equal]
        exact (List.append_nil _).symm
  | finish =>
      rcases Pipeline.finish_cases stepped with ⟨work, -, rfl⟩
      exact (List.append_nil _).symm
  | get =>
      rcases Pipeline.get_cases stepped with ⟨msg, rest, -, rfl⟩
      exact (List.append_nil _).symm

/-! ### Whole runs -/

theorem ClockedHub.pipeline_submits {hub after : ClockedHub} {action : ClockedAction}
    (stepped : hub.step action = some after) :
    (after.pipeline = hub.pipeline ∧ action.submitted hub = []) ∨
      ∃ inner, hub.pipeline.step inner = some after.pipeline ∧
        inner.called = action.submitted hub := by
  cases action with
  | tick elapsed =>
      cases stepped
      exact .inl ⟨rfl, rfl⟩
  | post locals request =>
      rcases ClockedHub.within_cases stepped with ⟨pipeline, same, rfl⟩
      exact .inr ⟨_, same, rfl⟩
  | thread step =>
      rcases ClockedHub.within_cases stepped with ⟨pipeline, same, rfl⟩
      exact .inr ⟨_, same, step.action_called⟩
  | msgqGet =>
      rcases ClockedHub.msgqGet_cases stepped with ⟨msg, pipeline, -, got, -, -, rfl⟩
      exact .inr ⟨_, got, rfl⟩
  | loopBody temperatureTabActive tempTab =>
      rcases ClockedHub.loopBody_cases stepped with ⟨msg, context, -, -, rfl⟩
      exact .inl ⟨rfl, rfl⟩

theorem ClockedHub.Sound.stream_step {hub after : ClockedHub} (sound : hub.Sound)
    {action : ClockedAction} (stepped : hub.step action = some after) :
    after.pipeline.stream.Sublist (hub.pipeline.stream ++ action.submitted hub) := by
  rcases ClockedHub.pipeline_submits stepped with ⟨rests, nothing⟩ | ⟨inner, moved, called⟩
  · rw [rests, nothing, List.append_nil]
  · rw [← called]
    exact Pipeline.stream_step sound.inOrder sound.slotFree moved

theorem ClockedHub.Sound.accounted_step {hub after : ClockedHub} (sound : hub.Sound)
    {action : ClockedAction} (stepped : hub.step action = some after) :
    after.pipeline.accounted.Perm (hub.pipeline.accounted ++ action.submitted hub) := by
  rcases ClockedHub.pipeline_submits stepped with ⟨rests, nothing⟩ | ⟨inner, moved, called⟩
  · rw [rests, nothing, List.append_nil]
  · rw [← called]
    exact Pipeline.accounted_step sound.inOrder sound.slotFree moved

theorem ClockedHub.calls_step {hub after : ClockedHub} {action : ClockedAction}
    (stepped : hub.step action = some after) :
    after.pipeline.calls = hub.pipeline.calls ++ action.submitted hub := by
  rcases ClockedHub.pipeline_submits stepped with ⟨rests, nothing⟩ | ⟨inner, moved, called⟩
  · rw [rests, nothing, List.append_nil]
  · rw [← called]
    exact Pipeline.calls_step moved

theorem ClockedHub.submittedAlong_cons {hub after : ClockedHub} {action : ClockedAction}
    (stepped : hub.step action = some after) (rest : List ClockedAction) :
    hub.submittedAlong (action :: rest) =
      action.submitted hub ++ after.submittedAlong rest := by
  rw [ClockedHub.submittedAlong, stepped]

theorem ClockedHub.mem_submittedAlong {hub : ClockedHub} {actions : List ClockedAction}
    {msg : TempDataMsg} (member : msg ∈ hub.submittedAlong actions) :
    ∃ uptime locals request, ClockedAction.post locals request ∈ actions ∧
      msg = tempNodePost uptime locals request := by
  induction actions generalizing hub with
  | nil => cases member
  | cons action rest ih =>
      rcases List.mem_append.1 member with here | later
      · cases action with
        | post locals request =>
            exact ⟨hub.uptime, locals, request, List.mem_cons_self, List.mem_singleton.1 here⟩
        | _ => cases here
      · cases stepped : hub.step action with
        | none =>
            rw [stepped] at later
            cases later
        | some after =>
            rw [stepped] at later
            rcases ih later with ⟨uptime, locals, request, among, equal⟩
            exact ⟨uptime, locals, request, List.mem_cons_of_mem action among, equal⟩

theorem ClockedHub.Sound.stream_run {hub final : ClockedHub} (sound : hub.Sound)
    {actions : List ClockedAction} (ran : clockedMachine.run hub actions = some final) :
    final.pipeline.stream.Sublist (hub.pipeline.stream ++ hub.submittedAlong actions) ∧
      final.pipeline.accounted.Perm (hub.pipeline.accounted ++ hub.submittedAlong actions) := by
  induction actions generalizing hub with
  | nil =>
      cases ran
      rw [ClockedHub.submittedAlong, List.append_nil, List.append_nil]
      exact ⟨List.Sublist.refl _, List.Perm.refl _⟩
  | cons action rest ih =>
      rcases (clockedMachine.run_cons_eq_some _ _ _ _).1 ran with ⟨after, stepped, continued⟩
      rcases ih (sound.step stepped) continued with ⟨stream, accounted⟩
      rw [ClockedHub.submittedAlong_cons stepped, ← List.append_assoc, ← List.append_assoc]
      exact ⟨stream.trans ((sound.stream_step stepped).append (List.Sublist.refl _)),
        accounted.trans ((sound.accounted_step stepped).append_right _)⟩

theorem ClockedHub.calls_run {hub final : ClockedHub} {actions : List ClockedAction}
    (ran : clockedMachine.run hub actions = some final) :
    final.pipeline.calls = hub.pipeline.calls ++ hub.submittedAlong actions := by
  induction actions generalizing hub with
  | nil =>
      cases ran
      exact (List.append_nil _).symm
  | cons action rest ih =>
      rcases (clockedMachine.run_cons_eq_some _ _ _ _).1 ran with ⟨after, stepped, continued⟩
      rw [ih continued, ClockedHub.calls_step stepped, ClockedHub.submittedAlong_cons stepped,
        List.append_assoc]

theorem ClockedHub.Sound.table_stream {hub : ClockedHub} (sound : hub.Sound) :
    ∃ items : MessageSequence, hub.nodes = items.table ∧
      (items.map Prod.snd).Sublist hub.pipeline.stream := by
  rcases sound.table with ⟨items, table, received⟩
  refine ⟨items, table, ?_⟩
  unfold Pipeline.stream
  rw [← received, List.append_assoc]
  exact List.sublist_append_left _ _

/-- However the threads interleave, the table is the one a sequential drain makes of
some of the submitted messages, in the order of their submission, and every submitted
message is exactly once received, on its way, refused or dropped. -/
theorem run_stores_submitted_sublog (actions : List ClockedAction) (final : ClockedHub)
    (ran : clockedMachine.run ClockedHub.boot actions = some final) :
    (∃ items : MessageSequence, final.nodes = items.table ∧
      (items.map Prod.snd).Sublist (ClockedHub.boot.submittedAlong actions)) ∧
      final.pipeline.accounted.Perm (ClockedHub.boot.submittedAlong actions) := by
  rcases clocked_sound_boot.stream_run ran with ⟨stream, accounted⟩
  rcases (clocked_reachable_sound ⟨actions, ran⟩).table_stream with ⟨items, table, ordered⟩
  exact ⟨⟨items, table, ordered.trans stream⟩, accounted⟩

/-- A request before the work queue is initialised, then one of the same node and one of
another. -/
def storedRun : List ClockedAction :=
  [.post noLocals kitchenRequest, .thread .uiWorkQueueInit, .tick 1000] ++
    deliveryRun noLocals kitchenRequest ++ [.msgqGet, .loopBody true true, .tick 500] ++
    deliveryRun noLocals gardenRequest ++ [.msgqGet, .loopBody true true]

theorem storedRun_stores_sublog :
    ∃ final, clockedMachine.run ClockedHub.boot storedRun = some final ∧
      final.pipeline.refused = [tempNodePost 0 noLocals kitchenRequest] ∧
      final.pipeline.received =
        [tempNodePost 1000 noLocals kitchenRequest, tempNodePost 1500 noLocals gardenRequest] ∧
      (∃ items : MessageSequence, final.nodes = items.table ∧
        (items.map Prod.snd).Sublist (ClockedHub.boot.submittedAlong storedRun)) ∧
      final.pipeline.accounted.Perm (ClockedHub.boot.submittedAlong storedRun) := by
  have computed : (clockedMachine.run ClockedHub.boot storedRun).map
      (fun hub => (hub.pipeline.refused, hub.pipeline.received)) =
        some ([tempNodePost 0 noLocals kitchenRequest],
          [tempNodePost 1000 noLocals kitchenRequest,
            tempNodePost 1500 noLocals gardenRequest]) := by
    decide +kernel
  rcases Option.map_eq_some_iff.1 computed with ⟨final, ran, equal⟩
  rcases Prod.mk.inj equal with ⟨refused, received⟩
  exact ⟨final, ran, refused, received, run_stores_submitted_sublog storedRun final ran⟩

end ZephyrHomeHub.Hub
