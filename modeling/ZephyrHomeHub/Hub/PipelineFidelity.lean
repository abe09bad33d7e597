import ZephyrHomeHub.Hub.Pipeline

/-! What the pipeline keeps of the messages accepted by `ui_update_submit`. As
long as no thread copies into a slot that another message still needs, the puts
done and the puts due are the accepted messages in order. One thread alone never
disturbs a slot; two can. -/

namespace ZephyrHomeHub.Hub

open Foundation.LabelledMachine Foundation.SingleWorker

variable {Caller : Type}

def Pipeline.accepted (pipeline : Pipeline Caller) : List TempDataMsg :=
  (pipeline.returns.filter fun call => call.2 = 0).map Prod.fst

def Pipeline.attempted (pipeline : Pipeline Caller) : List TempDataMsg :=
  pipeline.puts.map PutAttempt.msg

def Pipeline.queuedEver (pipeline : Pipeline Caller) : List TempDataMsg :=
  (pipeline.puts.filter PutAttempt.ok).map PutAttempt.msg

def Pipeline.pending (pipeline : Pipeline Caller) : List TempDataMsg :=
  pipeline.work.waiting.map pipeline.workPool

theorem Pipeline.attempted_enqueue (pipeline : Pipeline Caller) (msg : TempDataMsg) :
    (pipeline.tempDataEnqueue msg).attempted = pipeline.attempted ++ [msg] := by
  rcases pipeline.tempDataEnqueue_cases msg with ⟨_, equal⟩ | ⟨_, equal⟩
  · rw [equal]
    exact List.map_append
  · rw [equal]
    exact List.map_append

/-- The queue delivers what was put, and refuses a message only when it is full. -/
structure Pipeline.QueueKeeps (pipeline : Pipeline Caller) : Prop where
  delivered : pipeline.received ++ pipeline.msgq = pipeline.queuedEver
  bounded : pipeline.msgq.length ≤ tempMsgQueueSize
  refused : ∀ put ∈ pipeline.puts, put.ok = false ↔ put.held = tempMsgQueueSize

theorem Pipeline.QueueKeeps.enqueue {pipeline : Pipeline Caller} (keeps : pipeline.QueueKeeps)
    (msg : TempDataMsg) : (pipeline.tempDataEnqueue msg).QueueKeeps := by
  rcases pipeline.tempDataEnqueue_cases msg with ⟨room, equal⟩ | ⟨full, equal⟩
  · rw [equal]
    refine { delivered := ?_, bounded := ?_, refused := ?_ }
    · unfold Pipeline.queuedEver
      rw [List.filter_append, List.map_append, ← List.append_assoc, keeps.delivered]
      rfl
    · rw [List.length_append]
      exact room
    · intro put member
      rcases List.mem_append.1 member with before | now
      · exact keeps.refused put before
      · rw [List.mem_singleton.1 now]
        exact iff_of_false (fun impossible => by cases impossible) (Nat.ne_of_lt room)
  · rw [equal]
    refine { delivered := ?_, bounded := keeps.bounded, refused := ?_ }
    · unfold Pipeline.queuedEver
      rw [List.filter_append, List.map_append, keeps.delivered]
      exact (List.append_nil _).symm
    · intro put member
      rcases List.mem_append.1 member with before | now
      · exact keeps.refused put before
      · rw [List.mem_singleton.1 now]
        exact iff_of_true rfl (Nat.le_antisymm keeps.bounded (Nat.le_of_not_lt full))

theorem queueKeeps_boot : (Pipeline.boot Caller).QueueKeeps :=
  { delivered := rfl
    bounded := Nat.zero_le _
    refused := by
      intro put member
      cases member }

section Callers

variable [DecidableEq Caller]

theorem Pipeline.QueueKeeps.step {pipeline next : Pipeline Caller} (keeps : pipeline.QueueKeeps)
    {action : PipelineAction Caller} (stepped : pipeline.step action = some next) :
    next.QueueKeeps := by
  cases action with
  | uiWorkQueueInit =>
      rcases Pipeline.uiWorkQueueInit_cases stepped with ⟨_, rfl⟩
      exact ⟨keeps.delivered, keeps.bounded, keeps.refused⟩
  | call caller msg =>
      rcases Pipeline.call_cases stepped with ⟨_, ⟨_, rfl⟩ | ⟨_, rfl⟩⟩
      · exact ⟨keeps.delivered, keeps.bounded, keeps.refused⟩
      · exact ⟨keeps.delivered, keeps.bounded, keeps.refused⟩
  | check caller =>
      rcases Pipeline.check_cases stepped with ⟨_, _, _, ⟨_, _, rfl⟩ | ⟨_, _, rfl⟩ | ⟨_, rfl⟩⟩
      · exact ⟨keeps.delivered, keeps.bounded, keeps.refused⟩
      · exact ⟨keeps.delivered, keeps.bounded, keeps.refused⟩
      · exact ⟨keeps.delivered, keeps.bounded, keeps.refused⟩
  | copy caller =>
      rcases Pipeline.copy_cases stepped with ⟨_, _, _, rfl⟩
      exact ⟨keeps.delivered, keeps.bounded, keeps.refused⟩
  | submit caller =>
      rcases Pipeline.submit_cases stepped with ⟨_, _, _, rfl⟩
      exact ⟨keeps.delivered, keeps.bounded, keeps.refused⟩
  | dequeue =>
      rcases Pipeline.dequeue_cases stepped with ⟨_, _, rfl⟩
      exact ⟨keeps.delivered, keeps.bounded, keeps.refused⟩
  | put =>
      rcases Pipeline.put_cases stepped with ⟨slot, _, _, rfl⟩
      have after := keeps.enqueue (pipeline.workPool slot)
      exact ⟨after.delivered, after.bounded, after.refused⟩
  | finish =>
      rcases Pipeline.finish_cases stepped with ⟨_, _, rfl⟩
      exact ⟨keeps.delivered, keeps.bounded, keeps.refused⟩
  | get =>
      rcases Pipeline.get_cases stepped with ⟨msg, rest, queued, rfl⟩
      have delivered := keeps.delivered
      have bounded := keeps.bounded
      rw [queued] at delivered bounded
      refine { delivered := ?_, bounded := Nat.le_of_succ_le bounded, refused := keeps.refused }
      rw [List.append_assoc]
      exact delivered

end Callers

/-! ### The work queue and its pool -/

/-- The slot copied into waits for no put and was not just copied into by another
thread that has still to submit it. -/
def SlotUndisturbed (pipeline : Pipeline Caller) : PipelineAction Caller → Prop
  | .copy caller =>
      ∀ slot msg, pipeline.caller caller = .copying slot msg →
        slot ∉ pipeline.work.waiting ∧
          ∀ other otherMsg, pipeline.caller other ≠ .submitting slot otherMsg
  | _ => True

/-- The puts done and due are the accepted messages in order, and a thread about
to submit a slot alone has its message in it. -/
structure Pipeline.InOrder (pipeline : Pipeline Caller) : Prop where
  order : pipeline.attempted ++ pipeline.pending = pipeline.accepted
  claimed : ∀ caller slot msg, pipeline.caller caller = .submitting slot msg →
    pipeline.workPool slot = msg ∧ slot ∉ pipeline.work.waiting ∧
      ∀ other otherMsg, pipeline.caller other = .submitting slot otherMsg → other = caller

theorem inOrder_boot : (Pipeline.boot Caller).InOrder :=
  { order := rfl
    claimed := by
      intro caller slot msg here
      cases here }

theorem Pipeline.pending_act {pipeline : Pipeline Caller} {slot : Fin uiWorkPoolSize}
    {work : WorkQueue (Fin uiWorkPoolSize)} (acted : pipeline.work.act = some (slot, work)) :
    pipeline.pending = pipeline.workPool slot :: work.waiting.map pipeline.workPool := by
  unfold Pipeline.pending
  rw [WorkQueue.act_waiting acted]
  rfl

theorem Pipeline.InOrder.pending_submit {pipeline : Pipeline Caller} (inOrder : pipeline.InOrder)
    {caller : Caller} {slot : Fin uiWorkPoolSize} {msg : TempDataMsg}
    (here : pipeline.caller caller = .submitting slot msg) :
    (pipeline.work.submit slot).waiting.map pipeline.workPool = pipeline.pending ++ [msg] := by
  rcases inOrder.claimed caller slot msg here with ⟨holds, idle, -⟩
  rw [WorkQueue.submit_waiting idle, List.map_append, List.map_singleton, holds]
  rfl

private theorem InOrder.put {pipeline next : Pipeline Caller} (inOrder : pipeline.InOrder)
    (stepped : pipeline.put = some next) : next.InOrder := by
  rcases Pipeline.put_cases stepped with ⟨slot, work, acted, rfl⟩
  have waitingEq := WorkQueue.act_waiting acted
  have order := inOrder.order
  have claimed := inOrder.claimed
  unfold Pipeline.pending at order
  rw [waitingEq] at order claimed
  have later : ∀ caller otherSlot msg, pipeline.caller caller = .submitting otherSlot msg →
      pipeline.workPool otherSlot = msg ∧ otherSlot ∉ work.waiting ∧
        ∀ other otherMsg, pipeline.caller other = .submitting otherSlot otherMsg →
          other = caller := by
    intro caller otherSlot msg here
    rcases claimed caller otherSlot msg here with ⟨holds, idle, alone⟩
    exact ⟨holds, fun waits => idle (List.mem_cons_of_mem slot waits), alone⟩
  obtain ⟨sameCaller, samePool, sameReturns⟩ :=
    pipeline.tempDataEnqueue_frame (pipeline.workPool slot)
  refine { order := ?_, claimed := ?_ }
  · change (pipeline.tempDataEnqueue _).attempted ++
      work.waiting.map (pipeline.tempDataEnqueue _).workPool = _
    rw [Pipeline.attempted_enqueue, samePool, List.append_assoc]
    unfold Pipeline.accepted
    rw [sameReturns]
    exact order
  · intro caller otherSlot msg here
    rw [sameCaller] at here ⊢
    rw [samePool]
    exact later caller otherSlot msg here

private theorem InOrder.work {pipeline : Pipeline Caller} (inOrder : pipeline.InOrder)
    {work : WorkQueue PoolSlot} (same : work.waiting = pipeline.work.waiting) :
    Pipeline.InOrder { pipeline with work := work } := by
  refine { order := ?_, claimed := ?_ }
  · change pipeline.attempted ++ work.waiting.map pipeline.workPool = pipeline.accepted
    rw [same]
    exact inOrder.order
  · change ∀ caller slot msg, pipeline.caller caller = .submitting slot msg →
      pipeline.workPool slot = msg ∧ slot ∉ work.waiting ∧ _
    rw [same]
    exact inOrder.claimed

section Callers

variable [DecidableEq Caller]

private theorem claimed_move {pipeline : Pipeline Caller} (inOrder : pipeline.InOrder)
    (caller : Caller) (state : CallerState) (elsewhere : ∀ slot msg, state ≠ .submitting slot msg) :
    ∀ other slot msg, (pipeline.moveCaller caller state).caller other = .submitting slot msg →
      pipeline.workPool slot = msg ∧ slot ∉ pipeline.work.waiting ∧
        ∀ third thirdMsg, (pipeline.moveCaller caller state).caller third =
          .submitting slot thirdMsg → third = other := by
  have old : ∀ other slot msg,
      (pipeline.moveCaller caller state).caller other = .submitting slot msg →
        pipeline.caller other = .submitting slot msg := by
    intro other slot msg here
    change Function.update pipeline.caller caller state other = _ at here
    by_cases same : other = caller
    · subst other
      rw [Function.update_self] at here
      exact absurd here (elsewhere slot msg)
    · rw [Function.update_of_ne same] at here
      exact here
  intro other slot msg here
  rcases inOrder.claimed other slot msg (old other slot msg here) with ⟨holds, idle, alone⟩
  exact ⟨holds, idle, fun third thirdMsg there =>
        alone third thirdMsg (old third slot thirdMsg there)⟩

private theorem accepted_leave (pipeline : Pipeline Caller) (caller : Caller) (msg : TempDataMsg)
    {ret : Int} (failed : ret ≠ 0) :
    (pipeline.leave caller msg ret).accepted = pipeline.accepted := by
  change List.map Prod.fst (List.filter _ (pipeline.returns ++ [(msg, ret)])) = _
  rw [List.filter_append, List.filter_cons_of_neg (by simpa using failed), List.filter_nil,
    List.append_nil]
  rfl

private theorem accepted_leave_zero (pipeline : Pipeline Caller) (caller : Caller)
    (msg : TempDataMsg) : (pipeline.leave caller msg 0).accepted = pipeline.accepted ++ [msg] := by
  change List.map Prod.fst (List.filter _ (pipeline.returns ++ [(msg, 0)])) = _
  rw [List.filter_append, List.map_append]
  rfl

private theorem InOrder.copy {pipeline next : Pipeline Caller} (inOrder : pipeline.InOrder)
    {caller : Caller} (undisturbed : SlotUndisturbed pipeline (.copy caller))
    (stepped : pipeline.copy caller = some next) : next.InOrder := by
  rcases Pipeline.copy_cases stepped with ⟨slot, msg, here, rfl⟩
  rcases undisturbed slot msg here with ⟨idle, alone⟩
  refine { order := ?_, claimed := ?_ }
  · have same : ∀ other ∈ pipeline.work.waiting,
        Function.update pipeline.workPool slot msg other = pipeline.workPool other := by
      intro other waits
      apply Function.update_of_ne
      intro equal
      exact idle (equal ▸ waits)
    change pipeline.attempted ++ pipeline.work.waiting.map _ = pipeline.accepted
    rw [List.map_congr_left same]
    exact inOrder.order
  · intro other otherSlot otherMsg there
    change Function.update pipeline.caller caller (.submitting slot msg) other = _ at there
    change Function.update pipeline.workPool slot msg otherSlot = otherMsg ∧ _ ∧
      ∀ third thirdMsg, Function.update pipeline.caller caller (.submitting slot msg) third =
        .submitting otherSlot thirdMsg → third = other
    by_cases own : other = caller
    · subst other
      rw [Function.update_self] at there
      cases there
      refine ⟨Function.update_self _ _ _, idle, fun third thirdMsg also => ?_⟩
      by_contra different
      rw [Function.update_of_ne different] at also
      exact alone third thirdMsg also
    · rw [Function.update_of_ne own] at there
      rcases inOrder.claimed other otherSlot otherMsg there with ⟨holds, free, only⟩
      have otherSlotNe : otherSlot ≠ slot := by
        intro equal
        subst otherSlot
        exact alone other otherMsg there
      refine ⟨(Function.update_of_ne otherSlotNe _ _).trans holds, free,
        fun third thirdMsg also => ?_⟩
      by_cases mine : third = caller
      · subst third
        rw [Function.update_self] at also
        cases also
        exact absurd rfl otherSlotNe
      · rw [Function.update_of_ne mine] at also
        exact only third thirdMsg also

private theorem InOrder.submit {pipeline next : Pipeline Caller} (inOrder : pipeline.InOrder)
    {caller : Caller} (stepped : pipeline.submit caller = some next) : next.InOrder := by
  rcases Pipeline.submit_cases stepped with ⟨slot, msg, here, rfl⟩
  rcases inOrder.claimed caller slot msg here with ⟨holds, idle, alone⟩
  have waitingEq := WorkQueue.submit_waiting idle
  refine { order := ?_, claimed := ?_ }
  · change pipeline.attempted ++ (pipeline.work.submit slot).waiting.map pipeline.workPool =
      (pipeline.leave caller msg 0).accepted
    rw [accepted_leave_zero, inOrder.pending_submit here, ← List.append_assoc, inOrder.order]
  · intro other otherSlot otherMsg there
    obtain ⟨otherHolds, otherIdle, only⟩ :=
      claimed_move inOrder caller .idle (fun _ _ impossible => by cases impossible) other otherSlot
        otherMsg there
    refine ⟨otherHolds, ?_, only⟩
    rw [waitingEq, List.mem_append, List.mem_singleton, not_or]
    refine ⟨otherIdle, ?_⟩
    intro equal
    subst otherSlot
    change Function.update pipeline.caller caller .idle other = _ at there
    by_cases own : other = caller
    · subst other
      rw [Function.update_self] at there
      cases there
    · rw [Function.update_of_ne own] at there
      exact own (alone other otherMsg there)

theorem Pipeline.InOrder.step {pipeline next : Pipeline Caller} (inOrder : pipeline.InOrder)
    {action : PipelineAction Caller} (undisturbed : SlotUndisturbed pipeline action)
    (stepped : pipeline.step action = some next) : next.InOrder := by
  cases action with
  | uiWorkQueueInit =>
      rcases Pipeline.uiWorkQueueInit_cases stepped with ⟨_, rfl⟩
      exact ⟨inOrder.order, inOrder.claimed⟩
  | call caller msg =>
      rcases Pipeline.call_cases stepped with ⟨_, ⟨_, rfl⟩ | ⟨_, rfl⟩⟩
      · exact ⟨inOrder.order, claimed_move inOrder _ _ fun _ _ impossible => by cases impossible⟩
      · refine ⟨?_, claimed_move inOrder _ _ fun _ _ impossible => by cases impossible⟩
        rw [accepted_leave _ _ _ (by decide)]
        exact inOrder.order
  | check caller =>
      rcases Pipeline.check_cases stepped with ⟨_, msg, _, ⟨_, _, rfl⟩ | ⟨_, _, rfl⟩ | ⟨_, rfl⟩⟩
      · exact ⟨inOrder.order, claimed_move inOrder _ _ fun _ _ impossible => by cases impossible⟩
      · refine ⟨?_, claimed_move inOrder _ _ fun _ _ impossible => by cases impossible⟩
        rw [accepted_leave _ _ _ (by decide)]
        exact inOrder.order
      · exact ⟨inOrder.order, claimed_move inOrder _ _ fun _ _ impossible => by cases impossible⟩
  | copy caller => exact InOrder.copy inOrder undisturbed stepped
  | submit caller => exact InOrder.submit inOrder stepped
  | dequeue =>
      rcases Pipeline.dequeue_cases stepped with ⟨_, started, rfl⟩
      exact InOrder.work inOrder (WorkQueue.start_waiting started)
  | put => exact InOrder.put inOrder stepped
  | finish =>
      rcases Pipeline.finish_cases stepped with ⟨_, finished, rfl⟩
      exact InOrder.work inOrder (WorkQueue.finish_waiting finished)
  | get =>
      rcases Pipeline.get_cases stepped with ⟨_, _, _, rfl⟩
      exact ⟨inOrder.order, inOrder.claimed⟩

theorem Pipeline.InOrder.pending_copy {pipeline next : Pipeline Caller}
    (inOrder : pipeline.InOrder) {caller : Caller}
    (undisturbed : SlotUndisturbed pipeline (.copy caller))
    (stepped : pipeline.copy caller = some next) : next.pending = pipeline.pending := by
  have order := (inOrder.step undisturbed stepped).order
  rcases Pipeline.copy_cases stepped with ⟨slot, msg, -, rfl⟩
  exact List.append_cancel_left (order.trans inOrder.order.symm)

/-! ### Several callers -/

def WorkerOnly (actions : List (PipelineAction Caller)) : Prop :=
  ∀ action ∈ actions, action = .dequeue ∨ action = .put ∨ action = .finish

def Pipeline.Drains (pipeline : Pipeline Caller) : Prop :=
  ∃ actions later, WorkerOnly actions ∧
    (pipelineMachine Caller).run pipeline actions = some later ∧
    later.attempted = pipeline.attempted ++ pipeline.pending ∧
    later.accepted = pipeline.accepted

private theorem drains_step {pipeline next : Pipeline Caller} {action : PipelineAction Caller}
    (worker : action = .dequeue ∨ action = .put ∨ action = .finish)
    (stepped : pipeline.step action = some next)
    (same : next.attempted ++ next.pending = pipeline.attempted ++ pipeline.pending)
    (accepted : next.accepted = pipeline.accepted) (later : next.Drains) : pipeline.Drains := by
  rcases later with ⟨actions, final, only, ran, attempts, kept⟩
  refine ⟨action :: actions, final, ?_, ?_, attempts.trans same, kept.trans accepted⟩
  · intro other member
    rcases List.mem_cons.1 member with rfl | rest
    · exact worker
    · exact only other rest
  · exact ((pipelineMachine Caller).run_cons_eq_some _ _ _ _).2 ⟨next, stepped, ran⟩

omit [DecidableEq Caller] in
private theorem put_same {pipeline next : Pipeline Caller} (stepped : pipeline.put = some next) :
    next.attempted ++ next.pending = pipeline.attempted ++ pipeline.pending ∧
      next.accepted = pipeline.accepted := by
  rcases Pipeline.put_cases stepped with ⟨slot, work, acted, rfl⟩
  rcases pipeline.tempDataEnqueue_frame (pipeline.workPool slot) with ⟨_, samePool, sameReturns⟩
  constructor
  · change (pipeline.tempDataEnqueue _).attempted ++
      work.waiting.map (pipeline.tempDataEnqueue _).workPool = _
    unfold Pipeline.pending
    rw [Pipeline.attempted_enqueue, samePool, List.append_assoc, WorkQueue.act_waiting acted]
    rfl
  · unfold Pipeline.accepted
    rw [sameReturns]

theorem Pipeline.drains (pipeline : Pipeline Caller) : pipeline.Drains := by
  induction count : pipeline.work.remaining generalizing pipeline with
  | zero =>
      rcases pipeline.work.progress with
        ⟨_, nothing⟩ | ⟨_, _, less⟩ | ⟨_, _, _, less⟩ | ⟨_, _, less⟩
      · refine ⟨[], pipeline, List.forall_mem_nil _, rfl, ?_, rfl⟩
        unfold Pipeline.pending
        rw [nothing, List.map_nil, List.append_nil]
      · omega
      · omega
      · omega
  | succ steps ih =>
      rcases pipeline.work.progress with
        ⟨none, _⟩ | ⟨work, started, less⟩ | ⟨slot, work, acted, less⟩ | ⟨work, finished, less⟩
      · omega
      · have stepped : pipeline.dequeue = some { pipeline with work := work } := by
          rw [Pipeline.dequeue, started]
          rfl
        refine drains_step (Or.inl rfl) stepped ?_ rfl (ih _ ?_)
        · change _ ++ work.waiting.map _ = _
          rw [WorkQueue.start_waiting started]
          rfl
        · change work.remaining = steps
          omega
      · have stepped : pipeline.put =
            some { pipeline.tempDataEnqueue (pipeline.workPool slot) with work := work } := by
          rw [Pipeline.put, acted]
          rfl
        rcases put_same stepped with ⟨same, accepted⟩
        refine drains_step (Or.inr (Or.inl rfl)) stepped same accepted (ih _ ?_)
        change work.remaining = steps
        omega
      · have stepped : pipeline.finish = some { pipeline with work := work } := by
          rw [Pipeline.finish, finished]
          rfl
        refine drains_step (Or.inr (Or.inr rfl)) stepped ?_ rfl (ih _ ?_)
        · change _ ++ work.waiting.map _ = _
          rw [WorkQueue.finish_waiting finished]
          rfl
        · change work.remaining = steps
          omega

/-- Every accepted message was put once or is due to be put once, and no other
message was put or is due; and the worker gets there from here. -/
structure Pipeline.OnePutEach (pipeline : Pipeline Caller) : Prop where
  accounted : (pipeline.attempted ++ pipeline.pending).Perm pipeline.accepted
  drains : ∃ actions later, WorkerOnly actions ∧
    (pipelineMachine Caller).run pipeline actions = some later ∧
    later.accepted = pipeline.accepted ∧ later.attempted.Perm later.accepted

/-- In every run in which no copy disturbs a slot, each call that returned zero
leads to exactly one put of its message. -/
theorem undisturbed_run_onePutEach (actions : List (PipelineAction Caller))
    (undisturbed :
      (pipelineMachine Caller).Guarded SlotUndisturbed (Pipeline.boot Caller) actions) :
    (pipelineMachine Caller).Always Pipeline.OnePutEach (Pipeline.boot Caller) actions := by
  have inOrder := (pipelineMachine Caller).always_of_guarded Pipeline.InOrder SlotUndisturbed
    (fun _ _ _ before here stepped => before.step here stepped) _ actions inOrder_boot undisturbed
  refine (pipelineMachine Caller).always_mono (fun pipeline ordered => ?_) _ _ inOrder
  rcases pipeline.drains with ⟨worker, later, only, ran, attempts, accepted⟩
  rw [ordered.order] at attempts
  exact
    { accounted := List.Perm.of_eq ordered.order
      drains := ⟨worker, later, only, ran, accepted,
        List.Perm.of_eq (attempts.trans accepted.symm)⟩ }

end Callers

def CallerState.claims (slot : PoolSlot) : CallerState → Bool
  | .submitting claimed _ => claimed = slot
  | _ => false

theorem CallerState.claims_eq_false {state : CallerState} {slot : PoolSlot} :
    state.claims slot = false ↔ ∀ msg, state ≠ .submitting slot msg := by
  cases state with
  | submitting claimed msg =>
      constructor
      · rintro apart other same
        cases same
        exact absurd rfl (of_decide_eq_false apart)
      · intro apart
        exact decide_eq_false fun same => apart msg (same ▸ rfl)
  | _ => exact iff_of_true rfl fun msg => CallerState.noConfusion

def Pipeline.decideUndisturbed [Fintype Caller] (pipeline : Pipeline Caller) :
    ∀ action, Decidable (SlotUndisturbed pipeline action)
  | .copy caller =>
      match here : pipeline.caller caller with
      | .copying slot msg =>
          decidable_of_iff (slot ∉ pipeline.work.waiting ∧
              ∀ other, (pipeline.caller other).claims slot = false) <| by
            simp only [CallerState.claims_eq_false]
            constructor
            · rintro free found other there
              cases here.symm.trans there
              exact free
            · intro undisturbed
              exact undisturbed slot msg here
      | .idle => isTrue fun slot msg there => nomatch here.symm.trans there
      | .checking _ _ => isTrue fun slot msg there => nomatch here.symm.trans there
      | .submitting _ _ => isTrue fun slot msg there => nomatch here.symm.trans there
  | .uiWorkQueueInit => isTrue trivial
  | .call _ _ => isTrue trivial
  | .check _ => isTrue trivial
  | .submit _ => isTrue trivial
  | .dequeue => isTrue trivial
  | .put => isTrue trivial
  | .finish => isTrue trivial
  | .get => isTrue trivial

instance [Fintype Caller] (pipeline : Pipeline Caller) (action : PipelineAction Caller) :
    Decidable (SlotUndisturbed pipeline action) :=
  pipeline.decideUndisturbed action

def messageAt (timestamp : Int) : TempDataMsg := { TempDataMsg.zero with timestamp := timestamp }

/-- Two threads call at the same time. The second copies while the first one's slot waits
for its put; the first takes that slot again while the second one's is not submitted. -/
def sharedPoolRun : List (PipelineAction Bool) :=
  [.uiWorkQueueInit, .call true (messageAt 1), .call false (messageAt 2), .check true, .copy true,
    .submit true, .check false, .check false, .copy false, .dequeue, .put, .finish,
    .call true (messageAt 3), .check true, .copy true, .submit true, .submit false, .dequeue,
    .put, .finish, .dequeue, .put, .finish]

theorem sharedPoolRun_onePutEach :
    ((pipelineMachine Bool).run (Pipeline.boot Bool) sharedPoolRun).map Pipeline.attempted =
        some [messageAt 1, messageAt 3, messageAt 2] ∧
      (pipelineMachine Bool).Always Pipeline.OnePutEach (Pipeline.boot Bool) sharedPoolRun :=
  ⟨by decide +kernel, undisturbed_run_onePutEach sharedPoolRun (by decide +kernel)⟩

def collidingRun (first second : TempDataMsg) : List (PipelineAction Bool) :=
  [.uiWorkQueueInit, .call true first, .call false second, .check true, .check false,
    .copy true, .copy false, .submit true, .submit false]

theorem collidingRun_not_onePutEach :
    ¬(pipelineMachine Bool).Always Pipeline.OnePutEach (Pipeline.boot Bool)
      (collidingRun (messageAt 1) (messageAt 2)) := by
  intro along
  have final := (pipelineMachine Bool).always_last along rfl
  have lengths := final.accounted.length_eq
  change 1 = 2 at lengths
  omega

/-! ### One caller -/

def Pipeline.SlotFree (pipeline : Pipeline Unit) : Prop :=
  ∀ slot msg, pipeline.caller () = .copying slot msg → pipeline.work.busy slot = false

theorem Pipeline.SlotFree.undisturbed {pipeline : Pipeline Unit} (free : pipeline.SlotFree)
    (action : PipelineAction Unit) : SlotUndisturbed pipeline action := by
  cases action with
  | copy caller =>
      intro slot msg here
      refine ⟨fun waits => ?_, fun other otherMsg there => ?_⟩
      · have busy := WorkQueue.busy_of_waiting waits
        rw [free slot msg here] at busy
        cases busy
      · have both := there.symm.trans here
        cases both
  | _ => trivial

theorem Pipeline.SlotFree.step {pipeline next : Pipeline Unit} (free : pipeline.SlotFree)
    {action : PipelineAction Unit} (stepped : pipeline.step action = some next) :
    next.SlotFree := by
  cases action with
  | uiWorkQueueInit =>
      rcases Pipeline.uiWorkQueueInit_cases stepped with ⟨_, rfl⟩
      exact free
  | call caller msg =>
      rcases Pipeline.call_cases stepped with ⟨_, ⟨_, rfl⟩ | ⟨_, rfl⟩⟩
      · intro slot other here
        cases here
      · intro slot other here
        cases here
  | check caller =>
      rcases Pipeline.check_cases stepped with
        ⟨own, msg, _, ⟨_, _, rfl⟩ | ⟨_, _, rfl⟩ | ⟨idle, rfl⟩⟩
      · intro slot other here
        cases here
      · intro slot other here
        cases here
      · intro slot other here
        cases here
        exact idle
  | copy caller =>
      rcases Pipeline.copy_cases stepped with ⟨_, _, _, rfl⟩
      intro slot other here
      cases here
  | submit caller =>
      rcases Pipeline.submit_cases stepped with ⟨_, _, _, rfl⟩
      intro slot other here
      cases here
  | dequeue =>
      rcases Pipeline.dequeue_cases stepped with ⟨_, started, rfl⟩
      intro slot msg here
      exact WorkQueue.start_busy started (free slot msg here)
  | put =>
      rcases Pipeline.put_cases stepped with ⟨acting, _, acted, rfl⟩
      rcases pipeline.tempDataEnqueue_frame (pipeline.workPool acting) with ⟨sameCaller, _, _⟩
      intro slot msg here
      have before := congrFun sameCaller ()
      exact (WorkQueue.act_busy acted).trans (free slot msg (before.symm.trans here))
  | finish =>
      rcases Pipeline.finish_cases stepped with ⟨_, finished, rfl⟩
      intro slot msg here
      exact WorkQueue.finish_busy finished (free slot msg here)
  | get =>
      rcases Pipeline.get_cases stepped with ⟨_, _, _, rfl⟩
      exact free

def survivors : List TempDataMsg → List PutAttempt → List TempDataMsg
  | accepted, [] => accepted
  | [], _ :: _ => []
  | msg :: accepted, put :: puts =>
      if put.ok then msg :: survivors accepted puts else survivors accepted puts

theorem survivors_attempted (puts : List PutAttempt) (pending : List TempDataMsg) :
    survivors (puts.map PutAttempt.msg ++ pending) puts =
      (puts.filter PutAttempt.ok).map PutAttempt.msg ++ pending := by
  induction puts with
  | nil =>
      cases pending with
      | nil => rfl
      | cons _ _ => rfl
  | cons put puts ih =>
      rw [List.map_cons, List.cons_append, survivors, ih]
      cases ok : put.ok with
      | false => simp [ok]
      | true => simp [ok]

/-- With one calling thread, what main received, what is queued and what is due
are the accepted messages in order, less the puts that found the queue full. -/
theorem reachable_pipeline_keeps_order {pipeline : Pipeline Unit}
    (reachable : (pipelineMachine Unit).Reachable pipeline) :
    pipeline.received ++ pipeline.msgq ++ pipeline.pending =
        survivors pipeline.accepted pipeline.puts ∧
      pipeline.attempted ++ pipeline.pending = pipeline.accepted ∧
      ∀ put ∈ pipeline.puts, put.ok = false ↔ put.held = tempMsgQueueSize := by
  have invariant : pipeline.InOrder ∧ pipeline.QueueKeeps ∧ pipeline.SlotFree := by
    apply Machine.Reachable.invariant _ _ _ reachable
    · exact ⟨inOrder_boot, queueKeeps_boot, fun slot msg here => by cases here⟩
    · intro state action next before stepped
      rcases before with ⟨inOrder, keeps, free⟩
      exact ⟨inOrder.step (free.undisturbed action) stepped, keeps.step stepped, free.step stepped⟩
  rcases invariant with ⟨inOrder, keeps, _⟩
  refine ⟨?_, inOrder.order, keeps.refused⟩
  rw [keeps.delivered, ← inOrder.order]
  exact (survivors_attempted pipeline.puts pipeline.pending).symm

/-- Thirty-one messages through the first slot of the pool, of which the last finds the
message queue full; then two are received. -/
def deliveredRun : List (PipelineAction Unit) :=
  .uiWorkQueueInit ::
    ((List.range 31).flatMap fun before =>
      [.call () (messageAt (before + 1)), .check (), .copy (), .submit (), .dequeue, .put,
        .finish]) ++ [.get, .get]

theorem deliveredRun_keeps_order :
    ∃ pipeline : Pipeline Unit,
      (pipelineMachine Unit).run (Pipeline.boot Unit) deliveredRun = some pipeline ∧
      pipeline.received = [messageAt 1, messageAt 2] ∧
      pipeline.puts.getLast? = some { msg := messageAt 31, held := 30, ok := false } ∧
      pipeline.received ++ pipeline.msgq ++ pipeline.pending =
        survivors pipeline.accepted pipeline.puts := by
  have computed : ((pipelineMachine Unit).run (Pipeline.boot Unit) deliveredRun).map
      (fun pipeline => (pipeline.received, pipeline.puts.getLast?)) =
        some ([messageAt 1, messageAt 2],
          some { msg := messageAt 31, held := 30, ok := false }) := by
    decide +kernel
  rcases Option.map_eq_some_iff.1 computed with ⟨pipeline, ran, equal⟩
  rcases Prod.mk.inj equal with ⟨received, last⟩
  exact ⟨pipeline, ran, received, last, (reachable_pipeline_keeps_order ⟨deliveredRun, ran⟩).1⟩

end ZephyrHomeHub.Hub
