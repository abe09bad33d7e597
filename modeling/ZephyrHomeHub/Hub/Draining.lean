import ZephyrHomeHub.Foundation.RankedProgress
import ZephyrHomeHub.Hub.Startup

/-! The hub after its last request. Each step of the CoAP thread, the work queue's
thread and the drain loop brings the messages nearer to the table, so however these
steps are scheduled, a bounded number of them leaves nothing on its way. -/

namespace ZephyrHomeHub.Hub

open Foundation.LabelledMachine Foundation.RankedProgress Foundation.SingleWorker

/-- The steps left in a call of `ui_update_submit` and after it. -/
def CallerState.rank : CallerState → Nat
  | .idle => 0
  | .checking slot _ => 17 - slot.val
  | .copying _ _ => 7
  | .submitting _ _ => 6

/-- A message due to be put costs two steps more than its handler, for `k_msgq_get`
and the body of the drain loop. -/
def Pipeline.rank (pipeline : Pipeline Unit) : Nat :=
  (pipeline.caller ()).rank + pipeline.work.remaining +
    2 * (pipeline.work.waiting.length + pipeline.msgq.length)

def StartedHub.rank (hub : StartedHub) : Nat :=
  hub.clocked.pipeline.rank + hub.clocked.held.toList.length

def StartedAction.drains : StartedAction → Bool
  | .thread _ => true
  | .msgqGet => true
  | .loopBody => true
  | _ => false

inductive HubThread where
  | coapServer
  | workQueue
  | main

def PipelineAction.turnOf : PipelineAction Unit → Option HubThread
  | .uiWorkQueueInit => none
  | .call _ _ => none
  | .check _ => some .coapServer
  | .copy _ => some .coapServer
  | .submit _ => some .coapServer
  | .dequeue => some .workQueue
  | .put => some .workQueue
  | .finish => some .workQueue
  | .get => some .main

def StartedAction.turnOf : StartedAction → Option HubThread
  | .thread step => step.action.turnOf
  | .msgqGet => some .main
  | .loopBody => some .main
  | _ => none

def StartedAction.NoPost : StartedAction → Prop
  | .post _ _ => False
  | _ => True

variable {pipeline next : Pipeline Unit}

theorem Pipeline.check_lowers (stepped : pipeline.check () = some next) :
    (next.caller ()).rank < (pipeline.caller ()).rank ∧ next.work = pipeline.work ∧
      next.msgq = pipeline.msgq := by
  rcases Pipeline.check_cases stepped with
    ⟨slot, msg, here, ⟨-, more, rfl⟩ | ⟨-, -, rfl⟩ | ⟨-, rfl⟩⟩
  · refine ⟨?_, rfl, rfl⟩
    rw [here]
    change 17 - (slot.val + 1) < 17 - slot.val
    have inPool : slot.val < 10 := slot.isLt
    omega
  · refine ⟨?_, rfl, rfl⟩
    rw [here]
    change 0 < 17 - slot.val
    have inPool : slot.val < 10 := slot.isLt
    omega
  · refine ⟨?_, rfl, rfl⟩
    rw [here]
    change 7 < 17 - slot.val
    have inPool : slot.val < 10 := slot.isLt
    omega

theorem Pipeline.copy_lowers (stepped : pipeline.copy () = some next) :
    (next.caller ()).rank < (pipeline.caller ()).rank ∧ next.work = pipeline.work ∧
      next.msgq = pipeline.msgq := by
  rcases Pipeline.copy_cases stepped with ⟨slot, msg, here, rfl⟩
  refine ⟨?_, rfl, rfl⟩
  rw [here]
  exact Nat.lt_succ_self 6

theorem Pipeline.rank_lt_of_caller (lower : (next.caller ()).rank < (pipeline.caller ()).rank)
    (work : next.work = pipeline.work) (msgq : next.msgq = pipeline.msgq) :
    next.rank < pipeline.rank := by
  unfold Pipeline.rank
  rw [work, msgq]
  exact Nat.add_lt_add_right (Nat.add_lt_add_right lower _) _

private theorem work_rank_lt {work : WorkQueue PoolSlot}
    (remaining : work.remaining + 1 = pipeline.work.remaining)
    (waiting : work.waiting = pipeline.work.waiting) :
    Pipeline.rank { pipeline with work := work } < pipeline.rank := by
  unfold Pipeline.rank
  rw [waiting, ← remaining]
  exact Nat.add_lt_add_right (Nat.lt_succ_self _) _

theorem submit_rank (work : WorkQueue PoolSlot) (slot : PoolSlot) :
    (work.submit slot).remaining + 2 * (work.submit slot).waiting.length ≤
      work.remaining + 2 * work.waiting.length + 5 := by
  rcases work.submit_cases slot with same | ⟨-, added⟩
  · rw [same]
    omega
  · rw [added]
    rcases work with ⟨queued, running⟩
    cases running with
    | none =>
        simp only [WorkQueue.remaining, WorkQueue.waiting, List.length_append,
          List.length_singleton]
        omega
    | some handler =>
        rcases handler with ⟨current, done⟩
        cases done <;>
          simp only [WorkQueue.remaining, WorkQueue.waiting, List.length_append,
            List.length_cons, List.length_nil] <;>
          omega

theorem tempDataEnqueue_length (pipeline : Pipeline Unit) (msg : TempDataMsg) :
    (pipeline.tempDataEnqueue msg).msgq.length ≤ pipeline.msgq.length + 1 := by
  rcases pipeline.tempDataEnqueue_cases msg with ⟨-, equal⟩ | ⟨-, equal⟩
  · rw [equal]
    exact Nat.le_of_eq List.length_append
  · rw [equal]
    exact Nat.le_succ _

theorem Pipeline.rank_step {step : ThreadStep} (own : step ≠ .uiWorkQueueInit)
    (stepped : pipeline.step step.action = some next) : next.rank < pipeline.rank := by
  cases step with
  | uiWorkQueueInit => exact absurd rfl own
  | check =>
      rcases Pipeline.check_lowers stepped with ⟨lower, work, msgq⟩
      exact Pipeline.rank_lt_of_caller lower work msgq
  | copy =>
      rcases Pipeline.copy_lowers stepped with ⟨lower, work, msgq⟩
      exact Pipeline.rank_lt_of_caller lower work msgq
  | submit =>
      rcases Pipeline.submit_cases stepped with ⟨slot, msg, here, rfl⟩
      have bound := submit_rank pipeline.work slot
      rw [Pipeline.rank, Pipeline.rank, here]
      change 0 + (pipeline.work.submit slot).remaining +
          2 * ((pipeline.work.submit slot).waiting.length + pipeline.msgq.length) <
        6 + pipeline.work.remaining +
          2 * (pipeline.work.waiting.length + pipeline.msgq.length)
      omega
  | dequeue =>
      rcases Pipeline.dequeue_cases stepped with ⟨work, started, rfl⟩
      exact work_rank_lt (WorkQueue.start_remaining started) (WorkQueue.start_waiting started)
  | put =>
      rcases Pipeline.put_cases stepped with ⟨slot, work, acted, rfl⟩
      have remaining := WorkQueue.act_remaining acted
      have waiting := congrArg List.length (WorkQueue.act_waiting acted)
      have queued := tempDataEnqueue_length pipeline (pipeline.workPool slot)
      have sameCaller := (pipeline.tempDataEnqueue_frame (pipeline.workPool slot)).1
      rw [List.length_cons] at waiting
      change ((pipeline.tempDataEnqueue (pipeline.workPool slot)).caller ()).rank +
          work.remaining + 2 * (work.waiting.length +
            (pipeline.tempDataEnqueue (pipeline.workPool slot)).msgq.length) <
        (pipeline.caller ()).rank + pipeline.work.remaining +
          2 * (pipeline.work.waiting.length + pipeline.msgq.length)
      rw [sameCaller]
      omega
  | finish =>
      rcases Pipeline.finish_cases stepped with ⟨work, finished, rfl⟩
      exact work_rank_lt (WorkQueue.finish_remaining finished) (WorkQueue.finish_waiting finished)

theorem Pipeline.rank_get {msg : TempDataMsg} {rest : List TempDataMsg}
    (queued : pipeline.msgq = msg :: rest) :
    Pipeline.rank { pipeline with msgq := rest, received := pipeline.received ++ [msg] } + 2 =
      pipeline.rank := by
  unfold Pipeline.rank
  rw [queued]
  rfl

/-! ### The started hub -/

variable {hub after : StartedHub}

theorem StartedHub.rank_lowers {action : StartedAction} (own : action.drains = true)
    (stepped : hub.step action = some after) : after.rank < hub.rank := by
  cases action with
  | thread step =>
      rcases StartedHub.thread_cases stepped with ⟨clocked, moved, rfl, notInit⟩
      rcases ClockedHub.within_cases moved with ⟨pipeline, same, rfl⟩
      exact Nat.add_lt_add_right (Pipeline.rank_step notInit same) _
  | msgqGet =>
      rcases StartedHub.msgqGet_cases stepped with ⟨clocked, -, moved, rfl⟩
      rcases ClockedHub.msgqGet_cases moved with ⟨msg, pipeline, free, got, -, -, rfl⟩
      rcases Pipeline.get_cases got with ⟨first, rest, queued, rfl⟩
      have lower := Pipeline.rank_get queued
      have before : hub.rank = hub.clocked.pipeline.rank := by
        rw [StartedHub.rank, free]
        rfl
      rw [before, ← lower]
      exact Nat.lt_succ_self _
  | loopBody =>
      rcases StartedHub.loopBody_cases stepped with ⟨msg, clocked, -, held, -, rfl, rfl⟩
      unfold StartedHub.rank
      rw [held]
      exact Nat.lt_succ_self _
  | _ => cases own

/-- In its loop `main` stays there, and what neither drains nor posts leaves the
messages where they are. -/
theorem StartedHub.looping_step {action : StartedAction} (looping : hub.phase = .looping)
    (stepped : hub.step action = some after) :
    after.phase = .looping ∧ (action.NoPost → action.drains = false →
      after.clocked.pipeline = hub.clocked.pipeline ∧ after.clocked.held = hub.clocked.held) := by
  cases action with
  | deviceIsReady ready =>
      have phase := (StartedHub.pass_cases stepped).1
      rw [looping] at phase
      cases phase
  | networkInit =>
      have phase := (StartedHub.networkInit_cases stepped).1
      rw [looping] at phase
      cases phase
  | networkConnect =>
      have phase := (StartedHub.pass_cases stepped).1
      rw [looping] at phase
      cases phase
  | waitForIpAddr =>
      rcases StartedHub.waitForIpAddr_cases stepped with ⟨wait, phase, -, -⟩
      rw [looping] at phase
      cases phase
  | uiWorkQueueInit =>
      rcases StartedHub.uiWorkQueueInit_cases stepped with ⟨clocked, phase, -, -⟩
      rw [looping] at phase
      cases phase
  | initGui =>
      have phase := (StartedHub.initGui_cases stepped).1
      rw [looping] at phase
      cases phase
  | ipv4AddrAdd =>
      cases stepped
      exact ⟨looping, fun _ _ => ⟨rfl, rfl⟩⟩
  | tick elapsed =>
      cases stepped
      exact ⟨looping, fun _ _ => ⟨rfl, rfl⟩⟩
  | post locals request =>
      rcases StartedHub.within_cases stepped with ⟨clocked, -, rfl⟩
      exact ⟨looping, fun noPost => noPost.elim⟩
  | thread step =>
      rcases StartedHub.thread_cases stepped with ⟨clocked, -, rfl, -⟩
      exact ⟨looping, fun _ other => nomatch other⟩
  | msgqGet =>
      rcases StartedHub.msgqGet_cases stepped with ⟨clocked, -, -, rfl⟩
      exact ⟨looping, fun _ other => nomatch other⟩
  | loopBody =>
      rcases StartedHub.loopBody_cases stepped with ⟨msg, clocked, -, -, -, -, rfl⟩
      exact ⟨looping, fun _ other => nomatch other⟩
  | tabEvent tabIdx =>
      change (if _ then some _ else none) = some after at stepped
      split at stepped
      · cases stepped
        exact ⟨looping, fun _ _ => ⟨rfl, rfl⟩⟩
      · cases stepped

theorem loop_ranked :
    Ranked startedMachine (fun hub => hub.phase = .looping) StartedAction.drains
      StartedAction.NoPost StartedHub.rank :=
  { lowers := fun _ _ _ _ own stepped => StartedHub.rank_lowers own stepped
    keeps := by
      intro hub action after looping noPost other stepped
      rcases (StartedHub.looping_step looping stepped).2 noPost other with ⟨pipeline, held⟩
      unfold StartedHub.rank
      rw [pipeline, held]
    preserves := fun _ _ _ looping _ stepped => (StartedHub.looping_step looping stepped).1
    quiet_of_lowering := by
      intro action own
      cases action with
      | post locals request => cases own
      | _ => trivial }

/-! ### Nothing on its way -/

structure StartedHub.Drained (hub : StartedHub) : Prop where
  idle : hub.clocked.pipeline.caller () = .idle
  pending : hub.clocked.pipeline.pending = []
  msgq : hub.clocked.pipeline.msgq = []
  held : hub.clocked.held = none

theorem CallerState.idle_of_rank {state : CallerState} (zero : state.rank = 0) : state = .idle := by
  cases state with
  | idle => rfl
  | checking slot msg =>
      have inPool : slot.val < 10 := slot.isLt
      change 17 - slot.val = 0 at zero
      omega
  | copying slot msg => cases zero
  | submitting slot msg => cases zero

theorem StartedHub.drained_of_rank (zero : hub.rank = 0) : hub.Drained := by
  unfold StartedHub.rank Pipeline.rank at zero
  have caller : (hub.clocked.pipeline.caller ()).rank = 0 := by omega
  have waiting : hub.clocked.pipeline.work.waiting.length = 0 := by omega
  have queued : hub.clocked.pipeline.msgq.length = 0 := by omega
  have held : hub.clocked.held.toList.length = 0 := by omega
  refine ⟨CallerState.idle_of_rank caller, ?_, List.length_eq_zero_iff.1 queued, ?_⟩
  · rw [Pipeline.pending, List.length_eq_zero_iff.1 waiting]
    rfl
  · exact Option.toList_eq_nil_iff.1 (List.length_eq_zero_iff.1 held)

theorem Pipeline.caller_goes_on (busy : 0 < (pipeline.caller ()).rank) :
    ∃ step, (ThreadStep.action step).turnOf = some HubThread.coapServer ∧
      (pipeline.step step.action).isSome = true := by
  cases here : pipeline.caller () with
  | idle =>
      rw [here] at busy
      cases busy
  | checking slot msg =>
      refine ⟨.check, rfl, ?_⟩
      change (pipeline.check ()).isSome = true
      unfold Pipeline.check
      simp only [here]
      split
      · split
        · rfl
        · rfl
      · rfl
  | copying slot msg =>
      refine ⟨.copy, rfl, ?_⟩
      change (pipeline.copy ()).isSome = true
      unfold Pipeline.copy
      simp only [here]
      rfl
  | submitting slot msg =>
      refine ⟨.submit, rfl, ?_⟩
      change (pipeline.submit ()).isSome = true
      unfold Pipeline.submit
      simp only [here]
      rfl

theorem Pipeline.work_goes_on (busy : 0 < pipeline.work.remaining) :
    ∃ step, (ThreadStep.action step).turnOf = some HubThread.workQueue ∧
      (pipeline.step step.action).isSome = true := by
  rcases pipeline.work.progress with ⟨none, -⟩ | ⟨work, started, -⟩ | ⟨slot, work, acted, -⟩ |
    ⟨work, finished, -⟩
  · omega
  · refine ⟨.dequeue, rfl, ?_⟩
    change pipeline.dequeue.isSome = true
    rw [Pipeline.dequeue, started]
    rfl
  · refine ⟨.put, rfl, ?_⟩
    change pipeline.put.isSome = true
    rw [Pipeline.put, acted]
    rfl
  · refine ⟨.finish, rfl, ?_⟩
    change pipeline.finish.isSome = true
    rw [Pipeline.finish, finished]
    rfl

theorem StartedHub.thread_goes_on {thread : HubThread}
    (goesOn : ∃ step, (ThreadStep.action step).turnOf = some thread ∧
      (hub.clocked.pipeline.step step.action).isSome = true) :
    ∃ action, StartedAction.turnOf action = some thread ∧ (hub.step action).isSome = true := by
  rcases goesOn with ⟨step, turn, stepped⟩
  have moved : (hub.within (hub.clocked.step (.thread step))).isSome = true := by
    change (Option.map _ (Option.map _ (hub.clocked.pipeline.step step.action))).isSome = true
    rw [Option.isSome_map, Option.isSome_map]
    exact stepped
  refine ⟨.thread step, turn, ?_⟩
  cases step with
  | uiWorkQueueInit => cases turn
  | _ => exact moved

theorem StartedHub.main_goes_on (looping : hub.phase = .looping)
    (busy : hub.clocked.held = none → hub.clocked.pipeline.msgq ≠ []) :
    ∃ action, StartedAction.turnOf action = some HubThread.main ∧
      (hub.step action).isSome = true := by
  cases held : hub.clocked.held with
  | some msg =>
      refine ⟨.loopBody, rfl, ?_⟩
      change hub.loopBody.isSome = true
      unfold StartedHub.loopBody ClockedHub.loopBody
      simp only [looping, held]
      rfl
  | none =>
      cases queued : hub.clocked.pipeline.msgq with
      | nil => exact absurd queued (busy held)
      | cons msg rest =>
          refine ⟨.msgqGet, rfl, ?_⟩
          change (if hub.phase = .looping then hub.within hub.clocked.msgqGet else none).isSome =
            true
          unfold ClockedHub.msgqGet Pipeline.get
          simp only [looping, if_true, held, queued]
          rfl

theorem StartedAction.drains_of_turn {action : StartedAction} {thread : HubThread}
    (turn : action.turnOf = some thread) : action.drains = true := by
  cases action with
  | thread step => rfl
  | msgqGet => rfl
  | loopBody => rfl
  | _ => cases turn

theorem StartedHub.drains_next (looping : hub.phase = .looping) (left : 0 < hub.rank) :
    ∃ action, action.drains = true ∧ (hub.step action).isSome = true := by
  have goesOn : ∃ thread action, StartedAction.turnOf action = some thread ∧
      (hub.step action).isSome = true := by
    by_cases waits : hub.clocked.held = none ∧ hub.clocked.pipeline.msgq = []
    · unfold StartedHub.rank Pipeline.rank at left
      rw [waits.1, waits.2] at left
      by_cases calling : 0 < (hub.clocked.pipeline.caller ()).rank
      · exact ⟨_, StartedHub.thread_goes_on (Pipeline.caller_goes_on calling)⟩
      · have busy : 0 < hub.clocked.pipeline.work.remaining := by
          have bound := hub.clocked.pipeline.work.waiting_le_remaining
          simp only [List.length_nil, Option.toList_none] at left
          omega
        exact ⟨_, StartedHub.thread_goes_on (Pipeline.work_goes_on busy)⟩
    · exact ⟨_, StartedHub.main_goes_on looping (not_and.1 waits)⟩
  rcases goesOn with ⟨thread, action, turn, possible⟩
  exact ⟨action, StartedAction.drains_of_turn turn, possible⟩

/-! ### The bound -/

def Pipeline.QueuedOnce (pipeline : Pipeline Unit) : Prop :=
  pipeline.work.queued.Nodup

theorem Pipeline.QueuedOnce.step (once : pipeline.QueuedOnce) {action : PipelineAction Unit}
    (stepped : pipeline.step action = some next) : next.QueuedOnce := by
  cases action with
  | uiWorkQueueInit =>
      rcases Pipeline.uiWorkQueueInit_cases stepped with ⟨-, rfl⟩
      exact once
  | call caller msg =>
      rcases Pipeline.call_cases stepped with ⟨-, ⟨-, rfl⟩ | ⟨-, rfl⟩⟩
      · exact once
      · exact once
  | check caller =>
      rcases Pipeline.check_cases stepped with ⟨slot, msg, -, ⟨-, -, rfl⟩ | ⟨-, -, rfl⟩ | ⟨-, rfl⟩⟩
      · exact once
      · exact once
      · exact once
  | copy caller =>
      rcases Pipeline.copy_cases stepped with ⟨slot, msg, -, rfl⟩
      exact once
  | submit caller =>
      rcases Pipeline.submit_cases stepped with ⟨slot, msg, -, rfl⟩
      exact WorkQueue.submit_nodup once slot
  | dequeue =>
      rcases Pipeline.dequeue_cases stepped with ⟨work, started, rfl⟩
      exact once.sublist (WorkQueue.start_queued started)
  | put =>
      rcases Pipeline.put_cases stepped with ⟨slot, work, acted, rfl⟩
      change work.queued.Nodup
      rw [WorkQueue.act_queued acted]
      exact once
  | finish =>
      rcases Pipeline.finish_cases stepped with ⟨work, finished, rfl⟩
      change work.queued.Nodup
      rw [WorkQueue.finish_queued finished]
      exact once
  | get =>
      rcases Pipeline.get_cases stepped with ⟨msg, rest, -, rfl⟩
      exact once

theorem queuedOnce_reachable (reachable : startedMachine.Reachable hub) :
    hub.clocked.pipeline.QueuedOnce ∧ hub.clocked.pipeline.QueueKeeps := by
  refine (clockedView.reachable reachable).invariant
    (fun clocked => clocked.pipeline.QueuedOnce ∧ clocked.pipeline.QueueKeeps)
    ⟨List.nodup_nil, queueKeeps_boot⟩ ?_
  rintro before action later ⟨once, keeps⟩ stepped
  rcases ClockedHub.pipeline_submits stepped with ⟨rests, -⟩ | ⟨inner, moved, -⟩
  · rw [rests]
    exact ⟨once, keeps⟩
  · exact ⟨once.step moved, keeps.step moved⟩

/-- Ten slots queued and one in the handler, thirty messages queued, one in the hands
of the drain loop, and one in a call that has just begun. -/
theorem StartedHub.rank_le (reachable : startedMachine.Reachable hub) : hub.rank ≤ 132 := by
  rcases queuedOnce_reachable reachable with ⟨once, keeps⟩
  have slots : hub.clocked.pipeline.work.queued.length ≤ 10 := by
    have fits := once.length_le_card
    rw [Fintype.card_fin] at fits
    exact fits
  have queued : hub.clocked.pipeline.msgq.length ≤ 30 := keeps.bounded
  have work := hub.clocked.pipeline.work.remaining_le
  have held : hub.clocked.held.toList.length ≤ 1 := by
    cases hub.clocked.held with
    | none => exact Nat.zero_le 1
    | some msg => exact Nat.le_refl 1
  have caller : (hub.clocked.pipeline.caller ()).rank ≤ 17 := by
    cases hub.clocked.pipeline.caller () with
    | idle => exact Nat.zero_le 17
    | checking slot msg => exact Nat.sub_le 17 slot.val
    | copying slot msg => exact Nat.le_add_left 7 10
    | submitting slot msg => exact Nat.le_add_left 6 11
  unfold StartedHub.rank Pipeline.rank
  omega

theorem reachable_accounted (reachable : startedMachine.Reachable hub) :
    hub.clocked.pipeline.accounted.Perm hub.clocked.pipeline.calls := by
  rcases clockedView.reachable reachable with ⟨actions, ran⟩
  have places := (clocked_sound_boot.stream_run ran).2
  have calls := ClockedHub.calls_run ran
  exact places.trans (List.Perm.of_eq calls.symm)

/-- With nothing on its way, the table is that of all messages received, and a message
whose call returned is received, refused or dropped. -/
theorem StartedHub.Drained.settled (drained : hub.Drained)
    (reachable : startedMachine.Reachable hub) :
    ∃ items : MessageSequence, hub.clocked.nodes = items.table ∧
      (items.map Prod.snd ++ (hub.clocked.pipeline.refused ++ hub.clocked.pipeline.dropped)).Perm
        (hub.clocked.pipeline.returns.map Prod.fst) := by
  rcases (reachable_prepared reachable).sound.table with ⟨items, table, received⟩
  have places := reachable_accounted reachable
  unfold Pipeline.accounted Pipeline.stream Pipeline.calls at places
  rw [drained.idle, drained.msgq, drained.pending] at places
  rw [drained.held] at received
  simp only [Option.toList_none, List.append_nil, CallerState.msgs] at received places
  exact ⟨items, table, received ▸ places⟩

theorem StartedHub.reaches_rest (looping : hub.phase = .looping) :
    ∃ actions final, (∀ action ∈ actions, StartedAction.drains action = true) ∧
      startedMachine.run hub actions = some final ∧ final.phase = .looping ∧ final.rank = 0 := by
  have goesOn : ∀ hub : StartedHub, hub.phase = .looping → 0 < hub.rank →
      ∃ action next, action.drains = true ∧ startedMachine.step hub action = some next := by
    intro hub looping left
    rcases StartedHub.drains_next looping left with ⟨action, own, possible⟩
    rcases Option.isSome_iff_exists.1 possible with ⟨next, stepped⟩
    exact ⟨action, next, own, stepped⟩
  exact loop_ranked.reaches_zero goesOn looping

theorem StartedHub.reaches_drained (looping : hub.phase = .looping) :
    ∃ actions final, (∀ action ∈ actions, StartedAction.drains action = true) ∧
      startedMachine.run hub actions = some final ∧ final.Drained := by
  rcases StartedHub.reaches_rest looping with ⟨actions, final, own, ran, -, zero⟩
  exact ⟨actions, final, own, ran, StartedHub.drained_of_rank zero⟩

/-- After the last request, in whatever order the threads of the hub go on: they take
at most 132 steps, they can go on while anything is on its way, and at the end each
message was dealt with by the drain loop, refused by `ui_update_submit` or dropped at a
full queue, in one of these once, and the table is the drain of those dealt with. -/
theorem looping_hub_drains (reachable : startedMachine.Reachable hub)
    (looping : hub.phase = .looping) :
    (∀ actions final, (∀ action ∈ actions, StartedAction.NoPost action) →
      startedMachine.run hub actions = some final →
      actions.countP StartedAction.drains ≤ 132 ∧
        ((∀ action, action.drains = true → final.step action = none) → final.Drained ∧
          ∃ items : MessageSequence, final.clocked.nodes = items.table ∧
            (items.map Prod.snd ++
              (final.clocked.pipeline.refused ++ final.clocked.pipeline.dropped)).Perm
                (final.clocked.pipeline.returns.map Prod.fst))) ∧
      ∃ actions final, (∀ action ∈ actions, StartedAction.drains action = true) ∧
        startedMachine.run hub actions = some final ∧ final.Drained := by
  constructor
  · intro actions final noPost ran
    have bound := loop_ranked.count_le looping noPost ran
    have limit := StartedHub.rank_le reachable
    refine ⟨by omega, ?_⟩
    intro stopped
    have drained : final.Drained := by
      refine StartedHub.drained_of_rank (Nat.eq_zero_of_not_pos ?_)
      intro left
      rcases StartedHub.drains_next (loop_ranked.run_invariant looping noPost ran) left with
        ⟨action, own, goesOn⟩
      rw [stopped action own] at goesOn
      cases goesOn
    exact ⟨drained, drained.settled (reachable.run ran)⟩
  · exact StartedHub.reaches_drained looping

def postedRun : List StartedAction :=
  loopingRun ++ wholeDelivery kitchenRequest ++ [.post noLocals gardenRequest]

theorem postedRun_drains :
    ∃ hub, startedMachine.run StartedHub.powerOn postedRun = some hub ∧
      hub.phase = .looping ∧ hub.rank = 17 ∧
      (∀ actions final, (∀ action ∈ actions, StartedAction.NoPost action) →
        startedMachine.run hub actions = some final →
        actions.countP StartedAction.drains ≤ 132 ∧
          ((∀ action, action.drains = true → final.step action = none) → final.Drained ∧
            ∃ items : MessageSequence, final.clocked.nodes = items.table ∧
              (items.map Prod.snd ++
                (final.clocked.pipeline.refused ++ final.clocked.pipeline.dropped)).Perm
                  (final.clocked.pipeline.returns.map Prod.fst))) ∧
      ∃ actions final, (∀ action ∈ actions, StartedAction.drains action = true) ∧
        startedMachine.run hub actions = some final ∧ final.Drained := by
  have computed : (startedMachine.run StartedHub.powerOn postedRun).map
      (fun hub => (hub.phase, hub.rank)) = some (.looping, 17) := by
    decide +kernel
  rcases Option.map_eq_some_iff.1 computed with ⟨hub, ran, equal⟩
  rcases Prod.mk.inj equal with ⟨looping, rank⟩
  exact ⟨hub, ran, looping, rank, looping_hub_drains ⟨postedRun, ran⟩ looping⟩

end ZephyrHomeHub.Hub
