import ZephyrHomeHub.Foundation.FairProgress
import ZephyrHomeHub.Hub.Draining

/-! The hub under requests that never stop. Each of its threads goes on some time where
it could go on for ever; nothing more is known of the scheduler. A message has those
before it in its way and no others, so it is refused, dropped or stored, however many
requests come after it. -/

namespace ZephyrHomeHub.Hub

open Foundation.FairProgress Foundation.LabelledMachine Foundation.SingleWorker

/-- The calls, returns, puts and receptions so far are the first ones later. -/
structure Pipeline.Extends (pipeline next : Pipeline Unit) : Prop where
  calls : pipeline.calls <+: next.calls
  returns : pipeline.returns <+: next.returns
  puts : pipeline.puts <+: next.puts
  received : pipeline.received <+: next.received

variable {pipeline next : Pipeline Unit}

theorem Pipeline.Extends.refl (pipeline : Pipeline Unit) : pipeline.Extends pipeline :=
  ⟨List.prefix_rfl, List.prefix_rfl, List.prefix_rfl, List.prefix_rfl⟩

theorem Pipeline.Extends.trans {first second third : Pipeline Unit}
    (earlier : first.Extends second) (later : second.Extends third) : first.Extends third :=
  { calls := earlier.calls.trans later.calls
    returns := earlier.returns.trans later.returns
    puts := earlier.puts.trans later.puts
    received := earlier.received.trans later.received }

theorem Pipeline.extends_step {action : PipelineAction Unit}
    (stepped : pipeline.step action = some next) : pipeline.Extends next := by
  have calls : pipeline.calls <+: next.calls := by
    rw [Pipeline.calls_step stepped]
    exact List.prefix_append _ _
  cases action with
  | uiWorkQueueInit =>
      rcases Pipeline.uiWorkQueueInit_cases stepped with ⟨-, rfl⟩
      exact ⟨calls, List.prefix_rfl, List.prefix_rfl, List.prefix_rfl⟩
  | call caller msg =>
      rcases Pipeline.call_cases stepped with ⟨-, ⟨-, rfl⟩ | ⟨-, rfl⟩⟩
      · exact ⟨calls, List.prefix_rfl, List.prefix_rfl, List.prefix_rfl⟩
      · exact ⟨calls, List.prefix_append _ _, List.prefix_rfl, List.prefix_rfl⟩
  | check caller =>
      rcases Pipeline.check_cases stepped with
        ⟨slot, msg, -, ⟨-, more, rfl⟩ | ⟨-, -, rfl⟩ | ⟨-, rfl⟩⟩
      · exact ⟨calls, List.prefix_rfl, List.prefix_rfl, List.prefix_rfl⟩
      · exact ⟨calls, List.prefix_append _ _, List.prefix_rfl, List.prefix_rfl⟩
      · exact ⟨calls, List.prefix_rfl, List.prefix_rfl, List.prefix_rfl⟩
  | copy caller =>
      rcases Pipeline.copy_cases stepped with ⟨slot, msg, -, rfl⟩
      exact ⟨calls, List.prefix_rfl, List.prefix_rfl, List.prefix_rfl⟩
  | submit caller =>
      rcases Pipeline.submit_cases stepped with ⟨slot, msg, -, rfl⟩
      exact ⟨calls, List.prefix_append _ _, List.prefix_rfl, List.prefix_rfl⟩
  | dequeue =>
      rcases Pipeline.dequeue_cases stepped with ⟨work, -, rfl⟩
      exact ⟨calls, List.prefix_rfl, List.prefix_rfl, List.prefix_rfl⟩
  | put =>
      rcases Pipeline.put_cases stepped with ⟨slot, work, -, rfl⟩
      rcases pipeline.tempDataEnqueue_cases (pipeline.workPool slot) with ⟨-, equal⟩ | ⟨-, equal⟩
      · rw [equal] at calls ⊢
        exact ⟨calls, List.prefix_rfl, List.prefix_append _ _, List.prefix_rfl⟩
      · rw [equal] at calls ⊢
        exact ⟨calls, List.prefix_rfl, List.prefix_append _ _, List.prefix_rfl⟩
  | finish =>
      rcases Pipeline.finish_cases stepped with ⟨work, -, rfl⟩
      exact ⟨calls, List.prefix_rfl, List.prefix_rfl, List.prefix_rfl⟩
  | get =>
      rcases Pipeline.get_cases stepped with ⟨msg, rest, -, rfl⟩
      exact ⟨calls, List.prefix_rfl, List.prefix_rfl, List.prefix_append _ _⟩

variable {hub after : StartedHub}

theorem StartedHub.pipeline_cases {action : StartedAction}
    (stepped : hub.step action = some after) :
    (after.clocked.pipeline = hub.clocked.pipeline ∧
        (action = .loopBody ∨ action.turnOf = none)) ∨
      ∃ inner, hub.clocked.pipeline.step inner = some after.clocked.pipeline ∧
        inner.turnOf = action.turnOf := by
  cases action with
  | uiWorkQueueInit =>
      rcases StartedHub.uiWorkQueueInit_cases stepped with ⟨clocked, -, initialised, rfl⟩
      rcases ClockedHub.within_cases initialised with ⟨pipeline, same, rfl⟩
      exact .inr ⟨_, same, rfl⟩
  | tick elapsed =>
      cases stepped
      exact .inl ⟨rfl, .inr rfl⟩
  | post locals request =>
      rcases StartedHub.within_cases stepped with ⟨clocked, called, rfl⟩
      rcases ClockedHub.within_cases called with ⟨pipeline, same, rfl⟩
      exact .inr ⟨_, same, rfl⟩
  | thread step =>
      rcases StartedHub.thread_cases stepped with ⟨clocked, moved, rfl, -⟩
      rcases ClockedHub.within_cases moved with ⟨pipeline, same, rfl⟩
      exact .inr ⟨_, same, rfl⟩
  | msgqGet =>
      rcases StartedHub.msgqGet_cases stepped with ⟨clocked, -, moved, rfl⟩
      rcases ClockedHub.msgqGet_cases moved with ⟨msg, pipeline, -, got, -, -, rfl⟩
      exact .inr ⟨_, got, rfl⟩
  | loopBody =>
      rcases StartedHub.loopBody_cases stepped with ⟨msg, clocked, -, -, -, rfl, rfl⟩
      exact .inl ⟨rfl, .inl rfl⟩
  | _ =>
      rcases StartedHub.clocked_cases stepped with ⟨-, same⟩ | ⟨inner, impossible, -⟩
      · rw [same]
        exact .inl ⟨rfl, .inr rfl⟩
      · cases impossible

theorem StartedHub.extends_step {action : StartedAction} (stepped : hub.step action = some after) :
    hub.clocked.pipeline.Extends after.clocked.pipeline := by
  rcases StartedHub.pipeline_cases stepped with ⟨rests, -⟩ | ⟨inner, moves, -⟩
  · rw [rests]
    exact Pipeline.Extends.refl _
  · exact Pipeline.extends_step moves

theorem Pipeline.Extends.accepted (extended : pipeline.Extends next) :
    pipeline.accepted <+: next.accepted :=
  (extended.returns.filter _).map _

theorem Pipeline.Extends.queuedEver (extended : pipeline.Extends next) :
    pipeline.queuedEver <+: next.queuedEver :=
  (extended.puts.filter _).map _

theorem Pipeline.Extends.refused (extended : pipeline.Extends next) :
    pipeline.refused <+: next.refused :=
  (extended.returns.filter _).map _

theorem Pipeline.Extends.dropped (extended : pipeline.Extends next) :
    pipeline.dropped <+: next.dropped :=
  (extended.puts.filter _).map _

theorem EndlessRun.pipeline_extends (run : EndlessRun startedMachine) {time later : Nat}
    (order : time ≤ later) :
    (run.state time).clocked.pipeline.Extends (run.state later).clocked.pipeline :=
  run.preserves (fun hub => (run.state time).clocked.pipeline.Extends hub.clocked.pipeline)
    (fun _ _ _ extended stepped => extended.trans (StartedHub.extends_step stepped)) order
    (Pipeline.Extends.refl _)

/-! ### The CoAP thread -/

theorem Pipeline.caller_step {action : PipelineAction Unit}
    (other : action.turnOf ≠ some .coapServer) (stepped : pipeline.step action = some next) :
    next.caller () = pipeline.caller () ∨ pipeline.caller () = .idle := by
  cases action with
  | uiWorkQueueInit =>
      rcases Pipeline.uiWorkQueueInit_cases stepped with ⟨-, rfl⟩
      exact .inl rfl
  | call caller msg => exact .inr (Pipeline.call_cases stepped).1
  | check caller => exact absurd rfl other
  | copy caller => exact absurd rfl other
  | submit caller => exact absurd rfl other
  | dequeue =>
      rcases Pipeline.dequeue_cases stepped with ⟨work, -, rfl⟩
      exact .inl rfl
  | put =>
      rcases Pipeline.put_cases stepped with ⟨slot, work, -, rfl⟩
      exact .inl (congrFun (pipeline.tempDataEnqueue_frame (pipeline.workPool slot)).1 ())
  | finish =>
      rcases Pipeline.finish_cases stepped with ⟨work, -, rfl⟩
      exact .inl rfl
  | get =>
      rcases Pipeline.get_cases stepped with ⟨msg, rest, -, rfl⟩
      exact .inl rfl

theorem Pipeline.call_lowers {action : PipelineAction Unit}
    (own : action.turnOf = some .coapServer) (stepped : pipeline.step action = some next) :
    (next.caller ()).rank < (pipeline.caller ()).rank := by
  cases action with
  | check caller => exact (Pipeline.check_lowers stepped).1
  | copy caller => exact (Pipeline.copy_lowers stepped).1
  | submit caller =>
      rcases Pipeline.submit_cases stepped with ⟨slot, msg, here, rfl⟩
      rw [here]
      exact Nat.succ_pos 5
  | _ => cases own

theorem Pipeline.calling_of_returns
    (short : pipeline.returns.length < pipeline.calls.length) :
    0 < (pipeline.caller ()).rank := by
  rw [Pipeline.calls, List.length_append, List.length_map] at short
  refine Nat.pos_of_ne_zero ?_
  intro zero
  rw [CallerState.idle_of_rank zero] at short
  exact Nat.lt_irrefl _ short

theorem calls_advance (made : Nat) :
    Advances startedMachine (fun action => action.turnOf = some .coapServer)
      (fun hub => made ≤ hub.clocked.pipeline.calls.length)
      (fun hub => made ≤ hub.clocked.pipeline.returns.length)
      (fun hub => (hub.clocked.pipeline.caller ()).rank) :=
  { possible := by
      intro hub called waits
      have short := Nat.lt_of_lt_of_le (Nat.lt_of_not_le waits) called
      have busy := Pipeline.calling_of_returns short
      rcases StartedHub.thread_goes_on (Pipeline.caller_goes_on busy) with ⟨action, own, goesOn⟩
      rcases Option.isSome_iff_exists.1 goesOn with ⟨next, stepped⟩
      exact ⟨action, next, own, stepped⟩
    lowers := by
      intro hub action after called waits own stepped
      rcases StartedHub.pipeline_cases stepped with ⟨-, rfl | none⟩ | ⟨inner, moves, turn⟩
      · cases own
      · rw [none] at own
        cases own
      · exact .inr (Pipeline.call_lowers (turn.trans own) moves)
    keeps := by
      intro hub action after called waits other stepped
      refine .inr ?_
      rcases StartedHub.pipeline_cases stepped with ⟨rests, -⟩ | ⟨inner, moves, turn⟩
      · rw [rests]
      · rcases Pipeline.caller_step (turn ▸ other) moves with same | idle
        · rw [same]
        · have short := Nat.lt_of_lt_of_le (Nat.lt_of_not_le waits) called
          have busy := Pipeline.calling_of_returns short
          rw [idle] at busy
          cases busy
    preserves := by
      intro hub action after called stepped
      exact called.trans (StartedHub.extends_step stepped).calls.length_le }

/-! ### The thread of the work queue -/

def Pipeline.putsLeft (tried : Nat) (pipeline : Pipeline Unit) : Nat :=
  3 * (tried - pipeline.puts.length) + pipeline.work.untilAct

theorem Pipeline.putsLeft_same {tried : Nat} (puts : next.puts = pipeline.puts)
    (work : next.work.untilAct = pipeline.work.untilAct) :
    next.putsLeft tried = pipeline.putsLeft tried := by
  rw [Pipeline.putsLeft, Pipeline.putsLeft, puts, work]

theorem Pipeline.putsLeft_keeps (tried : Nat) {action : PipelineAction Unit}
    (other : action.turnOf ≠ some .workQueue) (stepped : pipeline.step action = some next) :
    next.putsLeft tried = pipeline.putsLeft tried := by
  cases action with
  | uiWorkQueueInit =>
      rcases Pipeline.uiWorkQueueInit_cases stepped with ⟨-, rfl⟩
      rfl
  | call caller msg =>
      rcases Pipeline.call_cases stepped with ⟨-, ⟨-, rfl⟩ | ⟨-, rfl⟩⟩
      · rfl
      · rfl
  | check caller =>
      rcases Pipeline.check_cases stepped with
        ⟨slot, msg, -, ⟨-, more, rfl⟩ | ⟨-, -, rfl⟩ | ⟨-, rfl⟩⟩
      · rfl
      · rfl
      · rfl
  | copy caller =>
      rcases Pipeline.copy_cases stepped with ⟨slot, msg, -, rfl⟩
      rfl
  | submit caller =>
      rcases Pipeline.submit_cases stepped with ⟨slot, msg, -, rfl⟩
      exact Pipeline.putsLeft_same rfl (pipeline.work.submit_untilAct slot)
  | dequeue => exact absurd rfl other
  | put => exact absurd rfl other
  | finish => exact absurd rfl other
  | get =>
      rcases Pipeline.get_cases stepped with ⟨msg, rest, -, rfl⟩
      rfl

theorem Pipeline.tempDataEnqueue_puts (pipeline : Pipeline Unit) (msg : TempDataMsg) :
    (pipeline.tempDataEnqueue msg).puts.length = pipeline.puts.length + 1 := by
  rcases pipeline.tempDataEnqueue_cases msg with ⟨-, equal⟩ | ⟨-, equal⟩
  · rw [equal]
    exact List.length_append
  · rw [equal]
    exact List.length_append

theorem Pipeline.putsLeft_lowers {tried : Nat} (short : pipeline.puts.length < tried)
    {action : PipelineAction Unit} (own : action.turnOf = some .workQueue)
    (stepped : pipeline.step action = some next) :
    next.putsLeft tried < pipeline.putsLeft tried := by
  cases action with
  | dequeue =>
      rcases Pipeline.dequeue_cases stepped with ⟨work, started, rfl⟩
      have fewer := WorkQueue.start_untilAct started
      change 3 * (tried - pipeline.puts.length) + work.untilAct < _
      rw [Pipeline.putsLeft, ← fewer]
      exact Nat.lt_succ_self _
  | put =>
      rcases Pipeline.put_cases stepped with ⟨slot, work, acted, rfl⟩
      rcases WorkQueue.act_untilAct acted with ⟨before, after⟩
      have one := pipeline.tempDataEnqueue_puts (pipeline.workPool slot)
      change 3 * (tried - (pipeline.tempDataEnqueue (pipeline.workPool slot)).puts.length) +
        work.untilAct < _
      rw [Pipeline.putsLeft, before, after, one]
      omega
  | finish =>
      rcases Pipeline.finish_cases stepped with ⟨work, finished, rfl⟩
      have fewer := WorkQueue.finish_untilAct finished
      change 3 * (tried - pipeline.puts.length) + work.untilAct < _
      rw [Pipeline.putsLeft, ← fewer]
      exact Nat.lt_succ_self _
  | _ => cases own

theorem Pipeline.InOrder.waiting_of_puts (inOrder : pipeline.InOrder)
    (short : pipeline.puts.length < pipeline.accepted.length) : 0 < pipeline.work.remaining := by
  have order := congrArg List.length inOrder.order
  have bound := pipeline.work.waiting_le_remaining
  simp only [Pipeline.attempted, Pipeline.pending, List.length_append, List.length_map] at order
  omega

theorem puts_advance (tried : Nat) :
    Advances startedMachine (fun action => action.turnOf = some .workQueue)
      (fun hub => hub.Prepared ∧ tried ≤ hub.clocked.pipeline.accepted.length)
      (fun hub => tried ≤ hub.clocked.pipeline.puts.length)
      (fun hub => hub.clocked.pipeline.putsLeft tried) :=
  { possible := by
      rintro hub ⟨prepared, accepted⟩ waits
      have short := Nat.lt_of_lt_of_le (Nat.lt_of_not_le waits) accepted
      have busy := prepared.sound.inOrder.waiting_of_puts short
      rcases StartedHub.thread_goes_on (Pipeline.work_goes_on busy) with ⟨action, own, goesOn⟩
      rcases Option.isSome_iff_exists.1 goesOn with ⟨next, stepped⟩
      exact ⟨action, next, own, stepped⟩
    lowers := by
      intro hub action after invariant waits own stepped
      rcases StartedHub.pipeline_cases stepped with ⟨-, rfl | none⟩ | ⟨inner, moves, turn⟩
      · cases own
      · rw [none] at own
        cases own
      · exact .inr (Pipeline.putsLeft_lowers (Nat.lt_of_not_le waits) (turn.trans own) moves)
    keeps := by
      intro hub action after invariant waits other stepped
      refine .inr ?_
      rcases StartedHub.pipeline_cases stepped with ⟨rests, -⟩ | ⟨inner, moves, turn⟩
      · rw [rests]
      · rw [Pipeline.putsLeft_keeps tried (turn ▸ other) moves]
    preserves := by
      rintro hub action after ⟨prepared, accepted⟩ stepped
      exact ⟨prepared.step stepped,
        accepted.trans (StartedHub.extends_step stepped).accepted.length_le⟩ }

/-! ### The drain loop -/

def StartedHub.storesLeft (queued : Nat) (hub : StartedHub) : Nat :=
  2 * (queued - hub.clocked.pipeline.received.length) + hub.clocked.held.toList.length

theorem StartedHub.main_keeps {action : StartedAction} (looping : hub.phase = .looping)
    (other : action.turnOf ≠ some .main) (stepped : hub.step action = some after) :
    after.clocked.pipeline.received = hub.clocked.pipeline.received ∧
      after.clocked.held = hub.clocked.held := by
  rcases StartedHub.clocked_cases stepped with ⟨-, same⟩ | ⟨inner, stands, moved⟩
  · rw [same]
    exact ⟨rfl, rfl⟩
  · have background : inner.Background := by
      cases action with
      | uiWorkQueueInit =>
          rcases StartedHub.uiWorkQueueInit_cases stepped with ⟨clocked, phase, -⟩
          rw [looping] at phase
          cases phase
      | tick elapsed =>
          cases stands
          trivial
      | post locals request =>
          cases stands
          trivial
      | thread step =>
          rcases StartedHub.thread_cases stepped with ⟨clocked, -, -, notInit⟩
          cases stands
          exact notInit
      | msgqGet => exact absurd rfl other
      | loopBody => exact absurd rfl other
      | _ => cases stands
    have undisturbed := ClockedHub.background_step background moved
    exact ⟨undisturbed.received, undisturbed.held⟩

theorem StartedHub.storesLeft_lowers {queued : Nat} {action : StartedAction}
    (waits : ¬queued + hub.clocked.held.toList.length ≤ hub.clocked.pipeline.received.length)
    (own : action.turnOf = some .main) (stepped : hub.step action = some after) :
    after.storesLeft queued < hub.storesLeft queued := by
  cases action with
  | msgqGet =>
      rcases StartedHub.msgqGet_cases stepped with ⟨clocked, -, moved, rfl⟩
      rcases ClockedHub.msgqGet_cases moved with ⟨msg, pipeline, free, -, received, -, rfl⟩
      rw [free] at waits
      change 2 * (queued - pipeline.received.length) + 1 < _
      rw [StartedHub.storesLeft, free, received, List.length_append, List.length_singleton]
      simp only [Option.toList_none, List.length_nil] at waits ⊢
      omega
  | loopBody =>
      rcases StartedHub.loopBody_cases stepped with ⟨msg, clocked, -, held, -, rfl, rfl⟩
      change 2 * (queued - hub.clocked.pipeline.received.length) + 0 < _
      rw [StartedHub.storesLeft, held]
      exact Nat.lt_succ_self _
  | thread step => cases step <;> cases own
  | _ => cases own

structure StartedHub.Draining (queued : Nat) (hub : StartedHub) : Prop where
  looping : hub.phase = .looping
  keeps : hub.clocked.pipeline.QueueKeeps
  queued : queued ≤ hub.clocked.pipeline.queuedEver.length

theorem StartedHub.Draining.step {queued : Nat} (draining : hub.Draining queued)
    {action : StartedAction} (stepped : hub.step action = some after) : after.Draining queued :=
  { looping := (StartedHub.looping_step draining.looping stepped).1
    keeps := by
      rcases StartedHub.pipeline_cases stepped with ⟨rests, -⟩ | ⟨inner, moves, -⟩
      · rw [rests]
        exact draining.keeps
      · exact draining.keeps.step moves
    queued := draining.queued.trans (StartedHub.extends_step stepped).queuedEver.length_le }

theorem stores_advance (queued : Nat) :
    Advances startedMachine (fun action => action.turnOf = some .main)
      (StartedHub.Draining queued)
      (fun hub =>
        queued + hub.clocked.held.toList.length ≤ hub.clocked.pipeline.received.length)
      (StartedHub.storesLeft queued) :=
  { possible := by
      intro hub draining waits
      have busy : hub.clocked.held = none → hub.clocked.pipeline.msgq ≠ [] := by
        intro free empty
        have delivered := congrArg List.length draining.keeps.delivered
        have queued := draining.queued
        rw [empty, List.append_nil] at delivered
        rw [free] at waits
        exact waits (queued.trans (Nat.le_of_eq delivered.symm))
      rcases StartedHub.main_goes_on draining.looping busy with ⟨action, own, goesOn⟩
      rcases Option.isSome_iff_exists.1 goesOn with ⟨next, stepped⟩
      exact ⟨action, next, own, stepped⟩
    lowers := fun _ _ _ _ waits own stepped =>
      .inr (StartedHub.storesLeft_lowers waits own stepped)
    keeps := by
      intro hub action after draining waits other stepped
      rcases StartedHub.main_keeps draining.looping other stepped with ⟨received, held⟩
      refine .inr (Nat.le_of_eq ?_)
      rw [StartedHub.storesLeft, StartedHub.storesLeft, received, held]
    preserves := fun _ _ _ draining stepped => draining.step stepped }

/-! ### All three in turn -/

/-- The first entries of a record are the first of those with a property and the first
of those without it. -/
theorem exists_split_prefix {Entry : Type} (entries : List Entry) (msg : Entry → TempDataMsg)
    (good bad : Entry → Bool) (apart : ∀ entry, bad entry = !good entry)
    {first : List TempDataMsg} (begins : first <+: entries.map msg) :
    ∃ goods bads, goods <+: (entries.filter good).map msg ∧
      bads <+: (entries.filter bad).map msg ∧ (goods ++ bads).Perm first := by
  have taken : (entries.take first.length).map msg = first := by
    rw [List.map_take]
    exact (List.prefix_iff_eq_take.1 begins).symm
  have initial := List.take_prefix first.length entries
  have others : bad = fun entry => !good entry := funext apart
  refine ⟨((entries.take first.length).filter good).map msg,
    ((entries.take first.length).filter bad).map msg, (initial.filter good).map msg,
    (initial.filter bad).map msg, ?_⟩
  rw [← List.map_append, others]
  exact ((List.filter_append_perm good _).map msg).trans (List.Perm.of_eq taken)

theorem Pipeline.split_returned {first : List TempDataMsg}
    (returned : first <+: pipeline.returns.map Prod.fst) :
    ∃ accepted refused, accepted <+: pipeline.accepted ∧ refused <+: pipeline.refused ∧
      (accepted ++ refused).Perm first :=
  exists_split_prefix pipeline.returns Prod.fst _ _ (fun _ => decide_not) returned

theorem Pipeline.split_attempted {first : List TempDataMsg} (put : first <+: pipeline.attempted) :
    ∃ queued dropped, queued <+: pipeline.queuedEver ∧ dropped <+: pipeline.dropped ∧
      (queued ++ dropped).Perm first :=
  exists_split_prefix pipeline.puts PutAttempt.msg _ _ (fun _ => rfl) put

variable {run : EndlessRun startedMachine} {time : Nat}

theorem EndlessRun.calls_return
    (fair : run.Fair fun action => action.turnOf = some .coapServer) (time : Nat) :
    ∃ later, time ≤ later ∧ (run.state time).clocked.pipeline.calls <+:
      (run.state later).clocked.pipeline.returns.map Prod.fst := by
  rcases (calls_advance (run.state time).clocked.pipeline.calls.length).eventually fair
      (Nat.le_refl _) with ⟨later, order, enough⟩
  refine ⟨later, order, ?_⟩
  refine List.prefix_of_prefix_length_le (EndlessRun.pipeline_extends run order).calls
    (List.prefix_append _ _) ?_
  rw [List.length_map]
  exact enough

theorem EndlessRun.accepted_put
    (fair : run.Fair fun action => action.turnOf = some .workQueue)
    (prepared : (run.state time).Prepared) :
    ∃ later, time ≤ later ∧ (run.state time).clocked.pipeline.accepted <+:
      (run.state later).clocked.pipeline.attempted := by
  rcases (puts_advance (run.state time).clocked.pipeline.accepted.length).eventually fair
      ⟨prepared, Nat.le_refl _⟩ with ⟨later, order, enough⟩
  have after := run.preserves StartedHub.Prepared (fun _ _ _ before => before.step) order prepared
  refine ⟨later, order, ?_⟩
  refine List.prefix_of_prefix_length_le (EndlessRun.pipeline_extends run order).accepted
    ⟨_, after.sound.inOrder.order⟩ ?_
  rw [Pipeline.attempted, List.length_map]
  exact enough

theorem EndlessRun.queued_stored (fair : run.Fair fun action => action.turnOf = some .main)
    (prepared : (run.state time).Prepared) (looping : (run.state time).phase = .looping)
    (keeps : (run.state time).clocked.pipeline.QueueKeeps) :
    ∃ later, time ≤ later ∧ ∃ items : MessageSequence,
      (run.state later).clocked.nodes = items.table ∧
        (run.state time).clocked.pipeline.queuedEver <+: items.map Prod.snd := by
  have draining : (run.state time).Draining (run.state time).clocked.pipeline.queuedEver.length :=
    { looping := looping
      keeps := keeps
      queued := Nat.le_refl _ }
  rcases (stores_advance _).eventually fair draining with ⟨later, order, enough⟩
  have after := run.preserves StartedHub.Prepared (fun _ _ _ before => before.step) order prepared
  have drained := run.preserves _ (stores_advance _).preserves order draining
  rcases after.sound.table with ⟨items, table, received⟩
  refine ⟨later, order, items, table, ?_⟩
  have stored : items.map Prod.snd <+: (run.state later).clocked.pipeline.queuedEver := by
    rw [← drained.keeps.delivered, ← received, List.append_assoc]
    exact List.prefix_append _ _
  refine List.prefix_of_prefix_length_le (EndlessRun.pipeline_extends run order).queuedEver
    stored ?_
  rw [← received, List.length_append] at enough
  exact Nat.le_of_add_le_add_right enough

theorem StartedHub.takes_request (request : PostRequest)
    (rests : hub.phase = .looping ∧ hub.rank = 0) :
    ∃ actions final,
      startedMachine.run hub (.post noLocals request :: actions) = some final ∧
        final.phase = .looping ∧ final.rank = 0 := by
  have idle := (StartedHub.drained_of_rank rests.2).idle
  have possible : (hub.step (.post noLocals request)).isSome = true := by
    change (Option.map _ (Option.map _ (hub.clocked.pipeline.call () _))).isSome = true
    rw [Option.isSome_map, Option.isSome_map, Pipeline.call, idle]
    dsimp only
    split
    · rfl
    · rfl
  rcases Option.isSome_iff_exists.1 possible with ⟨next, stepped⟩
  have looping := (StartedHub.looping_step rests.1 stepped).1
  rcases StartedHub.reaches_rest looping with ⟨actions, final, -, ran, restsThen⟩
  exact ⟨actions, final, (startedMachine.run_cons_eq_some _ _ _ _).2 ⟨next, stepped, ran⟩,
    restsThen⟩

theorem StartedHub.no_turn_at_rest (zero : hub.rank = 0) {thread : HubThread}
    {action : StartedAction} (own : action.turnOf = some thread) : hub.step action = none := by
  cases stepped : hub.step action with
  | none => rfl
  | some next =>
      have lower := StartedHub.rank_lowers (StartedAction.drains_of_turn own) stepped
      rw [zero] at lower
      exact absurd lower (Nat.not_lt_zero _)

/-- Each run into the loop goes on for ever with one request after the other and each
thread having its turns. -/
theorem exists_fair_run {actions : List StartedAction}
    (ran : startedMachine.run StartedHub.powerOn actions = some hub)
    (looping : hub.phase = .looping) (request : PostRequest) :
    ∃ run : EndlessRun startedMachine,
      (∀ before after, actions = before ++ after →
        startedMachine.run StartedHub.powerOn before = some (run.state before.length)) ∧
      (∀ thread, run.Fair fun action => action.turnOf = some thread) ∧
      ∀ time, ∃ later, time ≤ later ∧ run.action later = .post noLocals request := by
  rcases StartedHub.reaches_rest looping with ⟨rest, resting, -, continued, rests⟩
  have whole := (startedMachine.run_append_eq_some _ _ actions rest).2 ⟨hub, ran, continued⟩
  have rounds : ∀ hub : StartedHub, hub.phase = .looping ∧ hub.rank = 0 →
      ∃ action actions final, action = .post noLocals request ∧
        startedMachine.run hub (action :: actions) = some final ∧
        final.phase = .looping ∧ final.rank = 0 := by
    intro hub rests
    rcases StartedHub.takes_request request rests with ⟨actions, final, ran, restsThen⟩
    exact ⟨_, actions, final, rfl, ran, restsThen⟩
  rcases EndlessRun.exists_of_rounds rounds whole rests with ⟨run, follows, turns⟩
  refine ⟨run, ?_, ?_, ?_⟩
  · intro before after split
    exact follows before (after ++ rest) (by rw [split, List.append_assoc])
  · intro thread time
    rcases turns time with ⟨later, order, atRest, -⟩
    exact ⟨later, order, .inr fun action own => StartedHub.no_turn_at_rest atRest.2 own⟩
  · intro time
    rcases turns time with ⟨later, order, -, posts⟩
    exact ⟨later, order, posts⟩

end ZephyrHomeHub.Hub
