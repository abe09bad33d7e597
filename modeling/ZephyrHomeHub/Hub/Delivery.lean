import ZephyrHomeHub.Hub.Draining
import ZephyrHomeHub.Hub.StaleDetection
import ZephyrHomeHub.Hub.TabVisibility

/-! A request that reaches a hub at rest. Its message takes the first slot of the pool,
the work queue puts it into an empty message queue, and the drain loop stores it. -/

namespace ZephyrHomeHub.Hub

open Foundation.LabelledMachine Foundation.SingleWorker

def deliverySteps : List StartedAction :=
  [.thread .check, .thread .copy, .thread .submit, .thread .dequeue, .thread .put,
    .thread .finish, .msgqGet, .loopBody]

theorem deliverySteps_drain : ∀ action ∈ deliverySteps, StartedAction.drains action = true := by
  simp [deliverySteps, StartedAction.drains]

variable {hub : StartedHub}

theorem StartedHub.rest_cases (zero : hub.rank = 0) :
    hub.Drained ∧ hub.clocked.pipeline.work = WorkQueue.empty := by
  refine ⟨StartedHub.drained_of_rank zero, ?_⟩
  unfold StartedHub.rank Pipeline.rank at zero
  exact WorkQueue.eq_empty_of_remaining (by omega)

/-- At rest, what is posted is received and dealt with. -/
theorem StartedHub.delivers (looping : hub.phase = .looping)
    (ready : hub.clocked.pipeline.workPoolInit = true) (zero : hub.rank = 0) (locals : PostLocals)
    (request : PostRequest) :
    ∃ final, startedMachine.run hub (.post locals request :: deliverySteps) = some final ∧
      final.clocked.held = none ∧
      final.clocked.pipeline.received =
        hub.clocked.pipeline.received ++ [tempNodePost hub.clocked.uptime locals request] ∧
      final.clocked.nodes = (drainBody hub.context hub.clocked.nodes
        (tempNodePost hub.clocked.uptime locals request)).1 := by
  rcases StartedHub.rest_cases zero with ⟨drained, empty⟩
  rcases drained with ⟨idle, -, msgq, held⟩
  rcases hub with ⟨phase, wait, tab, label, active, uptime, pipeline, held', nodes⟩
  rcases pipeline with ⟨init, caller, pool, work, queue, returns, puts, received⟩
  cases looping
  cases ready
  cases empty
  cases msgq
  cases held
  have callers : caller = fun _ => .idle := funext fun _ => idle
  cases callers
  exact ⟨_, rfl, rfl, rfl, rfl⟩

/-- A message that gets a slot while the temperature tab is active is on the card of this
slot, and as fresh as its timestamp. -/
theorem drainBody_shows {context : LoopContext} {nodes : Nodes} {msg : TempDataMsg}
    (active : context.temperatureTabActive = true) (tab : context.tempTab = true)
    (recent : msg.timestamp = context.uptime)
    (stored : ∃ slot, ((drainBody context nodes msg).1 slot).matches msg.nodeId) :
    ∃ slot card, ((drainBody context nodes msg).1 slot).used = true ∧
      ((drainBody context nodes msg).1 slot).id = msg.id ∧
      ((drainBody context nodes msg).1 slot).card = some card ∧
      card.labels = msg.reading.labels ∧ ¬card.red := by
  cases found : getOrCreateNode nodes msg.nodeId with
  | none =>
      rcases stored with ⟨slot, hit⟩
      simp only [drainBody, found] at hit
      have present := getOrCreateNode_isSome ⟨slot, .inl hit⟩
      rw [found] at present
      cases present
  | some place =>
      rcases place with ⟨slot, table⟩
      rcases updateEntry_labels tab (table slot) msg with ⟨card, has, labels⟩
      have entry : (drainBody context nodes msg).1 slot = context.updateEntry (table slot) msg := by
        simp only [drainBody, found, Function.update_self]
      rcases getOrCreateNode_found found with ⟨used, id⟩
      refine ⟨slot, card, ?_, ?_, ?_, ?_, ?_⟩
      · rw [entry, updateEntry_used]
        exact used
      · rw [entry, updateEntry_id]
        exact id
      · rw [entry]
        exact has
      · rw [labels, active]
        rfl
      · have lastUpdate : (context.updateEntry (table slot) msg).lastUpdateTime = msg.timestamp :=
          congrArg SensorData.timestamp (updateEntry_current context (table slot) msg)
        rw [updateEntry_red active (table slot) msg has, lastUpdate, recent, sub_self]
        decide

end ZephyrHomeHub.Hub
