import ZephyrHomeHub.System.Lockstep
import ZephyrHomeHub.System.Provenance

/-! What a reply tells a node. The CoAP thread answers a request after
`temp_node_post` has returned for it, with 2.01 whatever `ui_update_submit` returned. -/

namespace ZephyrHomeHub.System

open Foundation.ComponentView Foundation.LabelledMachine Foundation.LossyChannel
open ZephyrHomeHub.Hub ZephyrHomeHub.Node

variable {Name : Type} {household : Household Name} {home next : HomeNetwork Name}

def HomeNetwork.Taken (home : HomeNetwork Name) (name : Name) (exchange : Exchange) : Prop :=
  ∃ entry ∈ home.handled, entry.node = name ∧ entry.request.exchange = exchange

def HomeNetwork.Processed (home : HomeNetwork Name) (name : Name) (exchange : Exchange) : Prop :=
  ∃ entry ∈ home.handled, entry.node = name ∧ entry.request.exchange = exchange ∧
    ∃ ret, (entry.msg, ret) ∈ home.hub.clocked.pipeline.returns

theorem HomeNetwork.Taken.mono {name : Name} {exchange : Exchange}
    (handled : home.handled ⊆ next.handled) (taken : home.Taken name exchange) :
    next.Taken name exchange := by
  rcases taken with ⟨entry, member, here⟩
  exact ⟨entry, handled member, here⟩

theorem HomeNetwork.Processed.mono {name : Name} {exchange : Exchange}
    (handled : home.handled ⊆ next.handled)
    (returns : home.hub.clocked.pipeline.returns ⊆ next.hub.clocked.pipeline.returns)
    (processed : home.Processed name exchange) : next.Processed name exchange := by
  rcases processed with ⟨entry, member, node, same, ret, returned⟩
  exact ⟨entry, handled member, node, same, ret, returns returned⟩

theorem HomeNetwork.Logged.processed (logged : home.Logged)
    (idle : home.hub.clocked.pipeline.caller () = .idle) {name : Name} {exchange : Exchange}
    (taken : home.Taken name exchange) : home.Processed name exchange := by
  rcases taken with ⟨entry, member, node, same⟩
  have called : entry.msg ∈ home.hub.clocked.pipeline.calls :=
    logged.calls ▸ List.mem_map_of_mem member
  unfold Pipeline.calls at called
  rw [idle] at called
  rcases List.mem_append.1 called with returned | none
  · rcases List.mem_map.1 returned with ⟨⟨msg, ret⟩, here, equal⟩
    cases equal
    exact ⟨entry, member, node, same, ret, here⟩
  · cases none

/-- What the CoAP thread is in was handled, and a reply that a node has heard of is
2.01 for one of its requests that was processed. -/
structure HomeNetwork.Answered (home : HomeNetwork Name) : Prop where
  answering : ∀ name exchange, home.answering = some (name, exchange) → home.Taken name exchange
  heard : ∀ name, ∀ reply ∈ (home.node name).node.client.heard,
    reply.code = createdCode ∧ home.Processed name reply.exchange

theorem answered_powerOn : (HomeNetwork.powerOn : HomeNetwork Name).Answered :=
  { answering := fun _ _ none => nomatch none
    heard := fun _ _ nothing => nomatch nothing }

/-! ### What only grows -/

theorem Pipeline.returns_step {pipeline after : Pipeline Unit} {action : PipelineAction Unit}
    (stepped : pipeline.step action = some after) : pipeline.returns ⊆ after.returns := by
  cases action with
  | uiWorkQueueInit =>
      rcases Pipeline.uiWorkQueueInit_cases stepped with ⟨-, rfl⟩
      exact List.Subset.refl _
  | call caller msg =>
      rcases Pipeline.call_cases stepped with ⟨idle, ⟨-, rfl⟩ | ⟨-, rfl⟩⟩
      · exact List.Subset.refl _
      · exact List.subset_append_left _ _
  | check caller =>
      rcases Pipeline.check_cases stepped with
        ⟨slot, msg, here, ⟨-, more, rfl⟩ | ⟨-, -, rfl⟩ | ⟨-, rfl⟩⟩
      · exact List.Subset.refl _
      · exact List.subset_append_left _ _
      · exact List.Subset.refl _
  | copy caller =>
      rcases Pipeline.copy_cases stepped with ⟨slot, msg, here, rfl⟩
      exact List.Subset.refl _
  | submit caller =>
      rcases Pipeline.submit_cases stepped with ⟨slot, msg, here, rfl⟩
      exact List.subset_append_left _ _
  | dequeue =>
      rcases Pipeline.dequeue_cases stepped with ⟨work, -, rfl⟩
      exact List.Subset.refl _
  | put =>
      rcases Pipeline.put_cases stepped with ⟨slot, work, -, rfl⟩
      have same := (pipeline.tempDataEnqueue_frame (pipeline.workPool slot)).2.2
      exact same ▸ List.Subset.refl _
  | finish =>
      rcases Pipeline.finish_cases stepped with ⟨work, -, rfl⟩
      exact List.Subset.refl _
  | get =>
      rcases Pipeline.get_cases stepped with ⟨msg, rest, -, rfl⟩
      exact List.Subset.refl _

theorem StartedHub.returns_step {hub after : StartedHub} {action : StartedAction}
    (stepped : hub.step action = some after) :
    hub.clocked.pipeline.returns ⊆ after.clocked.pipeline.returns := by
  rcases StartedHub.clocked_cases stepped with ⟨-, same⟩ | ⟨inner, -, moved⟩
  · rw [same]
    exact List.Subset.refl _
  · rcases ClockedHub.pipeline_submits moved with ⟨rests, -⟩ | ⟨action, stepped, -⟩
    · rw [rests]
      exact List.Subset.refl _
    · exact Pipeline.returns_step stepped

variable [DecidableEq Name]

theorem HomeNetwork.returns_step {action : HomeAction Name}
    (stepped : home.step household action = some next) :
    home.hub.clocked.pipeline.returns ⊆ next.hub.clocked.pipeline.returns := by
  rcases (hubView household).step_cases stepped with ⟨-, same⟩ | ⟨inner, -, moved⟩
  · change next.hub = home.hub at same
    rw [same]
    exact List.Subset.refl _
  · exact StartedHub.returns_step moved

theorem HomeNetwork.handled_step {action : HomeAction Name}
    (stepped : home.step household action = some next) : home.handled ⊆ next.handled := by
  rcases HomeNetwork.step_cases stepped with ⟨name, inner, node, rfl, -, -, rfl⟩ |
    ⟨name, ok, locals, request, node, rfl, -, -, rfl⟩ |
    ⟨name, index, taken, rest, node, rfl, -, -, rfl⟩ |
    ⟨name, index, taken, rest, node, rfl, -, -, rfl⟩ |
    ⟨name, index, locals, taken, rest, hub, rfl, -, -, -, rfl⟩ |
    ⟨name, exchange, node, rfl, -, -, -, rfl⟩ | ⟨inner, hub, rfl, -, -, rfl⟩
  · exact List.Subset.refl _
  · exact List.Subset.refl _
  · exact List.Subset.refl _
  · exact List.Subset.refl _
  · exact List.subset_append_left _ _
  · exact List.Subset.refl _
  · exact List.Subset.refl _

/-! ### Where a reply comes from -/

theorem StartedNode.heard_step {fresh : FreshExchanges} {started after : StartedNode}
    {action : StartedNodeAction} (stepped : started.step fresh action = some after) {reply : Reply}
    (heard : reply ∈ after.node.client.heard) :
    reply ∈ started.node.client.heard ∨
      ∃ index, action = .sampling (.client (.hubReply index reply.code)) ∧
        started.node.client.requests[index]? = some reply.exchange := by
  rcases StartedNode.client_step stepped with ⟨inner, rfl, moved⟩ | ⟨-, same⟩
  · rcases NodeState.heard_step moved heard with before | ⟨index, rfl, here⟩
    · exact .inl before
    · exact .inr ⟨index, rfl, here⟩
  · rw [same] at heard
    exact .inl heard

theorem HomeNetwork.answer_of_hubReply {action : HomeAction Name} {name : Name} {index code : Nat}
    (stepped : home.step household action = some next)
    (taken : home.nodeAction action = some (name, .sampling (.client (.hubReply index code)))) :
    ∃ exchange, home.answering = some (name, exchange) ∧ code = createdCode ∧
      index = home.position name exchange ∧ home.hub.clocked.pipeline.caller () = .idle := by
  rcases HomeNetwork.step_cases stepped with ⟨other, inner, node, rfl, keeps, -, -⟩ |
    ⟨other, ok, locals, request, node, rfl, -, -, -⟩ |
    ⟨other, index, gone, rest, node, rfl, -, -, -⟩ |
    ⟨other, index, copied, rest, node, rfl, -, -, -⟩ |
    ⟨other, index, locals, handed, rest, hub, rfl, -, -, -, -⟩ |
    ⟨other, exchange, node, rfl, answering, idle, -, -⟩ | ⟨inner, hub, rfl, -, -, -⟩
  · cases taken
    cases keeps
  · cases taken
  · rcases Option.map_eq_some_iff.1 taken with ⟨request, -, impossible⟩
    cases impossible
  · rcases Option.map_eq_some_iff.1 taken with ⟨request, -, impossible⟩
    cases impossible
  · cases taken
  · rcases Option.map_eq_some_iff.1 taken with ⟨under, isUnder, equal⟩
    cases answering.symm.trans isUnder
    cases equal
    exact ⟨exchange, answering, rfl, rfl, idle⟩
  · cases taken

/-- A node hears nothing new, or the hub answers the request it was in. -/
theorem HomeNetwork.heard_step {action : HomeAction Name} (inStep : home.InStep)
    (stepped : home.step household action = some next) {name : Name} {reply : Reply}
    (heard : reply ∈ (next.node name).node.client.heard) :
    reply ∈ (home.node name).node.client.heard ∨
      (home.answering = some (name, reply.exchange) ∧ reply.code = createdCode ∧
        home.hub.clocked.pipeline.caller () = .idle) := by
  rcases HomeNetwork.node_cases stepped with ⟨-, same⟩ | ⟨other, inner, node, taken, moved, same⟩
  · rw [same] at heard
    exact .inl heard
  · rw [same] at heard
    by_cases here : name = other
    · subst here
      rw [Function.update_self] at heard
      rcases StartedNode.heard_step moved heard with before | ⟨index, rfl, request⟩
      · exact .inl before
      · rcases HomeNetwork.answer_of_hubReply stepped taken with
          ⟨exchange, answering, code, rfl, idle⟩
        have under : exchange ∈ home.underWay name :=
          List.mem_append_right _ (underAnswer_self answering ▸ List.mem_singleton.2 rfl)
        have found := (List.getElem?_idxOf (inStep.mem under)).symm.trans request
        cases found
        exact .inr ⟨answering, code, idle⟩
    · rw [Function.update_of_ne here] at heard
      exact .inl heard

theorem HomeNetwork.answering_step {action : HomeAction Name}
    (stepped : home.step household action = some next) {name : Name} {exchange : Exchange}
    (answering : next.answering = some (name, exchange)) :
    home.answering = some (name, exchange) ∨ next.Taken name exchange := by
  rcases HomeNetwork.step_cases stepped with ⟨other, inner, node, rfl, -, -, rfl⟩ |
    ⟨other, ok, locals, request, node, rfl, -, -, rfl⟩ |
    ⟨other, index, taken, rest, node, rfl, -, -, rfl⟩ |
    ⟨other, index, taken, rest, node, rfl, -, -, rfl⟩ |
    ⟨other, index, locals, taken, rest, hub, rfl, -, -, -, rfl⟩ |
    ⟨other, exchange, node, rfl, -, -, -, rfl⟩ | ⟨inner, hub, rfl, -, -, rfl⟩
  · exact .inl answering
  · exact .inl answering
  · exact .inl answering
  · exact .inl answering
  · cases answering
    exact .inr ⟨_, List.mem_append_right _ (List.mem_singleton.2 rfl), rfl, rfl⟩
  · cases answering
  · exact .inl answering

theorem HomeNetwork.Answered.step (answered : home.Answered) (inStep : home.InStep)
    (logged : home.Logged) {action : HomeAction Name}
    (stepped : home.step household action = some next) : next.Answered := by
  have handled := HomeNetwork.handled_step stepped
  have returns := HomeNetwork.returns_step stepped
  constructor
  · intro name exchange answering
    rcases HomeNetwork.answering_step stepped answering with before | taken
    · exact (answered.answering name exchange before).mono handled
    · exact taken
  · intro name reply heard
    rcases HomeNetwork.heard_step inStep stepped heard with before | ⟨answering, code, idle⟩
    · rcases answered.heard name reply before with ⟨code, processed⟩
      exact ⟨code, processed.mono handled returns⟩
    · have taken := answered.answering name reply.exchange answering
      exact ⟨code, (logged.processed idle taken).mono handled returns⟩

theorem reachable_answered (reachable : (homeMachine household).Reachable home) : home.Answered :=
  reachable.invariant_within HomeNetwork.Answered answered_powerOn
    (fun _ _ _ before answered stepped =>
      answered.step (reachable_inStep before) (reachable_logged before) stepped)

theorem received_heard {node : NodeState} {record : CallRecord} {reply : Reply}
    (finished : record ∈ node.finished) (received : record.received = some (.reply reply)) :
    reply ∈ node.heard := by
  refine List.mem_append_right _ (List.mem_append_right _ ?_)
  refine List.mem_filterMap.2 ⟨record, finished, ?_⟩
  rw [CallRecord.asReply, received]
  rfl

/-- Whatever is lost, duplicated, delayed or malformed, a reply that a call of a node
has read is 2.01 for a request of this node, and the hub had called `ui_update_submit`
with the message of that request and the call had returned. -/
theorem reachable_reply_processed (reachable : (homeMachine household).Reachable home)
    (name : Name) (record : CallRecord) (reply : Reply)
    (finished : record ∈ (home.node name).node.client.finished)
    (received : record.received = some (.reply reply)) :
    reply.code = createdCode ∧ home.Processed name reply.exchange :=
  (reachable_answered reachable).heard name reply (received_heard finished received)

def createdReply : Reply :=
  { exchange := numberedExchanges 0
    code := createdCode }

theorem firstReadingRun_returns :
    (((homeMachine oneNodeHousehold).run HomeNetwork.powerOn firstReadingRun).map fun final =>
      (final.node ()).node.client.finished.map fun record => (record.received, record.ret)) =
        some [(some (.reply createdReply), 0)] := by
  decide +kernel

theorem firstReadingRun_finished :
    ∃ final record, (homeMachine oneNodeHousehold).run HomeNetwork.powerOn firstReadingRun =
        some final ∧ record ∈ (final.node ()).node.client.finished ∧
      record.received = some (.reply createdReply) ∧ record.ret = 0 := by
  rcases Option.map_eq_some_iff.1 firstReadingRun_returns with ⟨final, ran, returned⟩
  rcases List.map_eq_singleton_iff.1 returned with ⟨record, finished, equal⟩
  exact ⟨final, record, ran, finished ▸ List.mem_singleton.2 rfl, congrArg Prod.fst equal,
    congrArg Prod.snd equal⟩

theorem firstReading_reply_processed :
    ∃ final, (homeMachine oneNodeHousehold).run HomeNetwork.powerOn firstReadingRun =
        some final ∧
      createdReply.code = createdCode ∧ final.Processed () createdReply.exchange := by
  rcases firstReadingRun_finished with ⟨final, record, ran, finished, received, -⟩
  exact ⟨final, ran, reachable_reply_processed ⟨firstReadingRun, ran⟩ () record createdReply
    finished received⟩

/-! ### Success of a call -/

/-- Nothing is duplicated and `poll` does not fail. -/
def Orderly : HomeAction Name → Prop
  | .duplicateRequest _ _ => False
  | .node _ (.sampling (.client (.duplicateReply _))) => False
  | .node _ (.sampling (.client (.receive faults))) => faults.pollFails = false
  | _ => True

theorem createdCode_success : SuccessCode createdCode :=
  ⟨by decide, by decide⟩

theorem Orderly.client {action : HomeAction Name} (orderly : Orderly action)
    (stepped : home.step household action = some next) {name : Name} {inner : NodeAction}
    (taken : home.nodeAction action = some (name, .sampling (.client inner))) :
    inner.Orderly := by
  cases action with
  | node other outer =>
      cases taken
      cases inner with
      | hubReply index code => cases stepped
      | duplicateRequest index => cases stepped
      | duplicateReply index => exact orderly
      | receive faults => exact orderly
      | _ => trivial
  | send other ok locals =>
      cases taken
      trivial
  | loseRequest other index =>
      rcases Option.map_eq_some_iff.1 taken with ⟨request, -, equal⟩
      cases equal
      trivial
  | duplicateRequest other index => exact orderly.elim
  | post other index locals => cases taken
  | answer =>
      rcases Option.map_eq_some_iff.1 taken with ⟨under, -, equal⟩
      cases equal
      exact createdCode_success
  | hub inner => cases taken

/-- Each node alone with its request, and its successful calls answered. -/
def HomeNetwork.Undisturbed (household : Household Name) (home : HomeNetwork Name) : Prop :=
  ∀ name, (home.node name).node.client.Solitary (household.fresh name) ∧
    (home.node name).node.client.OwnAnswers

theorem HomeNetwork.Undisturbed.step (undisturbed : home.Undisturbed household)
    {action : HomeAction Name} (orderly : Orderly action)
    (stepped : home.step household action = some next) : next.Undisturbed household := by
  intro name
  have before := undisturbed name
  rcases HomeNetwork.node_cases stepped with ⟨-, same⟩ | ⟨other, inner, node, taken, moved, same⟩
  · rw [same]
    exact before
  · rw [same]
    by_cases here : name = other
    · subst here
      rw [Function.update_self]
      rcases StartedNode.client_step moved with ⟨client, rfl, stepped'⟩ | ⟨-, unmoved⟩
      · have quiet := orderly.client stepped taken
        exact ⟨solitary_step quiet before.1 stepped', before.2.step quiet before.1 stepped'⟩
      · rw [unmoved]
        exact before
    · rw [Function.update_of_ne here]
      exact before

/-- Where nothing is duplicated and no `poll` fails, a call of a node that succeeds has
had its own request processed by the hub. -/
theorem orderly_success_processed (household : Household Name)
    (actions : List (HomeAction Name)) (final : HomeNetwork Name)
    (orderly : ∀ action ∈ actions, Orderly action)
    (ran : (homeMachine household).run HomeNetwork.powerOn actions = some final)
    (name : Name) (record : CallRecord)
    (finished : record ∈ (final.node name).node.client.finished) (success : 0 ≤ record.ret) :
    record.sent = true ∧ final.Processed name record.exchange := by
  have undisturbed := (homeMachine household).run_preserves_within Orderly
    (HomeNetwork.Undisturbed household)
    (fun _ _ _ orderly undisturbed stepped => undisturbed.step orderly stepped)
    HomeNetwork.powerOn final actions orderly
    (fun _ => ⟨solitary_start, fun _ finished => nomatch finished⟩) ran
  rcases (undisturbed name).2 record finished success with ⟨sent, reply, received, same, -⟩
  have reached : (homeMachine household).Reachable final := ⟨actions, ran⟩
  have answered := reachable_answered reached
  rw [← same]
  exact ⟨sent, (answered.heard name reply (received_heard finished received)).2⟩

theorem firstReading_success_processed :
    ∃ final record, (homeMachine oneNodeHousehold).run HomeNetwork.powerOn firstReadingRun =
        some final ∧ record ∈ (final.node ()).node.client.finished ∧
      record.sent = true ∧ final.Processed () record.exchange := by
  rcases firstReadingRun_finished with ⟨final, record, ran, finished, -, success⟩
  refine ⟨final, record, ran, finished, orderly_success_processed oneNodeHousehold
    firstReadingRun final ?_ ran () record finished (Int.le_of_eq success.symm)⟩
  simp [firstReadingRun, loopingRun, sampledRun, requestingRun, submittingRun, answeringRun,
    Orderly, ReplyFaults.none]

end ZephyrHomeHub.System
