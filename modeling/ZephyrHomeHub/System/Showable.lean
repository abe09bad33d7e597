import ZephyrHomeHub.Hub.Delivery
import ZephyrHomeHub.System.Answerable
import ZephyrHomeHub.System.HouseholdTable

/-! That the next reading of a node can be shown. Whatever has happened before, a node
that is between two calls can send, the hub can finish what it has and take the request,
and the drain loop can put it on the card of the node. -/

namespace ZephyrHomeHub.System

open Foundation.CString Foundation.ComponentView Foundation.HexBytes Foundation.LabelledMachine
open Foundation.LossyChannel ZephyrHomeHub.Hub ZephyrHomeHub.Node

variable {Name : Type} {household : Household Name} {home next : HomeNetwork Name}

/-- The steps of devices that work, on a network that does no harm, with a node's call up
to its `send` and the choice of the temperature tab. -/
def Reports : HomeAction Name → Prop
  | .send _ ok _ => ok = true
  | .node _ (.sampling .getLatestSensorValueChar) => True
  | .hub (.tabEvent tabIdx) => tabIdx = tabTemperature
  | action => Serves action

theorem Serves.reports {action : HomeAction Name} (serves : Serves action) : Reports action := by
  cases action with
  | node name inner =>
      cases inner with
      | sampling step =>
          cases step with
          | getLatestSensorValueChar => trivial
          | _ => exact serves
      | _ => exact serves
  | send name ok locals => exact serves.elim
  | hub inner =>
      cases inner with
      | tabEvent tabIdx => cases serves
      | _ => exact serves
  | _ => exact serves

/-- The temperature that the next `send` of the node carries: the copy of the call it is
in, or the value last stored. -/
def SamplingNode.nextReading (node : SamplingNode) : Q31Reading :=
  match node.main with
  | .looping (some copied) => copied
  | _ => node.sensorLastValue.temperature

structure HomeNetwork.Called (home : HomeNetwork Name) (name : Name) (reading : Q31Reading) :
    Prop where
  looping : home.hub.phase = .looping
  running : (home.node name).phase = .running
  main : (home.node name).node.main = .looping (some reading)
  asleep : (home.node name).node.client.phase = .sleeping

structure HomeNetwork.Waited (home : HomeNetwork Name) (name : Name) (reading : Q31Reading) :
    Prop where
  called : home.Called name reading
  rest : home.hub.rank = 0
  free : home.answering = none
  active : home.hub.temperatureTabActive = true

variable [DecidableEq Name]

/-! ### The node's side -/

theorem StartedNode.running_of_looping {fresh : FreshExchanges} {started : StartedNode}
    (reachable : (startedNodeMachine fresh).Reachable started) {copied : Option Q31Reading}
    (main : started.node.main = .looping copied) : started.phase = .running := by
  have ordered : started.Ordered := reachable.invariant StartedNode.Ordered ordered_powerOn
    (fun _ _ _ before stepped => before.step stepped)
  by_contra outside
  rw [ordered.untouched outside] at main
  cases main

theorem StartedNode.copy_step {fresh : FreshExchanges} {started : StartedNode}
    (running : started.phase = .running) (main : started.node.main = .looping none)
    (asleep : started.node.client.phase = .sleeping) :
    started.step fresh (.sampling .getLatestSensorValueChar) =
      some { started with
        node := { started.node with
          main := .looping (some started.node.sensorLastValue.temperature) } } := by
  have taken : started.node.getLatestSensorValueChar =
      some { started.node with
        main := .looping (some started.node.sensorLastValue.temperature) } := by
    unfold SamplingNode.getLatestSensorValueChar
    rw [main, asleep]
  rcases started with ⟨phase, wifi, wait, node⟩
  cases running
  exact congrArg (Option.map _) taken

theorem StartedNode.send_step {fresh : FreshExchanges} {started : StartedNode}
    {reading : Q31Reading} (running : started.phase = .running)
    (main : started.node.main = .looping (some reading))
    (asleep : started.node.client.phase = .sleeping) :
    ∃ node, started.step fresh (.sampling (.client (.send true))) = some node := by
  have sent : (started.node.client.step fresh (.send true)).isSome = true := by
    change (started.node.client.send fresh true).isSome = true
    unfold NodeState.send
    rw [asleep]
    rfl
  rcases Option.isSome_iff_exists.1 sent with ⟨client, moved⟩
  have stepped : (started.node.clientStep fresh (.send true)).isSome = true := by
    unfold SamplingNode.clientStep
    rw [main]
    simp only [moved, Option.bind_some, Option.isSome_some]
  rcases Option.isSome_iff_exists.1 stepped with ⟨node, taken⟩
  rcases started with ⟨phase, wifi, wait, before⟩
  cases running
  exact ⟨_, congrArg (Option.map _) taken⟩

theorem HomeNetwork.leads_called {name : Name} {copied : Option Q31Reading}
    (reachable : (homeMachine household).Reachable home) (looping : home.hub.phase = .looping)
    (main : (home.node name).node.main = .looping copied)
    (asleep : (home.node name).node.client.phase = .sleeping) :
    (homeMachine household).Leads Reports home fun next =>
      next.Called name (SamplingNode.nextReading (home.node name).node) := by
  have running : (home.node name).phase = .running :=
    StartedNode.running_of_looping ((nodeView household name).reachable reachable) main
  cases copied with
  | some reading =>
      refine .here ⟨looping, running, ?_, asleep⟩
      rw [main, SamplingNode.nextReading, main]
  | none =>
      have moved := @StartedNode.copy_step (household.fresh name) _ running main asleep
      have stepped : home.step household (.node name (.sampling .getLatestSensorValueChar)) =
          some { home with node := Function.update home.node name _ } :=
        congrArg (Option.map _) moved
      have reads : SamplingNode.nextReading (home.node name).node =
          (home.node name).node.sensorLastValue.temperature := by
        rw [SamplingNode.nextReading, main]
      have may : Reports (.node name (.sampling .getLatestSensorValueChar)) := trivial
      refine Machine.Leads.step may stepped (.here ⟨looping, ?_, ?_, ?_⟩)
      · change (Function.update home.node name _ name).phase = _
        rw [Function.update_self]
        exact running
      · change (Function.update home.node name _ name).node.main = _
        rw [Function.update_self, reads]
      · change (Function.update home.node name _ name).node.client.phase = _
        rw [Function.update_self]
        exact asleep

/-! ### The hub's side -/

theorem HomeNetwork.Called.leads_rest {name : Name} {reading : Q31Reading}
    (called : home.Called name reading) :
    (homeMachine household).Leads Reports home fun next =>
      next.Called name reading ∧ next.hub.rank = 0 := by
  refine (HomeNetwork.serves_rest called.looping).mono (fun _ => Serves.reports) ?_
  rintro final ⟨hub, rfl, looping, zero⟩
  exact ⟨⟨looping, called.running, called.main, called.asleep⟩, zero⟩

theorem StartedNode.update_withClient {node : Name → StartedNode} {other : Name}
    {client : NodeState} (phase : client.phase = (node other).node.client.phase) (name : Name) :
    (Function.update node other (StartedNode.withClient (node other) client) name).phase =
        (node name).phase ∧
      (Function.update node other (StartedNode.withClient (node other) client) name).node.main =
        (node name).node.main ∧
      (Function.update node other
          (StartedNode.withClient (node other) client) name).node.client.phase =
        (node name).node.client.phase := by
  by_cases same : name = other
  · subst same
    rw [Function.update_self]
    exact ⟨rfl, rfl, phase⟩
  · rw [Function.update_of_ne same]
    exact ⟨rfl, rfl, rfl⟩

theorem HomeNetwork.Called.leads_free {name : Name} {reading : Q31Reading}
    (called : home.Called name reading) (zero : home.hub.rank = 0)
    (reachable : (homeMachine household).Reachable home) :
    (homeMachine household).Leads Reports home fun next =>
      next.Called name reading ∧ next.hub.rank = 0 ∧ next.answering = none := by
  cases answering : home.answering with
  | none => exact .here ⟨called, zero, answering⟩
  | some exchanging =>
      rcases exchanging with ⟨other, exchange⟩
      have idle := (StartedHub.drained_of_rank zero).idle
      have answered := HomeNetwork.answer_step reachable answering idle
      have may : Reports (HomeAction.answer : HomeAction Name) := trivial
      have kept := @StartedNode.update_withClient Name _ home.node other
        { (home.node other).node.client with
          requests := (home.node other).node.client.requests.erase exchange
          replies := (home.node other).node.client.replies ++
            [{ exchange := exchange, code := createdCode }] } rfl name
      rcases kept with ⟨phase, main, asleep⟩
      refine Machine.Leads.step may answered (.here ⟨⟨called.looping, ?_, ?_, ?_⟩, zero, rfl⟩)
      · exact phase.trans called.running
      · exact main.trans called.main
      · exact asleep.trans called.asleep

theorem HomeNetwork.Called.leads_waited {name : Name} {reading : Q31Reading}
    (called : home.Called name reading) (zero : home.hub.rank = 0)
    (free : home.answering = none) :
    (homeMachine household).Leads Reports home fun next => next.Waited name reading := by
  have held := (StartedHub.drained_of_rank zero).held
  have switched : home.hub.step (.tabEvent tabTemperature) =
      some { home.hub with temperatureTabActive := true } :=
    if_pos ⟨called.looping, held⟩
  have stepped : home.step household (.hub (.tabEvent tabTemperature)) =
      some { home with hub := { home.hub with temperatureTabActive := true } } :=
    congrArg (Option.map _) switched
  have may : Reports (.hub (.tabEvent tabTemperature) : HomeAction Name) := rfl
  refine Machine.Leads.step may stepped (.here ?_)
  exact ⟨⟨called.looping, called.running, called.main, called.asleep⟩, zero, free, rfl⟩

theorem HomeNetwork.leads_waited {name : Name} {copied : Option Q31Reading}
    (reachable : (homeMachine household).Reachable home) (looping : home.hub.phase = .looping)
    (main : (home.node name).node.main = .looping copied)
    (asleep : (home.node name).node.client.phase = .sleeping) :
    (homeMachine household).Leads Reports home fun next =>
      next.Waited name (SamplingNode.nextReading (home.node name).node) := by
  refine (HomeNetwork.leads_called reachable looping main asleep).trans ?_ reachable
  intro copy reached called
  refine called.leads_rest.trans ?_ reached
  rintro rest reached ⟨called, zero⟩
  refine (called.leads_free zero reached).trans ?_ reached
  rintro free reached ⟨called, zero, answered⟩
  exact called.leads_waited zero answered

/-! ### The reading on its way -/

def noQueryLocals : QueryLocals :=
  { nodeId := Buffer.zero _
    queryParam := Buffer.zero _ }

/-- The last request of the node carries the reading, and the hub can take it. -/
structure HomeNetwork.Offered (home : HomeNetwork Name) (name : Name) (request : Request)
    (reading : Q31Reading) : Prop where
  requests : ∃ earlier, home.requests name = earlier ++ [request]
  payload : request.payload = sentPayload reading
  looping : home.hub.phase = .looping
  rest : home.hub.rank = 0
  free : home.answering = none
  active : home.hub.temperatureTabActive = true

def HomeNetwork.Sends (household : Household Name) (home : HomeNetwork Name) (name : Name)
    (reading : Q31Reading) (next : HomeNetwork Name) : Prop :=
  home.step household (.send name true noQueryLocals) = some next ∧
    ∃ request, next.requests name = home.requests name ++ [request] ∧
      request.payload = sentPayload reading

theorem HomeNetwork.Waited.sends {name : Name} {reading : Q31Reading}
    (waited : home.Waited name reading) (household : Household Name) :
    ∃ next request, home.Sends household name reading next ∧
      next.Offered name request reading := by
  rcases waited with ⟨⟨looping, running, main, asleep⟩, rest, free, active⟩
  have made : ∃ request, home.request household name noQueryLocals = some request := by
    unfold HomeNetwork.request
    rw [main, sentQuery_eq]
    exact ⟨_, rfl⟩
  rcases made with ⟨request, made⟩
  rcases @StartedNode.send_step (household.fresh name) _ _ running main asleep with
    ⟨node, sent⟩
  have stepped : home.step household (.send name true noQueryLocals) =
      some
        { home with
          node := Function.update home.node name node
          requests := Function.update home.requests name (home.requests name ++ [request]) } := by
    change home.send household name true noQueryLocals = _
    unfold HomeNetwork.send HomeNetwork.client HomeNetwork.moveNode
    rw [made, Option.bind_some, sent]
    rfl
  have added := Function.update_self name (home.requests name ++ [request]) home.requests
  have payload := HomeNetwork.request_payload main made
  exact ⟨_, request, ⟨stepped, request, added, payload⟩,
    ⟨⟨home.requests name, added⟩, payload, looping, rest, free, active⟩⟩

def HomeNetwork.offeredMsg (home : HomeNetwork Name) (request : Request) : TempDataMsg :=
  tempNodePost home.hub.clocked.uptime noLocals request.post

theorem HomeNetwork.Offered.leads_stored {name : Name} {request : Request} {reading : Q31Reading}
    (offered : home.Offered name request reading)
    (reachable : (homeMachine household).Reachable home) :
    (homeMachine household).Leads Reports home fun final =>
      (∃ entry ∈ final.handled, entry.node = name ∧ entry.msg = home.offeredMsg request) ∧
        final.hub.clocked.held = none ∧
        final.hub.clocked.pipeline.received =
          home.hub.clocked.pipeline.received ++ [home.offeredMsg request] ∧
        final.hub.clocked.nodes =
          (drainBody home.hub.context home.hub.clocked.nodes (home.offeredMsg request)).1 := by
  rcases offered with ⟨⟨earlier, requests⟩, payload, looping, rest, free, active⟩
  have prepared : home.hub.Prepared := reachable_prepared ((hubView household).reachable reachable)
  have ready : home.hub.clocked.pipeline.workPoolInit = true := by
    rw [prepared.workPool, looping]
    rfl
  rcases StartedHub.delivers looping ready rest noLocals request.post with
    ⟨final, ran, held, received, nodes⟩
  rcases (startedMachine.run_cons_eq_some _ _ _ _).1 ran with ⟨middle, posted, continued⟩
  have handed : handOver (home.requests name) earlier.length = some (request, earlier) := by
    rw [requests]
    exact handOver_last earlier request
  have stepped : home.step household (.post name earlier.length noLocals) =
      some
        { home with
          requests := Function.update home.requests name earlier
          answering := some (name, request.exchange)
          hub := middle
          handled := home.handled ++
            [{ node := name, request := request, msg := home.offeredMsg request }] } := by
    change home.post name earlier.length noLocals = _
    unfold HomeNetwork.post
    rw [free]
    simp only [handed, Option.bind_some]
    change Option.map _ (startedMachine.step home.hub (.post noLocals request.post)) = _
    rw [posted]
    rfl
  have noPost : ∀ action ∈ deliverySteps, isPost action = false := by
    simp [deliverySteps, isPost]
  have may : Reports (.post name earlier.length noLocals) := trivial
  refine Machine.Leads.step may stepped
    ⟨deliverySteps.map HomeAction.hub, _, ?_, HomeNetwork.run_hub noPost continued, ?_⟩
  · intro action member
    rcases List.mem_map.1 member with ⟨inner, here, rfl⟩
    exact Serves.reports (deliverySteps_drain inner here)
  · refine ⟨⟨_, List.mem_append_right _ (List.mem_singleton.2 rfl), rfl, rfl⟩, held, received,
      nodes⟩

/-- The card of the node's slot shows the temperature, and not as a stale one. -/
def HomeNetwork.Shows (household : Household Name) (home : HomeNetwork Name) (name : Name)
    (reading : Q31Reading) : Prop :=
  ∃ slot card, (home.hub.clocked.nodes slot).used = true ∧
    (home.hub.clocked.nodes slot).id = household.id name ∧
    (home.hub.clocked.nodes slot).card = some card ∧
    card.labelTemp = temperatureText (reportedTemperature reading) ∧ ¬card.red

theorem reachable_matches (reachable : (homeMachine household).Reachable home)
    (fits : household.FitsTable) (dealt : home.hub.clocked.held = none) {msg : TempDataMsg}
    (received : msg ∈ home.hub.clocked.pipeline.received) :
    ∃ slot, (home.hub.clocked.nodes slot).matches msg.nodeId := by
  rcases reachable_household_table reachable fits with ⟨sources, within, same, slots, -⟩
  rw [dealt, Option.toList_none, List.append_nil] at same
  rw [← same] at received
  rcases List.mem_map.1 received with ⟨source, member, rfl⟩
  rcases slots source member with ⟨slot, holds⟩
  have identified := reachable_identified reachable source (within.subset member)
  exact ⟨slot, holds.used, holds.labelled.trans identified.symm⟩

theorem HomeNetwork.Offered.leads_shown {name : Name} {request : Request} {reading : Q31Reading}
    (offered : home.Offered name request reading) (fits : household.FitsTable)
    (reachable : (homeMachine household).Reachable home) :
    (homeMachine household).Leads Reports home fun final =>
      final.Shows household name reading := by
  have prepared : home.hub.Prepared := reachable_prepared ((hubView household).reachable reachable)
  refine (offered.leads_stored reachable).trans ?_ reachable
  rintro final reached ⟨⟨entry, handled, node, message⟩, dealt, received, nodes⟩
  have among : home.offeredMsg request ∈ final.hub.clocked.pipeline.received := by
    rw [received]
    exact List.mem_append_right _ (List.mem_singleton.2 rfl)
  have stored := reachable_matches reached fits dealt among
  rw [nodes] at stored
  rcases drainBody_shows offered.active (prepared.tab offered.looping) rfl stored with
    ⟨slot, card, used, id, has, labels, fresh⟩
  have own : (home.offeredMsg request).id = household.id name := by
    rw [← message, ← node]
    exact reachable_identified reached entry handled
  have temperature : (home.offeredMsg request).temperature = reportedTemperature reading :=
    posted_temperature offered.payload _ _
  refine .here ⟨slot, card, ?_, ?_, ?_, ?_, fresh⟩
  · rw [nodes]
    exact used
  · rw [nodes, id, own]
  · rw [nodes]
    exact has
  · rw [← temperature]
    exact congrArg Prod.fst labels

/-- With at most six ids in the household, in every state of the network in which the
hub is in its loop and a node is between two calls or about to send: without a loss, a
copy or a fault the node can send, and after this the hub can come to show what it sent
on the card of the node, and not as stale. -/
theorem reachable_reading_showable (reachable : (homeMachine household).Reachable home)
    (fits : household.FitsTable) (looping : home.hub.phase = .looping) (name : Name)
    {copied : Option Q31Reading} (main : (home.node name).node.main = .looping copied)
    (asleep : (home.node name).node.client.phase = .sleeping) :
    (homeMachine household).Leads Reports home fun ready =>
      ∃ sent,
        ready.Sends household name (SamplingNode.nextReading (home.node name).node) sent ∧
        (homeMachine household).Leads Reports sent fun final =>
          final.Shows household name (SamplingNode.nextReading (home.node name).node) := by
  refine (HomeNetwork.leads_waited reachable looping main asleep).trans ?_ reachable
  intro ready reached waited
  rcases waited.sends household with ⟨sent, request, sends, offered⟩
  have stepped : (homeMachine household).step ready (.send name true noQueryLocals) = some sent :=
    sends.1
  exact .here ⟨sent, sends, offered.leads_shown fits (reached.step stepped)⟩

def sampledHomeRun : List (HomeAction Unit) :=
  loopingRun.map HomeAction.hub ++ sampledRun.map (HomeAction.node ())

theorem sampledHomeRun_ready :
    (((homeMachine oneNodeHousehold).run HomeNetwork.powerOn sampledHomeRun).map fun home =>
      (home.hub.phase, (home.node ()).node.client.phase,
        match (home.node ()).node.main with
        | .looping _ => true
        | _ => false)) = some (.looping, .sleeping, true) := by
  decide +kernel

theorem sampledHomeRun_showable :
    ∃ home, (homeMachine oneNodeHousehold).run HomeNetwork.powerOn sampledHomeRun = some home ∧
      (homeMachine oneNodeHousehold).Leads Reports home fun ready =>
        ∃ sent,
          ready.Sends oneNodeHousehold () (SamplingNode.nextReading (home.node ()).node) sent ∧
          (homeMachine oneNodeHousehold).Leads Reports sent fun final =>
            final.Shows oneNodeHousehold () (SamplingNode.nextReading (home.node ()).node) := by
  rcases Option.map_eq_some_iff.1 sampledHomeRun_ready with ⟨home, ran, ready⟩
  simp only [Prod.mk.injEq] at ready
  rcases ready with ⟨looping, asleep, started⟩
  split at started
  · rename_i copied main
    exact ⟨home, ran, reachable_reading_showable ⟨sampledHomeRun, ran⟩ oneNodeHousehold_fits
      looping () main asleep⟩
  · cases started

end ZephyrHomeHub.System
