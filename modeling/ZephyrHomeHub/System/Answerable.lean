import ZephyrHomeHub.Hub.Draining
import ZephyrHomeHub.System.Acknowledged

/-! A node that waits can be answered. Whatever the threads of the hub and the other
nodes are in, the hub comes to an end with what it has, then with the request of this
node, and its answer ends the node's call. -/

namespace ZephyrHomeHub.System

open Foundation.CString Foundation.ComponentView Foundation.LabelledMachine
open Foundation.LossyChannel ZephyrHomeHub.Hub ZephyrHomeHub.Node

variable {Name : Type} {household : Household Name} {home next : HomeNetwork Name}

/-! ### A client that has done something is in the loop of `main` -/

def SamplingNode.Engaged (node : SamplingNode) : Prop :=
  node.client = NodeState.start ∨ ∃ copied, node.main = .looping copied

theorem SamplingNode.Engaged.step {fresh : FreshExchanges} {node after : SamplingNode}
    {action : SamplingAction} (engaged : Engaged node)
    (stepped : node.step fresh action = some after) : Engaged after := by
  have elsewhere : (∀ copied, node.main ≠ .looping copied) → node.client = NodeState.start :=
    fun notLooping => engaged.resolve_right fun ⟨copied, looping⟩ => notLooping copied looping
  cases SamplingNode.step_moves stepped with
  | setUp device sensor main =>
      refine .inl (elsewhere ?_)
      intro copied
      rw [main]
      exact MainThread.noConfusion
  | startClient ret main =>
      refine .inl (elsewhere ?_)
      intro copied
      rw [main]
      exact MainThread.noConfusion
  | copy main => exact .inr ⟨_, rfl⟩
  | send ok reading client main moved => exact .inr ⟨none, rfl⟩
  | prepareFails errno reading client main moved => exact .inr ⟨none, rfl⟩
  | client inner copied client keeps main moved => exact .inr ⟨copied, main⟩
  | sense action sensor delivered senses => exact engaged
  | store values sensor => exact engaged

/-- A client that is not as at the start takes any step of its own. -/
structure StartedNode.Serving (started : StartedNode) : Prop where
  running : started.phase = .running
  looping : ∃ copied, started.node.main = .looping copied

theorem reachable_serving {fresh : FreshExchanges} {started : StartedNode}
    (reachable : (startedNodeMachine fresh).Reachable started)
    (touched : started.node.client ≠ NodeState.start) : StartedNode.Serving started := by
  have ordered : started.Ordered := reachable.invariant StartedNode.Ordered ordered_powerOn
    (fun _ _ _ before stepped => before.step stepped)
  have engaged : SamplingNode.Engaged started.node :=
    ((samplingView fresh).reachable reachable).invariant SamplingNode.Engaged (.inl rfl)
      (fun _ _ _ engaged stepped => engaged.step stepped)
  constructor
  · by_contra outside
    exact touched (congrArg SamplingNode.client (ordered.untouched outside))
  · exact engaged.resolve_left touched

theorem SamplingNode.clientStep_eq {fresh : FreshExchanges} {node : SamplingNode}
    {action : NodeAction} {client : NodeState} {copied : Option Q31Reading}
    (main : node.main = .looping copied) (notSend : ∀ ok, action ≠ .send ok)
    (notPrepare : ∀ errno, action ≠ .prepareFails errno)
    (stepped : node.client.step fresh action = some client) :
    node.clientStep fresh action = some { node with client := client } := by
  rcases node with ⟨thread, before, sensor, lastValue, delivered, sent⟩
  cases main
  change (before.step fresh action).bind _ = _
  rw [stepped, Option.bind_some]
  cases action with
  | send ok => exact absurd rfl (notSend ok)
  | prepareFails errno => exact absurd rfl (notPrepare errno)
  | _ => rfl

def StartedNode.withClient (started : StartedNode) (client : NodeState) : StartedNode :=
  { started with node := { started.node with client := client } }

theorem StartedNode.Serving.client_step {fresh : FreshExchanges} {started : StartedNode}
    (serving : StartedNode.Serving started) {action : NodeAction} {client : NodeState}
    (notSend : ∀ ok, action ≠ .send ok) (notPrepare : ∀ errno, action ≠ .prepareFails errno)
    (stepped : started.node.client.step fresh action = some client) :
    started.step fresh (.sampling (.client action)) =
      some (StartedNode.withClient started client) := by
  rcases serving.looping with ⟨copied, main⟩
  have moved := SamplingNode.clientStep_eq main notSend notPrepare stepped
  rcases started with ⟨phase, wifi, addressWait, node⟩
  cases serving.running
  exact congrArg (Option.map _) moved

theorem NodeState.hubReply_inFlight {node : NodeState} {exchange : Exchange}
    (fresh : FreshExchanges) (inFlight : exchange ∈ node.requests) (code : Nat) :
    node.step fresh (.hubReply (node.requests.idxOf exchange) code) =
      some { node with
        requests := node.requests.erase exchange
        replies := node.replies ++ [{ exchange := exchange, code := code }] } := by
  change node.hubReply _ _ = _
  unfold NodeState.hubReply
  rw [handOver_idxOf inFlight]
  rfl

theorem NodeState.deliver_last {node : NodeState} {earlier : List Reply} {reply : Reply}
    (fresh : FreshExchanges) (replies : node.replies = earlier ++ [reply]) :
    node.step fresh (.deliver earlier.length) =
      some { node with replies := earlier, socket := node.socket ++ [.reply reply] } := by
  change node.deliver _ = _
  unfold NodeState.deliver
  rw [replies, handOver_last]
  rfl

theorem NodeState.receive_first {node : NodeState} {sent : Bool} {reply : Reply}
    {rest : List Datagram} (fresh : FreshExchanges) (phase : node.phase = .waiting sent)
    (socket : node.socket = .reply reply :: rest) :
    node.step fresh (.receive ReplyFaults.none) =
      some ({ node with socket := rest }.finishCall
        { exchange := fresh node.calls
          sent := sent
          received := some (.reply reply)
          ret := 0 }) := by
  change node.receive fresh _ = _
  unfold NodeState.receive
  rw [phase, socket]
  rfl

structure HomeNetwork.StillWaiting (before home : HomeNetwork Name) (name : Name) : Prop where
  waiting : ∃ sent, (home.node name).node.client.phase = .waiting sent
  socket : (home.node name).node.client.socket = []
  finished : (home.node name).node.client.finished = (before.node name).node.client.finished
  looping : home.hub.phase = .looping

theorem HomeNetwork.StillWaiting.of_client {before middle after : HomeNetwork Name} {name : Name}
    (still : before.StillWaiting middle name)
    (phase : (after.node name).node.client.phase = (middle.node name).node.client.phase)
    (socket : (after.node name).node.client.socket = (middle.node name).node.client.socket)
    (finished : (after.node name).node.client.finished =
      (middle.node name).node.client.finished)
    (looping : after.hub.phase = middle.hub.phase) : before.StillWaiting after name :=
  { waiting := phase ▸ still.waiting
    socket := socket.trans still.socket
    finished := finished.trans still.finished
    looping := looping.trans still.looping }

/-! ### The hub comes to an end with what it has -/

variable [DecidableEq Name]

theorem HomeNetwork.run_hub {actions : List StartedAction} {hub : StartedHub}
    (noPost : ∀ action ∈ actions, isPost action = false)
    (ran : startedMachine.run home.hub actions = some hub) :
    (homeMachine household).run home (actions.map HomeAction.hub) =
      some { home with hub := hub } := by
  induction actions generalizing home with
  | nil =>
      cases ran
      rfl
  | cons action rest ih =>
      rcases List.forall_mem_cons.1 noPost with ⟨here, later⟩
      rcases (startedMachine.run_cons_eq_some _ _ _ _).1 ran with ⟨middle, stepped, continued⟩
      have moved : home.step household (.hub action) = some { home with hub := middle } := by
        change (if isPost action then none else (home.hub.step action).map _) = _
        rw [here]
        exact congrArg (Option.map _) stepped
      have afterwards := @ih { home with hub := middle } later continued
      exact ((homeMachine household).run_cons_eq_some _ _ _ _).2 ⟨_, moved, afterwards⟩

/-- The steps of devices that work, on a network that loses, copies and damages
nothing. -/
def Serves : HomeAction Name → Prop
  | .hub action => action.drains = true
  | .post _ _ _ => True
  | .answer => True
  | .node _ (.sampling (.client (.deliver _))) => True
  | .node _ (.sampling (.client (.receive faults))) => faults = ReplyFaults.none
  | _ => False

def HomeNetwork.Serves (household : Household Name) (home : HomeNetwork Name)
    (good : HomeNetwork Name → Prop) : Prop :=
  (homeMachine household).Leads System.Serves home good

theorem HomeNetwork.Serves.trans {middle last : HomeNetwork Name → Prop}
    (first : home.Serves household middle)
    (second : ∀ between, (homeMachine household).Reachable between → middle between →
      between.Serves household last)
    (reachable : (homeMachine household).Reachable home) : home.Serves household last :=
  Machine.Leads.trans first second reachable

theorem HomeNetwork.Serves.step {good : HomeNetwork Name → Prop} {action : HomeAction Name}
    (served : System.Serves action) (stepped : home.step household action = some next)
    (reached : good next) : home.Serves household good :=
  Machine.Leads.step served stepped (.here reached)

theorem HomeNetwork.serves_rest (looping : home.hub.phase = .looping) :
    home.Serves household fun final => ∃ hub : StartedHub,
      final = { home with hub := hub } ∧ hub.phase = .looping ∧ hub.rank = 0 := by
  rcases StartedHub.reaches_rest looping with ⟨actions, hub, own, ran, still, zero⟩
  have noPost : ∀ action ∈ actions, isPost action = false := by
    intro action member
    have drains := own action member
    cases action with
    | post locals request => cases drains
    | _ => rfl
  refine ⟨actions.map HomeAction.hub, { home with hub := hub }, ?_, HomeNetwork.run_hub noPost ran,
    hub, rfl, still, zero⟩
  intro action member
  rcases List.mem_map.1 member with ⟨inner, here, rfl⟩
  exact own inner here

theorem HomeNetwork.serves_drained (looping : home.hub.phase = .looping) :
    home.Serves household fun final => ∃ hub : StartedHub,
      final = { home with hub := hub } ∧ hub.phase = .looping ∧ hub.Drained := by
  refine (HomeNetwork.serves_rest looping).mono (fun _ served => served) ?_
  rintro final ⟨hub, same, still, zero⟩
  exact ⟨hub, same, still, StartedHub.drained_of_rank zero⟩

/-! ### One request at a time -/

theorem HomeNetwork.client_step {name : Name} {action : NodeAction} {client : NodeState}
    (keeps : movesRequest (.sampling (.client action)) = false)
    (serving : StartedNode.Serving (home.node name)) (notSend : ∀ ok, action ≠ .send ok)
    (notPrepare : ∀ errno, action ≠ .prepareFails errno)
    (stepped : (home.node name).node.client.step (household.fresh name) action = some client) :
    home.step household (.node name (.sampling (.client action))) =
      some { home with
        node := Function.update home.node name
          (StartedNode.withClient (home.node name) client) } := by
  change (if movesRequest _ then none else (home.moveNode household name _)) = _
  rw [keeps]
  exact congrArg (Option.map _) (serving.client_step notSend notPrepare stepped)

theorem reachable_node_serving (reachable : (homeMachine household).Reachable home) {name : Name}
    (touched : (home.node name).node.client ≠ NodeState.start) :
    StartedNode.Serving (home.node name) :=
  reachable_serving ((nodeView household name).reachable reachable) touched

theorem HomeNetwork.answer_step (reachable : (homeMachine household).Reachable home) {name : Name}
    {exchange : Exchange} (answering : home.answering = some (name, exchange))
    (idle : home.hub.clocked.pipeline.caller () = .idle) :
    home.step household .answer =
      some { home with
        node := Function.update home.node name (StartedNode.withClient (home.node name)
          { (home.node name).node.client with
            requests := (home.node name).node.client.requests.erase exchange
            replies := (home.node name).node.client.replies ++
              [{ exchange := exchange, code := createdCode }] })
        answering := none } := by
  have under : exchange ∈ home.underWay name :=
    List.mem_append_right _ (underAnswer_self answering ▸ List.mem_singleton.2 rfl)
  have inFlight := (reachable_inStep reachable).mem under
  have touched : (home.node name).node.client ≠ NodeState.start := by
    intro untouched
    rw [untouched] at inFlight
    cases inFlight
  have moved := (reachable_node_serving reachable touched).client_step
    (fun _ => NodeAction.noConfusion) (fun _ => NodeAction.noConfusion)
    (NodeState.hubReply_inFlight (household.fresh name) inFlight createdCode)
  change home.answer household = _
  unfold HomeNetwork.answer HomeNetwork.client HomeNetwork.moveNode
  rw [answering, idle]
  simp only
  rw [HomeNetwork.position, moved]
  rfl

/-- The CoAP thread, when it is in no exchange, takes the first request of a node. -/
theorem HomeNetwork.post_step {name : Name} {request : Request} {rest : List Request}
    (free : home.answering = none) (idle : home.hub.clocked.pipeline.caller () = .idle)
    (requests : home.requests name = request :: rest) :
    ∃ after, home.step household (.post name 0 noLocals) = some after ∧
      after.node = home.node ∧ after.answering = some (name, request.exchange) ∧
      after.hub.phase = home.hub.phase := by
  have called : (home.hub.step (.post noLocals request.post)).isSome = true := by
    change (Option.map _ (Option.map _ (home.hub.clocked.pipeline.call () _))).isSome = true
    rw [Option.isSome_map, Option.isSome_map]
    unfold Pipeline.call
    rw [idle]
    simp only
    split
    · rfl
    · rfl
  have possible : (home.step household (.post name 0 noLocals)).isSome = true := by
    change (home.post name 0 noLocals).isSome = true
    unfold HomeNetwork.post
    rw [free, requests, handOver_head]
    simp only [Option.bind_some, Option.isSome_map]
    exact called
  rcases Option.isSome_iff_exists.1 possible with ⟨after, stepped⟩
  refine ⟨after, stepped, ?_⟩
  rcases HomeNetwork.step_cases stepped with ⟨other, inner, node, impossible, -⟩ |
    ⟨other, ok, locals, made, node, impossible, -⟩ |
    ⟨other, index, taken, rest, node, impossible, -⟩ |
    ⟨other, index, taken, rest, node, impossible, -⟩ |
    ⟨other, index, locals, taken, rest, hub, same, -, handed, posted, rfl⟩ |
    ⟨other, exchange, node, impossible, -⟩ | ⟨inner, hub, impossible, -⟩
  · cases impossible
  · cases impossible
  · cases impossible
  · cases impossible
  · cases same
    rw [requests, handOver_head] at handed
    cases handed
    rcases StartedHub.within_cases posted with ⟨clocked, -, rfl⟩
    exact ⟨rfl, rfl, rfl⟩
  · cases impossible
  · cases impossible

/-! ### The end of the call -/

def HomeNetwork.Returned (before final : HomeNetwork Name) (name : Name) (reply : Reply) : Prop :=
  ∃ record : CallRecord, record.received = some (.reply reply) ∧ record.ret = 0 ∧
    (final.node name).node.client.finished =
      (before.node name).node.client.finished ++ [record]

/-- A node that waits at an empty socket, and a reply to it the last on its way. -/
structure HomeNetwork.ReplyComing (before home : HomeNetwork Name) (name : Name) (reply : Reply) :
    Prop where
  waiting : ∃ sent, (home.node name).node.client.phase = .waiting sent
  socket : (home.node name).node.client.socket = []
  finished : (home.node name).node.client.finished = (before.node name).node.client.finished
  coming : ∃ earlier, (home.node name).node.client.replies = earlier ++ [reply]

theorem touched_of_waiting {node : NodeState} {sent : Bool} (phase : node.phase = .waiting sent) :
    node ≠ NodeState.start := by
  intro untouched
  rw [untouched] at phase
  cases phase

theorem HomeNetwork.serves_received {before : HomeNetwork Name} {name : Name} {reply : Reply}
    (reachable : (homeMachine household).Reachable home) {sent : Bool}
    (phase : (home.node name).node.client.phase = .waiting sent)
    (socket : (home.node name).node.client.socket = [.reply reply])
    (finished : (home.node name).node.client.finished =
      (before.node name).node.client.finished) :
    home.Serves household fun final => before.Returned final name reply := by
  have serving := reachable_node_serving reachable (touched_of_waiting phase)
  have received := HomeNetwork.client_step rfl serving
    (fun _ => NodeAction.noConfusion) (fun _ => NodeAction.noConfusion)
    (NodeState.receive_first (household.fresh name) phase socket)
  have served : System.Serves (.node name (.sampling (.client (.receive ReplyFaults.none)))) := rfl
  refine HomeNetwork.Serves.step served received
    ⟨{ exchange := household.fresh name (home.node name).node.client.calls
       sent := sent
       received := some (.reply reply)
       ret := 0 }, rfl, rfl, ?_⟩
  change ((Function.update home.node name _ name).node.client.finished) = _
  rw [Function.update_self, ← finished]
  rfl

theorem HomeNetwork.serves_reply {before : HomeNetwork Name} {name : Name} {reply : Reply}
    (reachable : (homeMachine household).Reachable home)
    (coming : before.ReplyComing home name reply) :
    home.Serves household fun final => before.Returned final name reply := by
  rcases coming.waiting with ⟨sent, phase⟩
  rcases coming.coming with ⟨earlier, replies⟩
  have serving := reachable_node_serving reachable (touched_of_waiting phase)
  have delivered := HomeNetwork.client_step rfl serving
    (fun _ => NodeAction.noConfusion) (fun _ => NodeAction.noConfusion)
    (NodeState.deliver_last (household.fresh name) replies)
  have served : System.Serves (.node name (.sampling (.client (.deliver earlier.length)))) :=
    trivial
  have arrived : home.Serves household fun next =>
      (next.node name).node.client =
        { (home.node name).node.client with
          replies := earlier
          socket := (home.node name).node.client.socket ++ [.reply reply] } := by
    refine HomeNetwork.Serves.step served delivered ?_
    change (Function.update home.node name _ name).node.client = _
    rw [Function.update_self]
    rfl
  refine arrived.trans ?_ reachable
  intro between reached client
  have waiting : (between.node name).node.client.phase = .waiting sent := by
    rw [client]
    exact phase
  refine HomeNetwork.serves_received reached waiting ?_ ?_
  · rw [client, coming.socket]
    rfl
  · rw [client]
    exact coming.finished

theorem HomeNetwork.serves_answer {before : HomeNetwork Name} {name other : Name}
    {exchange : Exchange} (reachable : (homeMachine household).Reachable home)
    (still : before.StillWaiting home name) (answering : home.answering = some (other, exchange)) :
    home.Serves household fun final =>
      before.StillWaiting final name ∧ final.answering = none ∧
        final.hub.clocked.pipeline.caller () = .idle ∧ final.requests = home.requests ∧
        (other = name → ∃ earlier, (final.node name).node.client.replies =
          earlier ++ [{ exchange := exchange, code := createdCode }]) := by
  refine (HomeNetwork.serves_drained still.looping).trans ?_ reachable
  rintro between reached ⟨hub, rfl, looping, drained⟩
  have answered := HomeNetwork.answer_step reached answering drained.idle
  have served : System.Serves (HomeAction.answer : HomeAction Name) := trivial
  refine HomeNetwork.Serves.step served answered ⟨?_, rfl, drained.idle, rfl, ?_⟩
  · by_cases same : name = other
    · subst same
      refine still.of_client ?_ ?_ ?_ (looping.trans still.looping.symm)
      · change (Function.update home.node name _ name).node.client.phase = _
        rw [Function.update_self]
        rfl
      · change (Function.update home.node name _ name).node.client.socket = _
        rw [Function.update_self]
        rfl
      · change (Function.update home.node name _ name).node.client.finished = _
        rw [Function.update_self]
        rfl
    · have unmoved : ∀ node : StartedNode, Function.update home.node other node name =
          home.node name := fun node => Function.update_of_ne same node home.node
      refine still.of_client ?_ ?_ ?_ (looping.trans still.looping.symm)
      · exact congrArg (fun node => node.node.client.phase) (unmoved _)
      · exact congrArg (fun node => node.node.client.socket) (unmoved _)
      · exact congrArg (fun node => node.node.client.finished) (unmoved _)
  · rintro rfl
    refine ⟨(home.node other).node.client.replies, ?_⟩
    change (Function.update home.node other _ other).node.client.replies = _
    rw [Function.update_self]
    rfl

theorem HomeNetwork.serves_own {before : HomeNetwork Name} {name : Name} {exchange : Exchange}
    (reachable : (homeMachine household).Reachable home) (still : before.StillWaiting home name)
    (answering : home.answering = some (name, exchange)) :
    home.Serves household fun final =>
      before.Returned final name { exchange := exchange, code := createdCode } := by
  refine (HomeNetwork.serves_answer reachable still answering).trans ?_ reachable
  rintro between reached ⟨waits, -, -, -, own⟩
  exact HomeNetwork.serves_reply reached ⟨waits.waiting, waits.socket, waits.finished, own rfl⟩

theorem HomeNetwork.serves_request {before : HomeNetwork Name} {name : Name} {request : Request}
    {rest : List Request} (reachable : (homeMachine household).Reachable home)
    (still : before.StillWaiting home name) (free : home.answering = none)
    (idle : home.hub.clocked.pipeline.caller () = .idle)
    (requests : home.requests name = request :: rest) :
    home.Serves household fun final =>
      before.Returned final name { exchange := request.exchange, code := createdCode } := by
  rcases HomeNetwork.post_step free idle requests with ⟨after, posted, node, answering, phase⟩
  have served : System.Serves (HomeAction.post name 0 noLocals) := trivial
  have taken : home.Serves household fun middle => middle = after :=
    HomeNetwork.Serves.step served posted rfl
  refine taken.trans ?_ reachable
  rintro between reached rfl
  refine HomeNetwork.serves_own reached (still.of_client ?_ ?_ ?_ phase) answering
  · rw [node]
  · rw [node]
  · rw [node]

theorem HomeNetwork.exists_request {name : Name} (under : home.underWay name ≠ [])
    (others : home.underAnswer name = []) :
    ∃ request rest, home.requests name = request :: rest := by
  unfold HomeNetwork.underWay at under
  rw [others, List.append_nil] at under
  cases requests : home.requests name with
  | nil =>
      rw [requests] at under
      exact absurd rfl under
  | cons request rest => exact ⟨request, rest, rfl⟩

theorem HomeNetwork.request_underWay {name : Name} {request : Request} {rest : List Request}
    (requests : home.requests name = request :: rest) :
    request.exchange ∈ home.underWay name := by
  refine List.mem_append_left _ ?_
  rw [requests]
  exact List.mem_cons_self

/-- The node's call returns with the answer to a request of its own. -/
theorem HomeNetwork.serves_waiting {name : Name}
    (reachable : (homeMachine household).Reachable home) (still : home.StillWaiting home name)
    (under : home.underWay name ≠ []) :
    ∃ exchange ∈ home.underWay name, home.Serves household fun final =>
      home.Returned final name { exchange := exchange, code := createdCode } := by
  cases answering : home.answering with
  | none =>
      rcases HomeNetwork.exists_request under (underAnswer_none name answering) with
        ⟨request, rest, requests⟩
      refine ⟨request.exchange, HomeNetwork.request_underWay requests, ?_⟩
      refine (HomeNetwork.serves_drained still.looping).trans ?_ reachable
      rintro between reached ⟨hub, rfl, looping, drained⟩
      have waits : home.StillWaiting { home with hub := hub } name :=
        still.of_client rfl rfl rfl (looping.trans still.looping.symm)
      exact HomeNetwork.serves_request reached waits answering drained.idle requests
  | some exchanging =>
      rcases exchanging with ⟨other, exchange⟩
      by_cases own : other = name
      · subst own
        refine ⟨exchange, ?_, HomeNetwork.serves_own reachable still answering⟩
        exact List.mem_append_right _ (underAnswer_self answering ▸ List.mem_singleton.2 rfl)
      · have others := underAnswer_other (Ne.symm own) answering
        rcases HomeNetwork.exists_request under others with ⟨request, rest, requests⟩
        refine ⟨request.exchange, HomeNetwork.request_underWay requests, ?_⟩
        refine (HomeNetwork.serves_answer reachable still answering).trans ?_ reachable
        rintro between reached ⟨waits, free, idle, same, -⟩
        exact HomeNetwork.serves_request reached waits free idle
          ((congrFun same name).trans requests)

/-- In every state of the network in which the hub is in its loop, a node waits at an
empty socket and a request of this node is on its way or in the hub: without a loss, a
copy or a fault the hub can finish what it has and answer, so that the node's call
returns zero, and the request that was answered has been processed. -/
theorem reachable_waiting_answerable (reachable : (homeMachine household).Reachable home)
    (looping : home.hub.phase = .looping) (name : Name) (sent : Bool)
    (waiting : (home.node name).node.client.phase = .waiting sent)
    (socket : (home.node name).node.client.socket = []) (under : home.underWay name ≠ []) :
    ∃ actions final record exchange, (∀ action ∈ actions, Serves action) ∧
      (homeMachine household).run home actions = some final ∧
      (final.node name).node.client.finished =
        (home.node name).node.client.finished ++ [record] ∧
      record.ret = 0 ∧ exchange ∈ home.underWay name ∧
      record.received = some (.reply { exchange := exchange, code := createdCode }) ∧
      final.Processed name exchange := by
  rcases HomeNetwork.serves_waiting reachable ⟨⟨sent, waiting⟩, socket, rfl, looping⟩ under with
    ⟨exchange, here, actions, final, served, ran, record, received, success, finished⟩
  refine ⟨actions, final, record, exchange, served, ran, finished, success, here, received, ?_⟩
  have member : record ∈ (final.node name).node.client.finished := by
    rw [finished]
    exact List.mem_append_right _ (List.mem_singleton.2 rfl)
  have answered := reachable_answered (reachable.run ran)
  exact (answered.heard name _ (received_heard member received)).2

def waitingRun : List (HomeAction Unit) :=
  loopingRun.map HomeAction.hub ++ (sampledRun.map (HomeAction.node ()) ++
    [.send () true { nodeId := Buffer.zero _, queryParam := Buffer.zero _ }])

theorem waitingRun_waits :
    (((homeMachine oneNodeHousehold).run HomeNetwork.powerOn waitingRun).map fun home =>
      (home.hub.phase, (home.node ()).node.client.phase, (home.node ()).node.client.socket,
        home.underWay ())) = some (.looping, .waiting true, [], [numberedExchanges 0]) := by
  decide +kernel

theorem waitingRun_answerable :
    ∃ home, (homeMachine oneNodeHousehold).run HomeNetwork.powerOn waitingRun = some home ∧
      ∃ actions final record exchange, (∀ action ∈ actions, Serves action) ∧
        (homeMachine oneNodeHousehold).run home actions = some final ∧
        (final.node ()).node.client.finished =
          (home.node ()).node.client.finished ++ [record] ∧
        record.ret = 0 ∧ exchange ∈ home.underWay () ∧
        record.received = some (.reply { exchange := exchange, code := createdCode }) ∧
        final.Processed () exchange := by
  rcases Option.map_eq_some_iff.1 waitingRun_waits with ⟨home, ran, waits⟩
  simp only [Prod.mk.injEq] at waits
  rcases waits with ⟨looping, waiting, socket, under⟩
  refine ⟨home, ran, reachable_waiting_answerable ⟨waitingRun, ran⟩ looping () true waiting
    socket ?_⟩
  rw [under]
  exact List.cons_ne_nil _ _

end ZephyrHomeHub.System
