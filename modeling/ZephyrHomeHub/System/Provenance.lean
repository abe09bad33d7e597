import ZephyrHomeHub.Hub.LocalsIndependence
import ZephyrHomeHub.System.HomeNetwork

/-! Where the readings in the hub's table come from. Every request was sent by a node
with its own id and the text of a temperature it had; the hub submits what it reads
from a request; and the table is made of submitted messages in order. -/

namespace ZephyrHomeHub.System

open Foundation.BinaryFloat Foundation.CString Foundation.ComponentView
open Foundation.DecimalNumeral Foundation.HexBytes Foundation.LabelledMachine
open Foundation.LossyChannel ZephyrHomeHub.Hub ZephyrHomeHub.Node

variable {Name : Type} {household : Household Name} {home next : HomeNetwork Name}

/-- What the hub reads from the payload of a temperature. -/
def reportedTemperature (reading : Q31Reading) : Number :=
  ((strtod ((getLatestSensorValueChar reading).take (payloadSize - 1))).round binary64).round
    binary32

/-- The decoder of the node has delivered the temperature, or it is the zeros that
stand for no sample. -/
def Measured (node : StartedNode) (reading : Q31Reading) : Prop :=
  reading = Q31Reading.zero ∨ reading ∈ node.node.delivered

structure SentBy (household : Household Name) (home : HomeNetwork Name) (name : Name)
    (request : Request) : Prop where
  query : request.uriQuery = [idPrefix ++ printHex (idBytes (household.mac name))]
  payload : ∃ reading, Measured (home.node name) reading ∧ request.payload = sentPayload reading

/-! ### What the hub reads from a request -/

theorem length_sentPayload (reading : Q31Reading) :
    (sentPayload reading).length = payloadSize - 1 := by
  rw [sentPayload, List.length_take, (sensorPayload reading).toList_length]
  rfl

theorem postedText_sentPayload (reading : Q31Reading) (payloadStr : Buffer payloadStrSize) :
    postedText (sentPayload reading) payloadStr =
      (getLatestSensorValueChar reading).take (payloadSize - 1) := by
  have lengthEq : payloadLen (sentPayload reading) = payloadSize - 1 := by
    rw [payloadLen, length_sentPayload]
    rfl
  have whole : (sentPayload reading).take (payloadCopyLength (payloadSize - 1)) =
      sentPayload reading := by
    refine List.take_of_length_le ?_
    rw [length_sentPayload]
    decide
  rw [postedText, lengthEq, if_pos (by decide), whole, cstr_sentPayload]

theorem posted_temperature {request : Request} {reading : Q31Reading}
    (payload : request.payload = sentPayload reading) (uptime : Int) (locals : PostLocals) :
    (tempNodePost uptime locals request.post).temperature = reportedTemperature reading := by
  rw [tempNodePost_temperature, Request.post, payload, postedText_sentPayload]
  rfl

/-- The id of the message is the one the node printed, its temperature the one the
payload denotes, whatever the locals of the handler held. -/
theorem SentBy.message {name : Name} {request : Request} (sent : SentBy household home name request)
    (uptime : Int) (locals : PostLocals) :
    (tempNodePost uptime locals request.post).id = printHex (idBytes (household.mac name)) ∧
      ∃ reading, Measured (home.node name) reading ∧
        (tempNodePost uptime locals request.post).temperature = reportedTemperature reading := by
  rcases sent.payload with ⟨reading, measured, payload⟩
  constructor
  · have lengthEq := length_printHex_idBytes (household.mac name)
    have queryLength :
        (idPrefix ++ printHex (idBytes (household.mac name))).length = 11 := by
      rw [List.length_append, lengthEq]
      rfl
    rw [tempNodePost_id, Request.post, sent.query, postedId, queryLength, if_pos (by decide),
      if_neg (by decide)]
    exact cstr_of_clean (zero_not_mem_printHex _)
  · exact ⟨reading, measured, posted_temperature payload uptime locals⟩

theorem HomeNetwork.request_sentBy {name : Name} {locals : QueryLocals} {request : Request}
    (known : (home.node name).node.Known)
    (made : home.request household name locals = some request) :
    SentBy household home name request := by
  unfold HomeNetwork.request at made
  rw [sentQuery_eq] at made
  split at made
  · rename_i reading query main sent
    cases sent
    cases made
    exact ⟨rfl, reading, SamplingNode.known_copied known main, rfl⟩
  · cases made

theorem HomeNetwork.request_payload {name : Name} {locals : QueryLocals} {request : Request}
    {reading : Q31Reading} (main : (home.node name).node.main = .looping (some reading))
    (made : home.request household name locals = some request) :
    request.payload = sentPayload reading := by
  unfold HomeNetwork.request at made
  rw [main, sentQuery_eq] at made
  cases made
  rfl

structure HomeNetwork.Authentic (household : Household Name) (home : HomeNetwork Name) : Prop where
  requests : ∀ name, ∀ request ∈ home.requests name, SentBy household home name request
  handled : ∀ entry ∈ home.handled, SentBy household home entry.node entry.request ∧
    ∃ uptime locals, entry.msg = tempNodePost uptime locals entry.request.post

theorem authentic_powerOn : (HomeNetwork.powerOn : HomeNetwork Name).Authentic household :=
  { requests := fun _ => List.forall_mem_nil _
    handled := List.forall_mem_nil _ }

/-! ### The log of the hub -/

/-- The messages of the handled requests are those `ui_update_submit` was called with,
and the stream of the hub is a part of them in order. -/
structure HomeNetwork.Logged (home : HomeNetwork Name) : Prop where
  stream : home.hub.clocked.pipeline.stream.Sublist (home.handled.map Handled.msg)
  calls : home.handled.map Handled.msg = home.hub.clocked.pipeline.calls

theorem logged_powerOn : (HomeNetwork.powerOn : HomeNetwork Name).Logged :=
  { stream := List.Sublist.refl _
    calls := rfl }

theorem StartedHub.submits_nothing {hub : StartedHub} {action : StartedAction}
    (other : isPost action = false) {inner : ClockedAction}
    (taken : hub.clockedAction action = some inner) : inner.submitted hub.clocked = [] := by
  cases action with
  | post locals request => cases other
  | uiWorkQueueInit =>
      cases taken
      rfl
  | tick elapsed =>
      cases taken
      rfl
  | thread step =>
      cases taken
      rfl
  | msgqGet =>
      cases taken
      rfl
  | loopBody =>
      cases taken
      rfl
  | _ => cases taken

private theorem logged_same (logged : home.Logged) (handled : next.handled = home.handled)
    (hub : next.hub = home.hub) : next.Logged := by
  refine ⟨?_, ?_⟩
  · rw [handled, hub]
    exact logged.stream
  · rw [handled, hub]
    exact logged.calls

variable [DecidableEq Name] {fresh : FreshExchanges}

theorem SamplingNode.delivered_step {node after : SamplingNode} {action : SamplingAction}
    (stepped : node.step fresh action = some after) : node.delivered ⊆ after.delivered := by
  rcases SamplingNode.step_cases stepped with ⟨_, -, -, -, -, delivered, -⟩ | ⟨-, quiet⟩
  · rw [delivered]
    exact List.Subset.refl _
  · exact quiet.delivered

theorem Measured.step {node after : StartedNode} {action : StartedNodeAction} {reading : Q31Reading}
    (measured : Measured node reading) (stepped : node.step fresh action = some after) :
    Measured after reading := by
  rcases (samplingView fresh).step_cases stepped with ⟨-, same⟩ | ⟨inner, -, moved⟩
  · change after.node = node.node at same
    rw [Measured, same]
    exact measured
  · rcases measured with zero | delivered
    · exact .inl zero
    · exact .inr (SamplingNode.delivered_step moved delivered)

theorem SentBy.step {name : Name} {request : Request} (sent : SentBy household home name request)
    {action : HomeAction Name} (stepped : home.step household action = some next) :
    SentBy household next name request := by
  rcases sent with ⟨query, reading, measured, payload⟩
  refine ⟨query, reading, ?_, payload⟩
  rcases (nodeView household name).step_cases stepped with ⟨-, same⟩ | ⟨inner, -, moved⟩
  · change next.node name = home.node name at same
    rw [same]
    exact measured
  · exact measured.step moved

/-! ### The whole network -/

theorem reachable_known (reachable : (homeMachine household).Reachable home) (name : Name) :
    (home.node name).node.Known :=
  ((samplingView _).reachable ((nodeView household name).reachable reachable)).invariant
    SamplingNode.Known known_start (fun _ _ _ known stepped => known_step known stepped)

private theorem update_requests {requests : Name → List Request} {name : Name}
    {changed : List Request} {good : Name → Request → Prop}
    (before : ∀ other, ∀ request ∈ requests other, good other request)
    (here : ∀ request ∈ changed, good name request) :
    ∀ other, ∀ request ∈ Function.update requests name changed other, good other request := by
  intro other
  by_cases same : other = name
  · subst same
    rw [Function.update_self]
    exact here
  · rw [Function.update_of_ne same]
    exact before other

theorem HomeNetwork.Authentic.step (authentic : home.Authentic household)
    (known : ∀ name, (home.node name).node.Known) {action : HomeAction Name}
    (stepped : home.step household action = some next) : next.Authentic household := by
  have requests : ∀ name, ∀ request ∈ home.requests name, SentBy household next name request :=
    fun name request member => (authentic.requests name request member).step stepped
  have handled : ∀ entry ∈ home.handled, SentBy household next entry.node entry.request ∧
      ∃ uptime locals, entry.msg = tempNodePost uptime locals entry.request.post :=
    fun entry member =>
      ⟨(authentic.handled entry member).1.step stepped, (authentic.handled entry member).2⟩
  rcases HomeNetwork.step_cases stepped with ⟨name, inner, node, rfl, -, moved, rfl⟩ |
    ⟨name, ok, locals, request, node, rfl, made, moved, rfl⟩ |
    ⟨name, index, taken, rest, node, rfl, handed, moved, rfl⟩ |
    ⟨name, index, taken, rest, node, rfl, handed, moved, rfl⟩ |
    ⟨name, index, locals, taken, rest, hub, rfl, -, handed, posted, rfl⟩ |
    ⟨name, exchange, node, rfl, answering, -, moved, rfl⟩ | ⟨inner, hub, rfl, -, moved, rfl⟩
  · exact ⟨requests, handled⟩
  · refine ⟨update_requests requests ?_, handled⟩
    intro sent member
    cases ok with
    | false => exact requests name sent member
    | true =>
        rcases List.mem_append.1 member with before | last
        · exact requests name sent before
        · cases List.mem_singleton.1 last
          exact (HomeNetwork.request_sentBy (known name) made).step stepped
  · refine ⟨update_requests requests ?_, handled⟩
    intro sent member
    exact requests name sent ((handOver_perm handed).mem_iff.2 (List.mem_cons_of_mem _ member))
  · refine ⟨update_requests requests ?_, handled⟩
    intro sent member
    rcases List.mem_append.1 member with before | last
    · exact requests name sent before
    · cases List.mem_singleton.1 last
      exact requests name taken ((handOver_perm handed).mem_iff.2 List.mem_cons_self)
  · refine ⟨update_requests requests ?_, ?_⟩
    · intro sent member
      exact requests name sent ((handOver_perm handed).mem_iff.2 (List.mem_cons_of_mem _ member))
    · refine List.forall_mem_append.2 ⟨handled, List.forall_mem_singleton.2 ⟨?_, _, _, rfl⟩⟩
      exact requests name taken ((handOver_perm handed).mem_iff.2 List.mem_cons_self)
  · exact ⟨requests, handled⟩
  · exact ⟨requests, handled⟩

theorem reachable_authentic (reachable : (homeMachine household).Reachable home) :
    home.Authentic household :=
  reachable.invariant_within (HomeNetwork.Authentic household) authentic_powerOn
    (fun _ _ _ before authentic stepped =>
      authentic.step (fun name => reachable_known before name) stepped)

theorem HomeNetwork.Logged.step (logged : home.Logged) (prepared : home.hub.Prepared)
    {action : HomeAction Name} (stepped : home.step household action = some next) :
    next.Logged := by
  rcases HomeNetwork.step_cases stepped with ⟨name, inner, node, rfl, -, moved, rfl⟩ |
    ⟨name, ok, locals, request, node, rfl, made, moved, rfl⟩ |
    ⟨name, index, taken, rest, node, rfl, handed, moved, rfl⟩ |
    ⟨name, index, taken, rest, node, rfl, handed, moved, rfl⟩ |
    ⟨name, index, locals, taken, rest, hub, rfl, -, handed, posted, rfl⟩ |
    ⟨name, exchange, node, rfl, answering, -, moved, rfl⟩ | ⟨inner, hub, rfl, other, moved, rfl⟩
  · exact logged_same logged rfl rfl
  · exact logged_same logged rfl rfl
  · exact logged_same logged rfl rfl
  · exact logged_same logged rfl rfl
  · rcases StartedHub.within_cases posted with ⟨clocked, called, rfl⟩
    have stream := prepared.sound.stream_step called
    have calls := ClockedHub.calls_step called
    refine ⟨?_, ?_⟩
    · rw [List.map_append]
      exact stream.trans (logged.stream.append (List.Sublist.refl _))
    · rw [List.map_append, logged.calls]
      exact calls.symm
  · exact logged_same logged rfl rfl
  · rcases StartedHub.clocked_cases moved with ⟨-, same⟩ | ⟨clockedAction, taken, threads⟩
    · refine ⟨?_, ?_⟩
      · rw [same]
        exact logged.stream
      · rw [same]
        exact logged.calls
    · have nothing := StartedHub.submits_nothing other taken
      have stream := prepared.sound.stream_step threads
      have calls := ClockedHub.calls_step threads
      rw [nothing, List.append_nil] at stream calls
      exact ⟨stream.trans logged.stream, logged.calls.trans calls.symm⟩

theorem reachable_logged (reachable : (homeMachine household).Reachable home) : home.Logged :=
  reachable.invariant_within HomeNetwork.Logged logged_powerOn
    (fun _ _ _ before logged stepped =>
      logged.step (reachable_prepared ((hubView household).reachable before)) stepped)

/-- What `main` has dealt with are the messages of some handled requests, in the order
in which the hub handled them. -/
theorem sources_of_received (reachable : (homeMachine household).Reachable home)
    {items : MessageSequence} (received : items.map Prod.snd ++ home.hub.clocked.held.toList =
      home.hub.clocked.pipeline.received) :
    ∃ sources : List (Handled Name), items.map Prod.snd = sources.map Handled.msg ∧
      sources.Sublist home.handled := by
  have ordered : (items.map Prod.snd).Sublist (home.handled.map Handled.msg) := by
    apply List.Sublist.trans _ (reachable_logged reachable).stream
    unfold Pipeline.stream
    rw [← received, List.append_assoc]
    exact List.sublist_append_left _ _
  rcases List.sublist_map_iff.1 ordered with ⟨sources, within, same⟩
  exact ⟨sources, same, within⟩

theorem reachable_sources (reachable : (homeMachine household).Reachable home) :
    ∃ (items : MessageSequence) (sources : List (Handled Name)),
      home.hub.clocked.nodes = items.table ∧
        items.map Prod.snd = sources.map Handled.msg ∧ sources.Sublist home.handled := by
  have prepared := reachable_prepared ((hubView household).reachable reachable)
  rcases prepared.sound.table with ⟨items, table, received⟩
  rcases sources_of_received reachable received with ⟨sources, same, within⟩
  exact ⟨items, sources, table, same, within⟩

/-- Whatever the network does and however the threads of all devices interleave, the
table is the one a sequential drain makes of some of the handled requests in order,
and each of these was sent by a node: the id is the one printed from its MAC, and the
temperature is the hub's reading of one that the node's decoder delivered, or of the
zeros it starts with. -/
theorem reachable_table_from_nodes (reachable : (homeMachine household).Reachable home) :
    ∃ (items : MessageSequence) (sources : List (Handled Name)),
      home.hub.clocked.nodes = items.table ∧
        items.map Prod.snd = sources.map Handled.msg ∧ sources.Sublist home.handled ∧
        ∀ source ∈ sources,
          source.msg.id = printHex (idBytes (household.mac source.node)) ∧
            ∃ reading, Measured (home.node source.node) reading ∧
              source.msg.temperature = reportedTemperature reading := by
  rcases reachable_sources reachable with ⟨items, sources, table, same, within⟩
  refine ⟨items, sources, table, same, within, ?_⟩
  intro source member
  rcases (reachable_authentic reachable).handled source (within.subset member) with
    ⟨sent, uptime, locals, message⟩
  rw [message]
  exact sent.message uptime locals

def oneNodeHousehold : Household Unit :=
  { mac := fun _ => kitchenPost.mac
    fresh := fun _ => numberedExchanges }

def sampledRun : List StartedNodeAction :=
  [.wifi .networkInit, .wifi (.netMgmt .accepted), .wifi .kSemTake,
    .wifi (.event .connectResult 0), .wifi .taken, .wifiConnectReturns, .ipv4AddrAdd,
    .waitForIpAddr, .sampling (.setupSensor .ready), .sampling (.startCoapClient 0),
    .sampling (.sensorRead 0), .sampling (.sensorGetDecoder 0),
    .sampling (.decodeTemperature (some warmReading)), .sampling (.decodeHumidity none),
    .sampling .store, .sampling .getLatestSensorValueChar]

def submittingRun : List StartedAction :=
  [.thread .check, .thread .copy, .thread .submit, .thread .dequeue, .thread .put,
    .thread .finish]

def requestingRun : List (HomeAction Unit) :=
  [.send () true { nodeId := Buffer.zero _, queryParam := Buffer.zero _ }, .post () 0 noLocals]

def answeringRun : List (HomeAction Unit) :=
  [.answer, .hub .msgqGet, .hub .loopBody, .node () (.sampling (.client (.deliver 0))),
    .node () (.sampling (.client (.receive ReplyFaults.none)))]

/-- Hub and node start, and the first sample goes all the way and is answered. -/
def firstReadingRun : List (HomeAction Unit) :=
  loopingRun.map HomeAction.hub ++ (sampledRun.map (HomeAction.node ()) ++
    (requestingRun ++ (submittingRun.map HomeAction.hub ++ answeringRun)))

theorem firstReadingRun_ends :
    ∃ final, (homeMachine oneNodeHousehold).run HomeNetwork.powerOn firstReadingRun =
      some final :=
  Option.isSome_iff_exists.1 (by decide +kernel)

theorem firstReadingRun_stores :
    ∃ final, (homeMachine oneNodeHousehold).run HomeNetwork.powerOn firstReadingRun =
        some final ∧
      final.hub.clocked.pipeline.received.length = 1 ∧ final.hub.clocked.held = none := by
  have computed : ((homeMachine oneNodeHousehold).run HomeNetwork.powerOn firstReadingRun).map
      (fun final => (final.hub.clocked.pipeline.received.length, final.hub.clocked.held)) =
        some (1, none) := by
    decide +kernel
  rcases Option.map_eq_some_iff.1 computed with ⟨final, ran, equal⟩
  rcases Prod.mk.inj equal with ⟨received, held⟩
  exact ⟨final, ran, received, held⟩

theorem firstReading_from_node :
    ∃ final, (homeMachine oneNodeHousehold).run HomeNetwork.powerOn firstReadingRun =
        some final ∧
      final.hub.clocked.pipeline.received.length = 1 ∧ final.hub.clocked.held = none ∧
      ∃ (items : MessageSequence) (sources : List (Handled Unit)),
        final.hub.clocked.nodes = items.table ∧
          items.map Prod.snd = sources.map Handled.msg ∧ sources.Sublist final.handled ∧
          ∀ source ∈ sources,
            source.msg.id = printHex (idBytes (oneNodeHousehold.mac source.node)) ∧
              ∃ reading, Measured (final.node source.node) reading ∧
                source.msg.temperature = reportedTemperature reading := by
  rcases firstReadingRun_stores with ⟨final, ran, received, held⟩
  exact ⟨final, ran, received, held, reachable_table_from_nodes ⟨firstReadingRun, ran⟩⟩

end ZephyrHomeHub.System
