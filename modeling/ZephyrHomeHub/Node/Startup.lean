import ZephyrHomeHub.Foundation.ComponentView
import ZephyrHomeHub.Network.AddressWait
import ZephyrHomeHub.Node.Sampling
import ZephyrHomeHub.Node.WifiConnect

/-! `main` of the node from its first statement: the WiFi connection, the wait for an
address, and only then the sensor and the send loop. WiFi results and addresses come
at any time. -/

namespace ZephyrHomeHub.Node

open Foundation.ComponentView Foundation.LabelledMachine ZephyrHomeHub.Network

/-- Where `main` is; `connecting` lasts until `wifi_connect` has returned. -/
inductive NodePhase where
  | connecting
  | waitingForAddress
  | running
  | returned
deriving DecidableEq

structure StartedNode where
  phase : NodePhase
  wifi : WifiNode
  addressWait : AddressWait
  node : SamplingNode

def StartedNode.powerOn : StartedNode :=
  { phase := .connecting
    wifi := WifiNode.boot
    addressWait := AddressWait.boot
    node := SamplingNode.start }

inductive StartedNodeAction where
  | wifi (action : WifiAction)
  | wifiConnectReturns
  | waitForIpAddr
  | ipv4AddrAdd
  | sampling (action : SamplingAction)

def WifiAction.initialises (wait : AddressWait) : WifiAction → AddressWait
  | .networkInit => wait.networkInit
  | _ => wait

def StartedNode.step (fresh : FreshExchanges) (started : StartedNode) :
    StartedNodeAction → Option StartedNode
  | .wifi action =>
      (started.wifi.step action).map fun wifi =>
        { started with
          wifi := wifi
          addressWait := action.initialises started.addressWait }
  | .wifiConnectReturns =>
      match started.phase, started.wifi.phase with
      | .connecting, .returned ret _ =>
          some { started with phase := if ret < 0 then .returned else .waitingForAddress }
      | _, _ => none
  | .waitForIpAddr =>
      match started.phase with
      | .waitingForAddress =>
          started.addressWait.waitForIpAddr.map fun wait =>
            { started with phase := .running, addressWait := wait }
      | _ => none
  | .ipv4AddrAdd => some { started with addressWait := started.addressWait.ipv4AddrAdd }
  | .sampling action =>
      match started.phase with
      | .running => (started.node.step fresh action).map fun node => { started with node := node }
      | _ => none

def startedNodeMachine (fresh : FreshExchanges) : Machine StartedNode StartedNodeAction :=
  { initial := StartedNode.powerOn
    step := StartedNode.step fresh }

variable {fresh : FreshExchanges} {started next : StartedNode}

theorem StartedNode.step_cases {action : StartedNodeAction}
    (stepped : started.step fresh action = some next) :
    (∃ inner wifi, action = .wifi inner ∧ started.wifi.step inner = some wifi ∧
        next = { started with
          wifi := wifi
          addressWait := inner.initialises started.addressWait }) ∨
      (∃ ret latest, action = .wifiConnectReturns ∧ started.phase = .connecting ∧
        started.wifi.phase = .returned ret latest ∧
        next = { started with phase := if ret < 0 then .returned else .waitingForAddress }) ∨
      (∃ wait, action = .waitForIpAddr ∧ started.phase = .waitingForAddress ∧
        started.addressWait.waitForIpAddr = some wait ∧
        next = { started with phase := .running, addressWait := wait }) ∨
      (action = .ipv4AddrAdd ∧
        next = { started with addressWait := started.addressWait.ipv4AddrAdd }) ∨
      ∃ inner node, action = .sampling inner ∧ started.phase = .running ∧
        started.node.step fresh inner = some node ∧ next = { started with node := node } := by
  cases action with
  | wifi inner =>
      left
      rcases Option.map_eq_some_iff.1 stepped with ⟨wifi, moved, rfl⟩
      exact ⟨inner, wifi, rfl, moved, rfl⟩
  | wifiConnectReturns =>
      right; left
      simp only [StartedNode.step] at stepped
      split at stepped
      · rename_i ret latest phase returned
        exact ⟨ret, latest, rfl, phase, returned, (Option.some.inj stepped).symm⟩
      · cases stepped
  | waitForIpAddr =>
      right; right; left
      simp only [StartedNode.step] at stepped
      split at stepped
      · rename_i phase
        rcases Option.map_eq_some_iff.1 stepped with ⟨wait, returned, rfl⟩
        exact ⟨wait, rfl, phase, returned, rfl⟩
      · cases stepped
  | ipv4AddrAdd =>
      right; right; right; left
      exact ⟨rfl, (Option.some.inj stepped).symm⟩
  | sampling inner =>
      right; right; right; right
      simp only [StartedNode.step] at stepped
      split at stepped
      · rename_i phase
        rcases Option.map_eq_some_iff.1 stepped with ⟨node, moved, rfl⟩
        exact ⟨inner, node, rfl, phase, moved, rfl⟩
      · cases stepped

def samplingView (fresh : FreshExchanges) :
    View (startedNodeMachine fresh) (samplingMachine fresh) :=
  { state := StartedNode.node
    action := fun _ action =>
      match action with
      | .sampling inner => some inner
      | _ => none
    initial := rfl
    step := by
      intro before action after stepped
      rcases StartedNode.step_cases stepped with ⟨inner, wifi, rfl, -, rfl⟩ |
        ⟨ret, latest, rfl, -, -, rfl⟩ | ⟨wait, rfl, -, -, rfl⟩ | ⟨rfl, rfl⟩ |
        ⟨inner, node, rfl, -, moved, rfl⟩
      · rfl
      · rfl
      · rfl
      · rfl
      · exact ((samplingMachine fresh).run_cons_eq_some _ _ _ _).2 ⟨_, moved, rfl⟩ }

def wifiView (fresh : FreshExchanges) : View (startedNodeMachine fresh) wifiMachine :=
  { state := StartedNode.wifi
    action := fun _ action =>
      match action with
      | .wifi inner => some inner
      | _ => none
    initial := rfl
    step := by
      intro before action after stepped
      rcases StartedNode.step_cases stepped with ⟨inner, wifi, rfl, moved, rfl⟩ |
        ⟨ret, latest, rfl, -, -, rfl⟩ | ⟨wait, rfl, -, -, rfl⟩ | ⟨rfl, rfl⟩ |
        ⟨inner, node, rfl, -, -, rfl⟩
      · exact (wifiMachine.run_cons_eq_some _ _ _ _).2 ⟨_, moved, rfl⟩
      · rfl
      · rfl
      · rfl
      · rfl }

def WifiNode.Connected (wifi : WifiNode) : Prop :=
  ∃ ret latest, wifi.phase = .returned ret latest ∧ 0 ≤ ret

structure StartedNode.Ordered (started : StartedNode) : Prop where
  tracked : started.addressWait.Tracked
  address : started.addressWait.returned = true ↔ started.phase = .running
  connected : started.phase = .waitingForAddress ∨ started.phase = .running →
    started.wifi.Connected
  untouched : started.phase ≠ .running → started.node = SamplingNode.start

theorem ordered_powerOn : StartedNode.powerOn.Ordered :=
  { tracked := addressWait_tracked_boot
    address := iff_of_false Bool.false_ne_true NodePhase.noConfusion
    connected := by
      rintro (impossible | impossible)
      · cases impossible
      · cases impossible
    untouched := fun _ => rfl }

theorem WifiNode.Connected.step {wifi after : WifiNode} (connected : wifi.Connected)
    {action : WifiAction} (stepped : wifi.step action = some after) : after.Connected := by
  rcases connected with ⟨ret, latest, phase, accepted⟩
  rcases WifiNode.step_cases stepped with ⟨-, here, -⟩ | ⟨request, -, here, -⟩ |
    ⟨other, -, here, -⟩ | ⟨other, semWifi, -, here, -, -⟩ | ⟨event, status, -, rfl⟩
  · rw [phase] at here
    cases here
  · rw [phase] at here
    cases here
  · rw [phase] at here
    cases here
  · rw [phase] at here
    cases here
  · exact ⟨ret, latest, phase, accepted⟩

theorem WifiAction.initialises_returned (wait : AddressWait) (action : WifiAction) :
    (action.initialises wait).returned = wait.returned := by
  cases action <;> rfl

theorem WifiAction.initialises_tracked {wait : AddressWait} (tracked : wait.Tracked)
    (action : WifiAction) : (action.initialises wait).Tracked := by
  cases action with
  | networkInit => exact tracked.networkInit
  | _ => exact tracked

theorem StartedNode.Ordered.step (ordered : started.Ordered) {action : StartedNodeAction}
    (stepped : started.step fresh action = some next) : next.Ordered := by
  rcases StartedNode.step_cases stepped with ⟨inner, wifi, -, moved, rfl⟩ |
    ⟨ret, latest, -, phase, returned, rfl⟩ | ⟨wait, -, phase, returns, rfl⟩ | ⟨-, rfl⟩ |
    ⟨inner, node, -, phase, -, rfl⟩
  · exact
      { tracked := WifiAction.initialises_tracked ordered.tracked inner
        address := by
          rw [WifiAction.initialises_returned]
          exact ordered.address
        connected := fun later => (ordered.connected later).step moved
        untouched := ordered.untouched }
  · have waiting : started.addressWait.returned ≠ true := by
      rw [Ne, ordered.address, phase]
      exact NodePhase.noConfusion
    have untouched := ordered.untouched (by rw [phase]; exact NodePhase.noConfusion)
    by_cases refused : ret < 0
    · rw [if_pos refused]
      exact
        { tracked := ordered.tracked
          address := iff_of_false waiting NodePhase.noConfusion
          connected := by
            rintro (impossible | impossible)
            · cases impossible
            · cases impossible
          untouched := fun _ => untouched }
    · rw [if_neg refused]
      exact
        { tracked := ordered.tracked
          address := iff_of_false waiting NodePhase.noConfusion
          connected := fun _ => ⟨ret, latest, returned, Int.not_lt.1 refused⟩
          untouched := fun _ => untouched }
  · have waiting : started.addressWait.returned = false := by
      rw [← Bool.not_eq_true, ordered.address, phase]
      exact NodePhase.noConfusion
    exact
      { tracked := ordered.tracked.waitForIpAddr waiting returns
        address := iff_of_true (AddressWait.waitForIpAddr_cases returns).2.1 rfl
        connected := fun _ => ordered.connected (.inl phase)
        untouched := fun outside => absurd rfl outside }
  · exact
      { tracked := ordered.tracked.ipv4AddrAdd
        address := by
          rw [AddressWait.ipv4AddrAdd_returned]
          exact ordered.address
        connected := ordered.connected
        untouched := ordered.untouched }
  · exact
      { tracked := ordered.tracked
        address := ordered.address
        connected := ordered.connected
        untouched := fun outside => absurd phase outside }

/-- The node starts a sensor or sends only with an address, and after its accepted
request returned, the latest result of status zero being a connect result; a refused
request ends it. The wait for the address is over exactly when one was heard of. -/
theorem reachable_node_ordered {started : StartedNode}
    (reachable : (startedNodeMachine fresh).Reachable started) :
    (started.node ≠ SamplingNode.start → 0 < started.addressWait.heard ∧
      ∃ ret, started.wifi.phase = .returned ret (some .connectResult) ∧ 0 ≤ ret) ∧
      (started.phase = .waitingForAddress →
        ((started.step fresh .waitForIpAddr).isSome = true ↔ 0 < started.addressWait.heard)) := by
  have ordered : started.Ordered := reachable.invariant StartedNode.Ordered ordered_powerOn
    (fun _ _ _ before stepped => before.step stepped)
  constructor
  · intro touched
    have phase : started.phase = .running := by
      by_contra outside
      exact touched (ordered.untouched outside)
    rcases ordered.connected (.inr phase) with ⟨ret, latest, returned, accepted⟩
    have up := reachable_returned ((wifiView fresh).reachable reachable) returned
    exact ⟨ordered.tracked.came (ordered.address.2 phase), ret, up ▸ returned, accepted⟩
  · intro phase
    have waiting : started.addressWait.returned = false := by
      rw [← Bool.not_eq_true, ordered.address, phase]
      exact NodePhase.noConfusion
    rw [← ordered.tracked.returns_iff waiting]
    simp only [StartedNode.step, phase, Option.isSome_map]

def sendingRun : List StartedNodeAction :=
  [.wifi .networkInit, .wifi (.netMgmt .accepted), .wifi .kSemTake,
    .wifi (.event .connectResult 0), .wifi .taken, .wifiConnectReturns, .ipv4AddrAdd,
    .waitForIpAddr, .sampling (.setupSensor .ready), .sampling (.startCoapClient 0),
    .sampling .getLatestSensorValueChar, .sampling (.client (.send true))]

theorem sendingRun_ordered :
    ∃ started, (startedNodeMachine numberedExchanges).run StartedNode.powerOn sendingRun =
        some started ∧
      started.node.sent.length = 1 ∧
      (started.node ≠ SamplingNode.start → 0 < started.addressWait.heard ∧
        ∃ ret, started.wifi.phase = .returned ret (some .connectResult) ∧ 0 ≤ ret) ∧
      (started.phase = .waitingForAddress →
        ((started.step numberedExchanges .waitForIpAddr).isSome = true ↔
          0 < started.addressWait.heard)) := by
  have computed : ((startedNodeMachine numberedExchanges).run StartedNode.powerOn sendingRun).map
      (fun started => started.node.sent.length) = some 1 := rfl
  rcases Option.map_eq_some_iff.1 computed with ⟨started, ran, sends⟩
  exact ⟨started, ran, sends, reachable_node_ordered ⟨sendingRun, ran⟩⟩

end ZephyrHomeHub.Node
