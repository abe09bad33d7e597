import ZephyrHomeHub.Foundation.ComponentView
import ZephyrHomeHub.Hub.SequentialLog
import ZephyrHomeHub.Network.AddressWait

/-! `main` of the hub from its first statement into its loop. The CoAP service starts
by itself, so requests are handled from the beginning, while `main` waits for an
address, initialises the work queue and creates the tabs. -/

namespace ZephyrHomeHub.Hub

open Foundation.CString Foundation.ComponentView Foundation.FirstComeRegistry
open Foundation.LabelledMachine
open Foundation.SingleWorker ZephyrHomeHub.Network

inductive HubPhase where
  | started
  | deviceIsReady
  | networkInit
  | networkConnect
  | waitForIpAddr
  | uiWorkQueueInit
  | looping
  | quit
deriving DecidableEq

def HubPhase.hasAddress : HubPhase → Bool
  | .waitForIpAddr => true
  | .uiWorkQueueInit => true
  | .looping => true
  | _ => false

def HubPhase.hasWorkPool : HubPhase → Bool
  | .uiWorkQueueInit => true
  | .looping => true
  | _ => false

/-- `no_nodes_label` is null until the tab is created, and then hidden or not. -/
structure StartedHub where
  phase : HubPhase
  addressWait : AddressWait
  tempTab : Bool
  noNodesLabelHidden : Option Bool
  temperatureTabActive : Bool
  clocked : ClockedHub

def StartedHub.powerOn : StartedHub :=
  { phase := .started
    addressWait := AddressWait.boot
    tempTab := false
    noNodesLabelHidden := none
    temperatureTabActive := false
    clocked := ClockedHub.boot }

inductive StartedAction where
  | deviceIsReady (ready : Bool)
  | networkInit
  | networkConnect
  | waitForIpAddr
  | uiWorkQueueInit
  | initGui
  | ipv4AddrAdd
  | tick (elapsed : Nat)
  | post (locals : PostLocals) (request : PostRequest)
  | thread (step : ThreadStep)
  | msgqGet
  | loopBody
  | tabEvent (tabIdx : Nat)

def StartedHub.within (hub : StartedHub) (stepped : Option ClockedHub) : Option StartedHub :=
  stepped.map fun clocked => { hub with clocked := clocked }

/-- The next statement of `main`, where it has passed the one before. -/
def StartedHub.pass (hub : StartedHub) (before after : HubPhase) : Option StartedHub :=
  if hub.phase = before then some { hub with phase := after } else none

/-- `create_node_widgets` hides the label once it has the tab. -/
def hideNoNodesLabel (tempTab : Bool) (calls : List UiCall) (hidden : Option Bool) : Option Bool :=
  if tempTab ∧ creations calls ≠ [] then hidden.map fun _ => true else hidden

def StartedHub.context (hub : StartedHub) : LoopContext :=
  { uptime := hub.clocked.uptime
    temperatureTabActive := hub.temperatureTabActive
    tempTab := hub.tempTab }

def StartedHub.loopBody (hub : StartedHub) : Option StartedHub :=
  match hub.phase, hub.clocked.held with
  | .looping, some msg =>
      (hub.clocked.loopBody hub.temperatureTabActive hub.tempTab).map fun clocked =>
        { hub with
          clocked := clocked
          noNodesLabelHidden := hideNoNodesLabel hub.tempTab
            (drainBody hub.context hub.clocked.nodes msg).2 hub.noNodesLabelHidden }
  | _, _ => none

def StartedHub.step (hub : StartedHub) : StartedAction → Option StartedHub
  | .deviceIsReady ready => hub.pass .started (if ready then .deviceIsReady else .quit)
  | .networkInit =>
      (hub.pass .deviceIsReady .networkInit).map fun next =>
        { next with addressWait := hub.addressWait.networkInit }
  | .networkConnect => hub.pass .networkInit .networkConnect
  | .waitForIpAddr =>
      (hub.pass .networkConnect .waitForIpAddr).bind fun next =>
        hub.addressWait.waitForIpAddr.map fun wait => { next with addressWait := wait }
  | .uiWorkQueueInit =>
      (hub.pass .waitForIpAddr .uiWorkQueueInit).bind fun next =>
        next.within (hub.clocked.step (.thread .uiWorkQueueInit))
  | .initGui =>
      (hub.pass .uiWorkQueueInit .looping).map fun next =>
        { next with tempTab := true, noNodesLabelHidden := some false }
  | .ipv4AddrAdd => some { hub with addressWait := hub.addressWait.ipv4AddrAdd }
  | .tick elapsed => hub.within (hub.clocked.step (.tick elapsed))
  | .post locals request => hub.within (hub.clocked.step (.post locals request))
  | .thread .uiWorkQueueInit => none
  | .thread step => hub.within (hub.clocked.step (.thread step))
  | .msgqGet => if hub.phase = .looping then hub.within hub.clocked.msgqGet else none
  | .loopBody => hub.loopBody
  | .tabEvent tabIdx =>
      if hub.phase = .looping ∧ hub.clocked.held = none then
        some { hub with temperatureTabActive := eventTabviewCb tabIdx }
      else none

def startedMachine : Machine StartedHub StartedAction :=
  { initial := StartedHub.powerOn
    step := StartedHub.step }

/-! ### What each step can do -/

variable {hub next : StartedHub}

theorem StartedHub.within_cases {stepped : Option ClockedHub}
    (taken : hub.within stepped = some next) :
    ∃ clocked, stepped = some clocked ∧ next = { hub with clocked := clocked } := by
  rcases Option.map_eq_some_iff.1 taken with ⟨clocked, same, equal⟩
  exact ⟨clocked, same, equal.symm⟩

theorem StartedHub.pass_cases {before after : HubPhase}
    (passed : hub.pass before after = some next) :
    hub.phase = before ∧ next = { hub with phase := after } := by
  unfold StartedHub.pass at passed
  split at passed
  · rename_i here
    exact ⟨here, (Option.some.inj passed).symm⟩
  · cases passed

theorem StartedHub.waitForIpAddr_cases (stepped : hub.step .waitForIpAddr = some next) :
    ∃ wait, hub.phase = .networkConnect ∧ hub.addressWait.waitForIpAddr = some wait ∧
      next = { hub with phase := .waitForIpAddr, addressWait := wait } := by
  rcases Option.bind_eq_some_iff.1 stepped with ⟨passed, here, took⟩
  rcases StartedHub.pass_cases here with ⟨phase, rfl⟩
  rcases Option.map_eq_some_iff.1 took with ⟨wait, returned, rfl⟩
  exact ⟨wait, phase, returned, rfl⟩

theorem StartedHub.uiWorkQueueInit_cases (stepped : hub.step .uiWorkQueueInit = some next) :
    ∃ clocked, hub.phase = .waitForIpAddr ∧
      hub.clocked.step (.thread .uiWorkQueueInit) = some clocked ∧
      next = { hub with phase := .uiWorkQueueInit, clocked := clocked } := by
  rcases Option.bind_eq_some_iff.1 stepped with ⟨passed, here, took⟩
  rcases StartedHub.pass_cases here with ⟨phase, rfl⟩
  rcases StartedHub.within_cases took with ⟨clocked, initialised, rfl⟩
  exact ⟨clocked, phase, initialised, rfl⟩

theorem StartedHub.networkInit_cases (stepped : hub.step .networkInit = some next) :
    hub.phase = .deviceIsReady ∧
      next = { hub with phase := .networkInit, addressWait := hub.addressWait.networkInit } := by
  rcases Option.map_eq_some_iff.1 stepped with ⟨passed, here, rfl⟩
  rcases StartedHub.pass_cases here with ⟨phase, rfl⟩
  exact ⟨phase, rfl⟩

theorem StartedHub.initGui_cases (stepped : hub.step .initGui = some next) :
    hub.phase = .uiWorkQueueInit ∧
      next = { hub with phase := .looping, tempTab := true, noNodesLabelHidden := some false } := by
  rcases Option.map_eq_some_iff.1 stepped with ⟨passed, here, rfl⟩
  rcases StartedHub.pass_cases here with ⟨phase, rfl⟩
  exact ⟨phase, rfl⟩

theorem StartedHub.loopBody_cases (stepped : hub.loopBody = some next) :
    ∃ msg clocked, hub.phase = .looping ∧ hub.clocked.held = some msg ∧
      hub.clocked.loopBody hub.temperatureTabActive hub.tempTab = some clocked ∧
      clocked = { hub.clocked with
        held := none
        nodes := (drainBody hub.context hub.clocked.nodes msg).1 } ∧
      next = { hub with
        clocked := clocked
        noNodesLabelHidden := hideNoNodesLabel hub.tempTab
          (drainBody hub.context hub.clocked.nodes msg).2 hub.noNodesLabelHidden } := by
  unfold StartedHub.loopBody at stepped
  split at stepped
  · rename_i msg phase held
    rcases Option.map_eq_some_iff.1 stepped with ⟨clocked, body, rfl⟩
    refine ⟨msg, clocked, phase, held, body, ?_, rfl⟩
    unfold ClockedHub.loopBody at body
    rw [held] at body
    exact (Option.some.inj body).symm
  · cases stepped

/-- The step of the threads, the queue and the clock that an action stands for. -/
def StartedHub.clockedAction (hub : StartedHub) : StartedAction → Option ClockedAction
  | .uiWorkQueueInit => some (.thread .uiWorkQueueInit)
  | .tick elapsed => some (.tick elapsed)
  | .post locals request => some (.post locals request)
  | .thread step => some (.thread step)
  | .msgqGet => some .msgqGet
  | .loopBody => some (.loopBody hub.temperatureTabActive hub.tempTab)
  | _ => none

theorem StartedHub.thread_cases {step : ThreadStep}
    (stepped : hub.step (.thread step) = some next) :
    ∃ clocked, hub.clocked.step (.thread step) = some clocked ∧
      next = { hub with clocked := clocked } ∧ step ≠ .uiWorkQueueInit := by
  cases step with
  | uiWorkQueueInit => cases stepped
  | _ =>
      rcases StartedHub.within_cases stepped with ⟨clocked, same, rfl⟩
      exact ⟨clocked, same, rfl, ThreadStep.noConfusion⟩

theorem StartedHub.msgqGet_cases (stepped : hub.step .msgqGet = some next) :
    ∃ clocked, hub.phase = .looping ∧ hub.clocked.step .msgqGet = some clocked ∧
      next = { hub with clocked := clocked } := by
  change (if hub.phase = .looping then hub.within hub.clocked.msgqGet else none) = some next
    at stepped
  split at stepped
  · rename_i looping
    rcases StartedHub.within_cases stepped with ⟨clocked, same, rfl⟩
    exact ⟨clocked, looping, same, rfl⟩
  · cases stepped

theorem StartedHub.clocked_cases {action : StartedAction} (stepped : hub.step action = some next) :
    (hub.clockedAction action = none ∧ next.clocked = hub.clocked) ∨
      ∃ inner, hub.clockedAction action = some inner ∧
        hub.clocked.step inner = some next.clocked := by
  cases action with
  | deviceIsReady ready =>
      rcases StartedHub.pass_cases stepped with ⟨-, rfl⟩
      exact .inl ⟨rfl, rfl⟩
  | networkInit =>
      rcases StartedHub.networkInit_cases stepped with ⟨-, rfl⟩
      exact .inl ⟨rfl, rfl⟩
  | networkConnect =>
      rcases StartedHub.pass_cases stepped with ⟨-, rfl⟩
      exact .inl ⟨rfl, rfl⟩
  | waitForIpAddr =>
      rcases StartedHub.waitForIpAddr_cases stepped with ⟨wait, -, -, rfl⟩
      exact .inl ⟨rfl, rfl⟩
  | uiWorkQueueInit =>
      rcases StartedHub.uiWorkQueueInit_cases stepped with ⟨clocked, -, initialised, rfl⟩
      exact .inr ⟨_, rfl, initialised⟩
  | initGui =>
      rcases StartedHub.initGui_cases stepped with ⟨-, rfl⟩
      exact .inl ⟨rfl, rfl⟩
  | ipv4AddrAdd =>
      cases stepped
      exact .inl ⟨rfl, rfl⟩
  | tick elapsed =>
      rcases StartedHub.within_cases stepped with ⟨clocked, same, rfl⟩
      exact .inr ⟨_, rfl, same⟩
  | post locals request =>
      rcases StartedHub.within_cases stepped with ⟨clocked, same, rfl⟩
      exact .inr ⟨_, rfl, same⟩
  | thread step =>
      rcases StartedHub.thread_cases stepped with ⟨clocked, same, rfl, -⟩
      exact .inr ⟨_, rfl, same⟩
  | msgqGet =>
      rcases StartedHub.msgqGet_cases stepped with ⟨clocked, -, same, rfl⟩
      exact .inr ⟨_, rfl, same⟩
  | loopBody =>
      rcases StartedHub.loopBody_cases stepped with ⟨msg, clocked, -, -, body, -, rfl⟩
      exact .inr ⟨_, rfl, body⟩
  | tabEvent tabIdx =>
      change (if _ then some _ else none) = some next at stepped
      split at stepped
      · cases stepped
        exact .inl ⟨rfl, rfl⟩
      · cases stepped

def clockedView : View startedMachine clockedMachine :=
  { state := StartedHub.clocked
    action := StartedHub.clockedAction
    initial := rfl
    step := by
      intro before action after stepped
      rcases StartedHub.clocked_cases stepped with ⟨none, same⟩ | ⟨inner, some, moved⟩
      · rw [none, same]
        rfl
      · rw [some]
        exact (clockedMachine.run_cons_eq_some _ _ _ _).2 ⟨_, moved, rfl⟩ }

/-! ### Before the work queue -/

/-- Every call of `ui_update_submit` was refused and nothing is on its way. -/
structure Pipeline.Unused (pipeline : Pipeline Unit) : Prop where
  work : pipeline.work = WorkQueue.empty
  msgq : pipeline.msgq = []
  received : pipeline.received = []
  puts : pipeline.puts = []
  idle : pipeline.caller () = .idle
  refused : ∀ call ∈ pipeline.returns, call.2 = einval

theorem unused_boot : (Pipeline.boot Unit).Unused :=
  { work := rfl
    msgq := rfl
    received := rfl
    puts := rfl
    idle := rfl
    refused := List.forall_mem_nil _ }

variable {pipeline after : Pipeline Unit}

theorem Pipeline.Unused.step (unused : pipeline.Unused) (notYet : pipeline.workPoolInit = false)
    {action : PipelineAction Unit} (stepped : pipeline.step action = some after) :
    after.Unused := by
  rcases unused with ⟨work, msgq, received, puts, idle, refused⟩
  cases action with
  | uiWorkQueueInit =>
      rcases Pipeline.uiWorkQueueInit_cases stepped with ⟨-, rfl⟩
      exact ⟨work, msgq, received, puts, idle, refused⟩
  | call caller msg =>
      rcases Pipeline.call_cases stepped with ⟨-, ⟨ready, -⟩ | ⟨-, rfl⟩⟩
      · rw [notYet] at ready
        cases ready
      · refine ⟨work, msgq, received, puts, rfl, ?_⟩
        exact List.forall_mem_append.2 ⟨refused, List.forall_mem_singleton.2 rfl⟩
  | check caller =>
      rcases Pipeline.check_cases stepped with ⟨slot, msg, here, -⟩
      rw [idle] at here
      cases here
  | copy caller =>
      rcases Pipeline.copy_cases stepped with ⟨slot, msg, here, -⟩
      rw [idle] at here
      cases here
  | submit caller =>
      rcases Pipeline.submit_cases stepped with ⟨slot, msg, here, -⟩
      rw [idle] at here
      cases here
  | dequeue =>
      rcases Pipeline.dequeue_cases stepped with ⟨_, started, -⟩
      rw [work] at started
      cases started
  | put =>
      rcases Pipeline.put_cases stepped with ⟨slot, _, acted, -⟩
      rw [work] at acted
      cases acted
  | finish =>
      rcases Pipeline.finish_cases stepped with ⟨_, finished, -⟩
      rw [work] at finished
      cases finished
  | get =>
      rcases Pipeline.get_cases stepped with ⟨msg, rest, queued, -⟩
      rw [msgq] at queued
      cases queued

theorem Pipeline.workPoolInit_step {action : PipelineAction Unit}
    (other : action ≠ .uiWorkQueueInit) (stepped : pipeline.step action = some after) :
    after.workPoolInit = pipeline.workPoolInit := by
  cases action with
  | uiWorkQueueInit => exact absurd rfl other
  | call caller msg =>
      rcases Pipeline.call_cases stepped with ⟨-, ⟨-, rfl⟩ | ⟨-, rfl⟩⟩
      · rfl
      · rfl
  | check caller =>
      rcases Pipeline.check_cases stepped with
        ⟨slot, msg, here, ⟨-, more, rfl⟩ | ⟨-, -, rfl⟩ | ⟨-, rfl⟩⟩
      · rfl
      · rfl
      · rfl
  | copy caller =>
      rcases Pipeline.copy_cases stepped with ⟨slot, msg, here, rfl⟩
      rfl
  | submit caller =>
      rcases Pipeline.submit_cases stepped with ⟨slot, msg, here, rfl⟩
      rfl
  | dequeue =>
      rcases Pipeline.dequeue_cases stepped with ⟨work, -, rfl⟩
      rfl
  | put =>
      rcases Pipeline.put_cases stepped with ⟨slot, work, -, rfl⟩
      rcases pipeline.tempDataEnqueue_cases (pipeline.workPool slot) with ⟨-, equal⟩ | ⟨-, equal⟩
      · rw [equal]
      · rw [equal]
  | finish =>
      rcases Pipeline.finish_cases stepped with ⟨work, -, rfl⟩
      rfl
  | get =>
      rcases Pipeline.get_cases stepped with ⟨msg, rest, -, rfl⟩
      rfl

def ClockedAction.Background : ClockedAction → Prop
  | .tick _ => True
  | .post _ _ => True
  | .thread step => step ≠ .uiWorkQueueInit
  | .msgqGet => False
  | .loopBody _ _ => False

structure ClockedHub.Undisturbed (hub after : ClockedHub) : Prop where
  nodes : after.nodes = hub.nodes
  held : after.held = hub.held
  received : after.pipeline.received = hub.pipeline.received
  workPool : after.pipeline.workPoolInit = hub.pipeline.workPoolInit
  unused : hub.pipeline.workPoolInit = false → hub.pipeline.Unused → after.pipeline.Unused

private theorem undisturbed_within {hub : ClockedHub} {action : PipelineAction Unit}
    (other : action ≠ .uiWorkQueueInit) (noGet : action ≠ .get)
    (stepped : hub.pipeline.step action = some after) :
    hub.Undisturbed { hub with pipeline := after } :=
  { nodes := rfl
    held := rfl
    received := Pipeline.step_received noGet stepped
    workPool := Pipeline.workPoolInit_step other stepped
    unused := fun notYet unused => unused.step notYet stepped }

theorem ClockedHub.background_step {hub after : ClockedHub} {action : ClockedAction}
    (background : action.Background) (stepped : hub.step action = some after) :
    hub.Undisturbed after := by
  cases action with
  | tick elapsed =>
      cases stepped
      exact ⟨rfl, rfl, rfl, rfl, fun _ unused => unused⟩
  | post locals request =>
      rcases ClockedHub.within_cases stepped with ⟨pipeline, same, rfl⟩
      refine undisturbed_within ?_ ?_ same
      · intro init
        cases init
      · intro get
        cases get
  | thread step =>
      rcases ClockedHub.within_cases stepped with ⟨pipeline, same, rfl⟩
      refine undisturbed_within ?_ step.action_ne_get same
      intro init
      cases step with
      | uiWorkQueueInit => exact background rfl
      | _ => cases init
  | msgqGet => exact background.elim
  | loopBody temperatureTabActive tempTab => exact background.elim

theorem MessageSequence.someUsed_iff (items : MessageSequence) :
    (∃ slot, (items.table slot).used = true) ↔ 0 < items.registry.entries.length := by
  rw [items.length_registry]
  constructor
  · rintro ⟨slot, used⟩
    exact Nat.lt_of_le_of_lt (Nat.zero_le _) ((items.used_iff slot).1 used)
  · intro positive
    exact ⟨⟨0, by decide⟩, (items.used_iff _).2 positive⟩

theorem MessageSequence.someUsed_append_iff (items : MessageSequence)
    (cards : CardsComplete items.table) (context : LoopContext) (tab : context.tempTab = true)
    (msg : TempDataMsg) :
    (∃ slot, ((drainBody context items.table msg).1 slot).used = true) ↔
      creations (drainBody context items.table msg).2 ≠ [] ∨
        ∃ slot, (items.table slot).used = true := by
  have grown : (drainBody context items.table msg).1 =
      MessageSequence.table (items ++ [(context, msg)]) := by
    rw [MessageSequence.table, MessageSequence.table, drainAll_append]
  have longer := Registry.length_le_record items.registry msg.id msg.reading
  have bounded := (items.registry.record msg.id msg.reading).bounded
  rw [grown, MessageSequence.someUsed_iff, MessageSequence.someUsed_iff,
    MessageSequence.registry_append, (drainBody_creations items.refines cards context msg tab).2,
    ← List.length_pos_iff, List.length_drop, List.length_take, List.length_finRange,
    Nat.min_eq_left bounded]
  change 0 < (items.registry.record msg.id msg.reading).entries.length ↔ _
  omega

/-! ### What `main` can rely on -/

structure StartedHub.Prepared (hub : StartedHub) : Prop where
  sound : hub.clocked.Sound
  tracked : hub.addressWait.Tracked
  address : hub.addressWait.returned = hub.phase.hasAddress
  workPool : hub.clocked.pipeline.workPoolInit = hub.phase.hasWorkPool
  unused : hub.phase.hasWorkPool = false → hub.clocked.pipeline.Unused
  outside : hub.phase ≠ .looping → hub.clocked.nodes = Nodes.zero ∧
    hub.clocked.held = none ∧ hub.clocked.pipeline.received = []
  tab : hub.phase = .looping → hub.tempTab = true
  cards : CardsComplete hub.clocked.nodes
  label : hub.phase = .looping → ∃ hidden, hub.noNodesLabelHidden = some hidden ∧
    (hidden = true ↔ ∃ slot, (hub.clocked.nodes slot).used = true)

theorem prepared_powerOn : StartedHub.powerOn.Prepared :=
  { sound := clocked_sound_boot
    tracked := addressWait_tracked_boot
    address := rfl
    workPool := rfl
    unused := fun _ => unused_boot
    outside := fun _ => ⟨rfl, rfl, rfl⟩
    tab := fun looping => nomatch looping
    cards := fun _ => rfl
    label := fun looping => nomatch looping }

private theorem prepared_pass (prepared : hub.Prepared) {phase : HubPhase} {wait : AddressWait}
    (tracked : wait.Tracked) (returned : wait.returned = phase.hasAddress)
    (workPool : phase.hasWorkPool = hub.phase.hasWorkPool)
    (before : hub.phase ≠ .looping) (after : phase ≠ .looping) :
    StartedHub.Prepared { hub with phase := phase, addressWait := wait } :=
  { sound := prepared.sound
    tracked := tracked
    address := returned
    workPool := prepared.workPool.trans workPool.symm
    unused := fun notYet => prepared.unused (workPool ▸ notYet)
    outside := fun _ => prepared.outside before
    tab := fun looping => absurd looping after
    cards := prepared.cards
    label := fun looping => absurd looping after }

private theorem prepared_background (prepared : hub.Prepared) (action : ClockedAction)
    (background : action.Background) {clocked : ClockedHub}
    (stepped : hub.clocked.step action = some clocked) :
    StartedHub.Prepared { hub with clocked := clocked } := by
  rcases ClockedHub.background_step background stepped with
    ⟨nodes, held, received, workPool, unused⟩
  exact
    { sound := prepared.sound.step stepped
      tracked := prepared.tracked
      address := prepared.address
      workPool := workPool.trans prepared.workPool
      unused := fun notYet =>
        unused (prepared.workPool.trans notYet) (prepared.unused notYet)
      outside := by
        change _ → clocked.nodes = Nodes.zero ∧ clocked.held = none ∧
          clocked.pipeline.received = []
        rw [nodes, held, received]
        exact prepared.outside
      tab := prepared.tab
      cards := by
        change CardsComplete clocked.nodes
        rw [nodes]
        exact prepared.cards
      label := by
        change _ → ∃ hidden, hub.noNodesLabelHidden = some hidden ∧
          (hidden = true ↔ ∃ slot, (clocked.nodes slot).used = true)
        rw [nodes]
        exact prepared.label }

private theorem prepared_loopBody (prepared : hub.Prepared)
    (stepped : hub.loopBody = some next) : next.Prepared := by
  rcases StartedHub.loopBody_cases stepped with
    ⟨msg, clocked, looping, held, body, clockedEq, rfl⟩
  change hub.clocked.step (.loopBody hub.temperatureTabActive hub.tempTab) = some clocked at body
  have sound := prepared.sound.step body
  have tab := prepared.tab looping
  have tabHere : hub.context.tempTab = true := tab
  rcases prepared.sound.table with ⟨items, table, -⟩
  rcases prepared.label looping with ⟨hidden, label, hiddenIff⟩
  have cards := prepared.cards
  rw [table] at cards hiddenIff
  have created := drainBody_creations items.refines cards hub.context msg tabHere
  have used := items.someUsed_append_iff cards hub.context tabHere msg
  subst clockedEq
  refine
    { sound := sound
      tracked := prepared.tracked
      address := prepared.address
      workPool := prepared.workPool
      unused := prepared.unused
      outside := fun outside => absurd looping outside
      tab := prepared.tab
      cards := by
        change CardsComplete (drainBody hub.context hub.clocked.nodes msg).1
        rw [table]
        exact created.1
      label := fun _ => ?_ }
  change ∃ hidden, hideNoNodesLabel hub.tempTab
      (drainBody hub.context hub.clocked.nodes msg).2 hub.noNodesLabelHidden = some hidden ∧
    (hidden = true ↔ ∃ slot, ((drainBody hub.context hub.clocked.nodes msg).1 slot).used = true)
  rw [table, used, label, hideNoNodesLabel, tab]
  by_cases creates : creations (drainBody hub.context items.table msg).2 ≠ []
  · exact ⟨true, if_pos ⟨rfl, creates⟩, iff_of_true rfl (.inl creates)⟩
  · refine ⟨hidden, if_neg (fun both => creates both.2), ?_⟩
    rw [hiddenIff, or_iff_right creates]

theorem StartedHub.Prepared.step (prepared : hub.Prepared) {action : StartedAction}
    (stepped : hub.step action = some next) : next.Prepared := by
  cases action with
  | deviceIsReady ready =>
      rcases StartedHub.pass_cases stepped with ⟨phase, rfl⟩
      have address := prepared.address
      rw [phase] at address
      cases ready with
      | true =>
          exact prepared_pass prepared prepared.tracked address (by rw [phase]; rfl)
            (by rw [phase]; exact HubPhase.noConfusion) HubPhase.noConfusion
      | false =>
          exact prepared_pass prepared prepared.tracked address (by rw [phase]; rfl)
            (by rw [phase]; exact HubPhase.noConfusion) HubPhase.noConfusion
  | networkInit =>
      rcases StartedHub.networkInit_cases stepped with ⟨phase, rfl⟩
      have address := prepared.address
      rw [phase] at address
      exact prepared_pass prepared prepared.tracked.networkInit address (by rw [phase]; rfl)
        (by rw [phase]; exact HubPhase.noConfusion) HubPhase.noConfusion
  | networkConnect =>
      rcases StartedHub.pass_cases stepped with ⟨phase, rfl⟩
      have address := prepared.address
      rw [phase] at address
      exact prepared_pass prepared prepared.tracked address (by rw [phase]; rfl)
        (by rw [phase]; exact HubPhase.noConfusion) HubPhase.noConfusion
  | waitForIpAddr =>
      rcases StartedHub.waitForIpAddr_cases stepped with ⟨wait, phase, returns, rfl⟩
      have address := prepared.address
      rw [phase] at address
      exact prepared_pass prepared (prepared.tracked.waitForIpAddr address returns)
        (AddressWait.waitForIpAddr_cases returns).2.1 (by rw [phase]; rfl)
        (by rw [phase]; exact HubPhase.noConfusion) HubPhase.noConfusion
  | uiWorkQueueInit =>
      rcases StartedHub.uiWorkQueueInit_cases stepped with ⟨clocked, phase, initialised, rfl⟩
      rcases ClockedHub.within_cases initialised with ⟨pipeline, same, rfl⟩
      rcases Pipeline.uiWorkQueueInit_cases same with ⟨-, rfl⟩
      have address := prepared.address
      have outside := prepared.outside (by rw [phase]; exact HubPhase.noConfusion)
      rw [phase] at address
      exact
        { sound := prepared.sound.step initialised
          tracked := prepared.tracked
          address := address
          workPool := rfl
          unused := fun notYet => nomatch notYet
          outside := fun _ => outside
          tab := fun looping => nomatch looping
          cards := prepared.cards
          label := fun looping => nomatch looping }
  | initGui =>
      rcases StartedHub.initGui_cases stepped with ⟨phase, rfl⟩
      have address := prepared.address
      have workPool := prepared.workPool
      have outside := prepared.outside (by rw [phase]; exact HubPhase.noConfusion)
      rw [phase] at address workPool
      exact
        { sound := prepared.sound
          tracked := prepared.tracked
          address := address
          workPool := workPool
          unused := fun notYet => nomatch notYet
          outside := fun outside => absurd rfl outside
          tab := fun _ => rfl
          cards := prepared.cards
          label := by
            intro _
            refine ⟨false, rfl, iff_of_false Bool.false_ne_true ?_⟩
            rintro ⟨slot, used⟩
            change (hub.clocked.nodes slot).used = true at used
            rw [outside.1] at used
            cases used }
  | ipv4AddrAdd =>
      cases stepped
      exact
        { sound := prepared.sound
          tracked := prepared.tracked.ipv4AddrAdd
          address := by
            rw [← prepared.address]
            exact AddressWait.ipv4AddrAdd_returned hub.addressWait
          workPool := prepared.workPool
          unused := prepared.unused
          outside := prepared.outside
          tab := prepared.tab
          cards := prepared.cards
          label := prepared.label }
  | tick elapsed =>
      rcases StartedHub.within_cases stepped with ⟨clocked, same, rfl⟩
      exact prepared_background prepared (.tick elapsed) trivial same
  | post locals request =>
      rcases StartedHub.within_cases stepped with ⟨clocked, same, rfl⟩
      exact prepared_background prepared (.post locals request) trivial same
  | thread step =>
      rcases StartedHub.thread_cases stepped with ⟨clocked, same, rfl, other⟩
      exact prepared_background prepared (.thread step) other same
  | msgqGet =>
      rcases StartedHub.msgqGet_cases stepped with ⟨clocked, looping, got, rfl⟩
      rcases ClockedHub.msgqGet_cases got with ⟨msg, pipeline, -, taken, -, -, rfl⟩
      have other : PipelineAction.get ≠ (.uiWorkQueueInit : PipelineAction Unit) := by
        intro init
        cases init
      have workPool := Pipeline.workPoolInit_step other taken
      exact
        { sound := prepared.sound.step got
          tracked := prepared.tracked
          address := prepared.address
          workPool := workPool.trans prepared.workPool
          unused := fun notYet => by
            rw [looping] at notYet
            cases notYet
          outside := fun outside => absurd looping outside
          tab := prepared.tab
          cards := prepared.cards
          label := prepared.label }
  | loopBody => exact prepared_loopBody prepared stepped
  | tabEvent tabIdx =>
      change (if _ then some _ else none) = some next at stepped
      split at stepped
      · cases stepped
        exact ⟨prepared.sound, prepared.tracked, prepared.address, prepared.workPool,
          prepared.unused, prepared.outside, prepared.tab, prepared.cards, prepared.label⟩
      · cases stepped

theorem reachable_prepared (reachable : startedMachine.Reachable hub) : hub.Prepared :=
  reachable.invariant StartedHub.Prepared prepared_powerOn
    (fun _ _ _ before stepped => before.step stepped)

/-- `wait_for_ip_addr` can return exactly when an address was added since
`network_init`; `main` enters its loop after it, with the work pool and the
temperature tab in place, and takes no message out of the queue before. -/
theorem reachable_loop_prepared (reachable : startedMachine.Reachable hub) :
    (hub.phase = .networkConnect →
      ((hub.step .waitForIpAddr).isSome = true ↔ 0 < hub.addressWait.heard)) ∧
      (hub.phase = .looping → 0 < hub.addressWait.heard ∧
        hub.clocked.pipeline.workPoolInit = true ∧ hub.tempTab = true) ∧
      (hub.phase ≠ .looping → hub.clocked.nodes = Nodes.zero ∧
        hub.clocked.held = none ∧ hub.clocked.pipeline.received = []) := by
  have prepared := reachable_prepared reachable
  have address := prepared.address
  have workPool := prepared.workPool
  refine ⟨?_, ?_, ?_⟩
  · intro phase
    rw [phase] at address
    have passed : hub.pass .networkConnect .waitForIpAddr =
        some { hub with phase := .waitForIpAddr } := if_pos phase
    rw [← prepared.tracked.returns_iff address]
    change ((hub.pass .networkConnect .waitForIpAddr).bind _).isSome = true ↔ _
    rw [passed, Option.bind_some, Option.isSome_map]
  · intro phase
    rw [phase] at address workPool
    exact ⟨prepared.tracked.came address, workPool, prepared.tab phase⟩
  · intro phase
    exact prepared.outside phase

def loopingRun : List StartedAction :=
  [.deviceIsReady true, .networkInit, .networkConnect, .ipv4AddrAdd, .waitForIpAddr,
    .uiWorkQueueInit, .initGui]

theorem loopingRun_prepared :
    ∃ hub, startedMachine.run StartedHub.powerOn loopingRun = some hub ∧
      hub.phase = .looping ∧
      (hub.phase = .networkConnect →
        ((hub.step .waitForIpAddr).isSome = true ↔ 0 < hub.addressWait.heard)) ∧
      (hub.phase = .looping → 0 < hub.addressWait.heard ∧
        hub.clocked.pipeline.workPoolInit = true ∧ hub.tempTab = true) ∧
      (hub.phase ≠ .looping → hub.clocked.nodes = Nodes.zero ∧
        hub.clocked.held = none ∧ hub.clocked.pipeline.received = []) :=
  ⟨_, rfl, rfl, reachable_loop_prepared ⟨loopingRun, rfl⟩⟩

/-! ### The cards of a whole run -/

def StartedHub.creates (hub : StartedHub) : StartedAction → List Slot
  | .loopBody => hub.clocked.held.elim [] fun msg =>
      creations (drainBody hub.context hub.clocked.nodes msg).2
  | _ => []

def StartedHub.createsAlong : StartedHub → List StartedAction → List Slot
  | _, [] => []
  | hub, action :: rest =>
      hub.creates action ++
        match hub.step action with
        | none => []
        | some next => StartedHub.createsAlong next rest

def StartedHub.usedSlots (hub : StartedHub) : List Slot :=
  (List.finRange maxNodes).filter fun slot => (hub.clocked.nodes slot).used

theorem MessageSequence.usedSlots (items : MessageSequence) :
    ((List.finRange maxNodes).filter fun slot => (items.table slot).used) =
      (List.finRange maxNodes).take items.registry.entries.length := by
  have first : ∀ count ≤ maxNodes,
      ((List.finRange maxNodes).filter fun slot => decide (slot.val < count)) =
        (List.finRange maxNodes).take count := by decide
  rw [← first _ items.registry.bounded, items.length_registry]
  refine List.filter_congr ?_
  intro slot _
  exact Bool.eq_iff_iff.2 ((items.used_iff slot).trans decide_eq_true_iff.symm)

theorem StartedHub.nodes_step {action : StartedAction} (other : action ≠ .loopBody)
    (stepped : hub.step action = some next) : next.clocked.nodes = hub.clocked.nodes := by
  rcases StartedHub.clocked_cases stepped with ⟨-, same⟩ | ⟨inner, stands, moved⟩
  · rw [same]
  · cases inner with
    | tick elapsed => rw [← Option.some.inj moved]
    | post locals request =>
        rcases ClockedHub.within_cases moved with ⟨pipeline, -, equal⟩
        rw [equal]
    | thread step =>
        rcases ClockedHub.within_cases moved with ⟨pipeline, -, equal⟩
        rw [equal]
    | msgqGet =>
        rcases ClockedHub.msgqGet_cases moved with ⟨msg, pipeline, -, -, -, -, equal⟩
        rw [equal]
    | loopBody temperatureTabActive tempTab =>
        cases action with
        | loopBody => exact absurd rfl other
        | _ => cases stands

theorem StartedHub.Prepared.usedSlots_step (prepared : hub.Prepared) {action : StartedAction}
    (stepped : hub.step action = some next) :
    next.usedSlots = hub.usedSlots ++ hub.creates action := by
  by_cases body : action = .loopBody
  · subst body
    rcases StartedHub.loopBody_cases stepped with ⟨msg, clocked, looping, held, -, rfl, rfl⟩
    rcases prepared.sound.table with ⟨items, table, -⟩
    have cards := prepared.cards
    rw [table] at cards
    have created := (drainBody_creations items.refines cards hub.context msg
      (prepared.tab looping)).2
    have grown : (drainBody hub.context items.table msg).1 =
        MessageSequence.table (items ++ [(hub.context, msg)]) := by
      rw [MessageSequence.table, MessageSequence.table, drainAll_append]
    have shorter := Registry.length_le_record items.registry msg.id msg.reading
    rw [StartedHub.creates, held, Option.elim_some, StartedHub.usedSlots, StartedHub.usedSlots,
      table, created, grown, MessageSequence.usedSlots, MessageSequence.usedSlots,
      MessageSequence.registry_append, take_append_drop_take _ shorter]
  · have none : hub.creates action = [] := by
      cases action with
      | loopBody => exact absurd rfl body
      | _ => rfl
    rw [none, List.append_nil, StartedHub.usedSlots, StartedHub.nodes_step body stepped]
    rfl

theorem StartedHub.Prepared.usedSlots_run {final : StartedHub} (prepared : hub.Prepared)
    {actions : List StartedAction} (ran : startedMachine.run hub actions = some final) :
    final.usedSlots = hub.usedSlots ++ hub.createsAlong actions := by
  induction actions generalizing hub with
  | nil =>
      cases ran
      exact (List.append_nil _).symm
  | cons action rest ih =>
      rcases (startedMachine.run_cons_eq_some _ _ _ _).1 ran with ⟨next, stepped, continued⟩
      change hub.step action = some next at stepped
      rw [ih (prepared.step stepped) continued, prepared.usedSlots_step stepped,
        StartedHub.createsAlong, stepped, List.append_assoc]

/-- In the loop exactly the slots in use have a card, `create_node_widgets` was called for
each of these once and in their order, and the message that there are no nodes is hidden
exactly when a slot is in use. -/
theorem run_cards_and_label (actions : List StartedAction) (final : StartedHub)
    (ran : startedMachine.run StartedHub.powerOn actions = some final)
    (looping : final.phase = .looping) :
    (∀ slot, (final.clocked.nodes slot).card.isSome = (final.clocked.nodes slot).used) ∧
      StartedHub.powerOn.createsAlong actions =
        ((List.finRange maxNodes).filter fun slot => (final.clocked.nodes slot).used) ∧
      ∃ hidden, final.noNodesLabelHidden = some hidden ∧
        (hidden = true ↔ ∃ slot, (final.clocked.nodes slot).used = true) := by
  have prepared := reachable_prepared ⟨actions, ran⟩
  exact ⟨prepared.cards, (prepared_powerOn.usedSlots_run ran).symm, prepared.label looping⟩

def wholeDelivery (request : PostRequest) : List StartedAction :=
  [.post noLocals request, .thread .check, .thread .copy, .thread .submit, .thread .dequeue,
    .thread .put, .thread .finish, .msgqGet, .loopBody]

def twoNodesRun : List StartedAction :=
  loopingRun ++ wholeDelivery kitchenRequest ++ wholeDelivery gardenRequest ++
    wholeDelivery kitchenRequest

theorem twoNodesRun_cards_and_label :
    ∃ hub, startedMachine.run StartedHub.powerOn twoNodesRun = some hub ∧
      hub.usedSlots = [⟨0, by decide⟩, ⟨1, by decide⟩] ∧
      (∀ slot, (hub.clocked.nodes slot).card.isSome = (hub.clocked.nodes slot).used) ∧
      StartedHub.powerOn.createsAlong twoNodesRun =
        ((List.finRange maxNodes).filter fun slot => (hub.clocked.nodes slot).used) ∧
      ∃ hidden, hub.noNodesLabelHidden = some hidden ∧
        (hidden = true ↔ ∃ slot, (hub.clocked.nodes slot).used = true) := by
  have computed : (startedMachine.run StartedHub.powerOn twoNodesRun).map
      (fun hub => (hub.phase, hub.usedSlots)) =
        some (.looping, [⟨0, by decide⟩, ⟨1, by decide⟩]) := by
    decide +kernel
  rcases Option.map_eq_some_iff.1 computed with ⟨hub, ran, equal⟩
  rcases Prod.mk.inj equal with ⟨looping, used⟩
  exact ⟨hub, ran, used, run_cards_and_label twoNodesRun hub ran looping⟩

/-- The requests that are handled before `ui_work_queue_init` are refused one and all,
and whatever follows, none of them reaches the table. -/
theorem early_requests_never_stored (before after : List StartedAction) (early final : StartedHub)
    (ran : startedMachine.run StartedHub.powerOn before = some early)
    (notYet : early.phase.hasWorkPool = false)
    (continued : startedMachine.run early after = some final) :
    early.clocked.pipeline.returns.map Prod.fst =
        ClockedHub.boot.submittedAlong (clockedView.trace StartedHub.powerOn before) ∧
      (∀ call ∈ early.clocked.pipeline.returns, call.2 = einval) ∧
      ∃ items : MessageSequence, final.clocked.nodes = items.table ∧
        (items.map Prod.snd).Sublist
          (early.clocked.submittedAlong (clockedView.trace early after)) := by
  have prepared := reachable_prepared ⟨before, ran⟩
  have unused := prepared.unused notYet
  have nothing : early.clocked.pipeline.stream = [] := by
    rw [Pipeline.stream, unused.received, unused.msgq, Pipeline.pending, unused.work, unused.idle]
    rfl
  have threads := clockedView.run ran
  have later := clockedView.run continued
  refine ⟨?_, unused.refused, ?_⟩
  · have calls := ClockedHub.calls_run threads
    change early.clocked.pipeline.calls = [] ++ _ at calls
    rw [Pipeline.calls, unused.idle] at calls
    exact (List.append_nil _).symm.trans calls
  · have stream := (prepared.sound.stream_run later).1
    have sound : final.clocked.Sound := clocked_reachable_sound
      ⟨_, (clockedMachine.run_append_eq_some _ _ _ _).2 ⟨_, threads, later⟩⟩
    rcases sound.table_stream with ⟨items, table, ordered⟩
    rw [nothing] at stream
    exact ⟨items, table, ordered.trans stream⟩

/-- The kitchen's request comes too early, the garden's in time. -/
theorem earlyRequest_refused :
    ∃ early final,
      startedMachine.run StartedHub.powerOn [.post noLocals kitchenRequest] = some early ∧
        startedMachine.run early (loopingRun ++ wholeDelivery gardenRequest) = some final ∧
        early.clocked.pipeline.returns = [(tempNodePost 0 noLocals kitchenRequest, einval)] ∧
        final.clocked.pipeline.received = [tempNodePost 0 noLocals gardenRequest] ∧
        early.clocked.pipeline.returns.map Prod.fst =
          ClockedHub.boot.submittedAlong
            (clockedView.trace StartedHub.powerOn [.post noLocals kitchenRequest]) ∧
        (∀ call ∈ early.clocked.pipeline.returns, call.2 = einval) ∧
        ∃ items : MessageSequence, final.clocked.nodes = items.table ∧
          (items.map Prod.snd).Sublist
            (early.clocked.submittedAlong
              (clockedView.trace early (loopingRun ++ wholeDelivery gardenRequest))) := by
  have first : (startedMachine.run StartedHub.powerOn [.post noLocals kitchenRequest]).map
      (fun hub => (hub.phase.hasWorkPool, hub.clocked.pipeline.returns)) =
        some (false, [(tempNodePost 0 noLocals kitchenRequest, einval)]) := by
    decide +kernel
  rcases Option.map_eq_some_iff.1 first with ⟨early, ran, equal⟩
  rcases Prod.mk.inj equal with ⟨notYet, returns⟩
  have second : (startedMachine.run StartedHub.powerOn ([.post noLocals kitchenRequest] ++
      (loopingRun ++ wholeDelivery gardenRequest))).map
        (fun hub => hub.clocked.pipeline.received) =
          some [tempNodePost 0 noLocals gardenRequest] := by
    decide +kernel
  rcases Option.map_eq_some_iff.1 second with ⟨final, whole, received⟩
  rcases (startedMachine.run_append_eq_some _ _ _ _).1 whole with ⟨middle, same, continued⟩
  rw [ran] at same
  cases same
  exact ⟨early, final, ran, continued, returns, received,
    early_requests_never_stored [.post noLocals kitchenRequest]
      (loopingRun ++ wholeDelivery gardenRequest) early final ran notYet continued⟩

end ZephyrHomeHub.Hub
