import ZephyrHomeHub.Foundation.CountingSemaphore
import ZephyrHomeHub.Foundation.LabelledMachine

/-! `main` up to the return of `wifi_connect`, with the WiFi results arriving in any
order beside it. Only a connect result of status zero gives `sem_wifi`, and
`wifi_connect` waits for it whatever became of its request. -/

namespace ZephyrHomeHub.Node

open Foundation.CountingSemaphore Foundation.LabelledMachine

inductive WifiEvent where
  | connectResult
  | disconnectResult
deriving DecidableEq

/-- What `net_mgmt(NET_REQUEST_WIFI_CONNECT, ...)` did. -/
inductive WifiRequest where
  | accepted
  | rejected (code : Int) (negative : code < 0)

def WifiRequest.ret : WifiRequest → Int
  | .accepted => 0
  | .rejected code _ => code

def WifiRequest.startsAttempt : WifiRequest → Bool
  | .accepted => true
  | .rejected _ _ => false

/-- Where `main` is. `requested` is between the request and the wait, where DHCP is
started, and a return keeps the result of status zero that was the latest when
`k_sem_take` succeeded. -/
inductive WifiPhase where
  | start
  | networkInitialized
  | requested (ret : Int)
  | waiting (ret : Int)
  | returned (ret : Int) (latest : Option WifiEvent)

structure WifiNode where
  phase : WifiPhase
  semWifi : Semaphore 1
  attemptPending : Bool
  latestResult : Option WifiEvent

/-- `K_SEM_DEFINE(sem_wifi, 0, 1)` -/
def WifiNode.boot : WifiNode :=
  { phase := .start
    semWifi := { count := 0, bounded := Nat.zero_le 1 }
    attemptPending := false
    latestResult := none }

inductive WifiAction where
  | networkInit
  | netMgmt (request : WifiRequest)
  | kSemTake
  | taken
  | event (event : WifiEvent) (status : Int)

def onWifiConnectionEvent (event : WifiEvent) (status : Int) (semWifi : Semaphore 1) :
    Semaphore 1 :=
  match event with
  | .connectResult => if status ≠ 0 then semWifi else semWifi.give
  | .disconnectResult => if status ≠ 0 then semWifi else semWifi.takeNoWait

def WifiPhase.hasCallback : WifiPhase → Bool
  | .start => false
  | _ => true

def WifiPhase.waits : WifiPhase → Bool
  | .waiting _ => true
  | _ => false

def WifiNode.deliver (node : WifiNode) (event : WifiEvent) (status : Int) : WifiNode :=
  { phase := node.phase
    semWifi :=
      if node.phase.hasCallback then onWifiConnectionEvent event status node.semWifi
      else node.semWifi
    attemptPending :=
      match event with
      | .connectResult => false
      | .disconnectResult => node.attemptPending
    latestResult := if status = 0 then some event else node.latestResult }

/-- A give leaves the count for the waiter: where the kernel hands it over, `taken`
is the next action. The value of the request is returned after the wait. -/
def WifiNode.step (node : WifiNode) : WifiAction → Option WifiNode
  | .networkInit =>
      match node.phase with
      | .start => some { node with phase := .networkInitialized }
      | _ => none
  | .netMgmt request =>
      match node.phase with
      | .networkInitialized =>
          some { node with
            phase := .requested request.ret
            attemptPending := request.startsAttempt }
      | _ => none
  | .kSemTake =>
      match node.phase with
      | .requested ret => some { node with phase := .waiting ret }
      | _ => none
  | .taken =>
      match node.phase with
      | .waiting ret =>
          node.semWifi.take.map fun semWifi =>
            { node with phase := .returned ret node.latestResult, semWifi := semWifi }
      | _ => none
  | .event event status => some (node.deliver event status)

def wifiMachine : Machine WifiNode WifiAction :=
  { initial := WifiNode.boot
    step := WifiNode.step }

/-- `wifi_connect` is blocked only while an attempt is pending, and the link was up
when it took the semaphore of an accepted request. -/
structure WifiNode.ReportsFailure (node : WifiNode) : Prop where
  blocked : node.phase.waits = true → node.semWifi.count = 0 → node.attemptPending = true
  linkUp : ∀ latest, node.phase = .returned 0 latest → latest = some .connectResult

/-- The wait begins with the semaphore given or an attempt pending; while it lasts,
no attempt fails before the semaphore is given, and no disconnect takes it back
unless an attempt is pending. -/
def AttemptSucceeds (node : WifiNode) : WifiAction → Prop
  | .kSemTake => 0 < node.semWifi.count ∨ node.attemptPending = true
  | .event .connectResult status =>
      node.phase.waits = true → status = 0 ∨ 0 < node.semWifi.count
  | .event .disconnectResult status =>
      node.phase.waits = true → status = 0 → node.attemptPending = true
  | _ => True

/-! ### The semaphore follows the link -/

variable {node next : WifiNode}

/-- The semaphore is given only while the latest result is a connect. -/
structure WifiNode.Tracked (node : WifiNode) : Prop where
  unheard : node.phase.hasCallback = false → node.semWifi.count = 0
  given : 0 < node.semWifi.count → node.latestResult = some .connectResult
  returned : ∀ ret latest, node.phase = .returned ret latest → latest = some .connectResult

theorem WifiPhase.hasCallback_of_waits {phase : WifiPhase} (waits : phase.waits = true) :
    phase.hasCallback = true := by
  cases phase with
  | start => cases waits
  | _ => rfl

theorem onWifiConnectionEvent_error {status : Int} (error : status ≠ 0) (event : WifiEvent)
    (semWifi : Semaphore 1) : onWifiConnectionEvent event status semWifi = semWifi := by
  cases event <;> exact if_pos error

theorem onWifiConnectionEvent_zero (event : WifiEvent) (semWifi : Semaphore 1) :
    onWifiConnectionEvent event 0 semWifi =
      match event with
      | .connectResult => semWifi.give
      | .disconnectResult => semWifi.takeNoWait := by
  cases event <;> rfl

theorem WifiNode.deliver_semWifi (heard : node.phase.hasCallback = true) (event : WifiEvent)
    (status : Int) :
    (node.deliver event status).semWifi = onWifiConnectionEvent event status node.semWifi :=
  if_pos heard

theorem WifiNode.deliver_semWifi_unheard (unheard : node.phase.hasCallback = false)
    (event : WifiEvent) (status : Int) : (node.deliver event status).semWifi = node.semWifi :=
  if_neg (fun heard => Bool.noConfusion (heard.symm.trans unheard))

theorem tracked_boot : WifiNode.boot.Tracked :=
  { unheard := fun _ => rfl
    given := fun given => absurd given (Nat.lt_irrefl 0)
    returned := fun _ _ phase => nomatch phase }

theorem tracked_deliver (tracked : node.Tracked) (event : WifiEvent) (status : Int) :
    (node.deliver event status).Tracked := by
  refine ⟨?_, ?_, tracked.returned⟩
  · intro unheard
    change node.phase.hasCallback = false at unheard
    rw [WifiNode.deliver_semWifi_unheard unheard]
    exact tracked.unheard unheard
  · intro given
    cases heard : node.phase.hasCallback with
    | false =>
        rw [WifiNode.deliver_semWifi_unheard heard, tracked.unheard heard] at given
        exact absurd given (Nat.lt_irrefl 0)
    | true =>
        rw [WifiNode.deliver_semWifi heard] at given
        by_cases ok : status = 0
        · subst ok
          rw [onWifiConnectionEvent_zero] at given
          cases event with
          | connectResult => rfl
          | disconnectResult =>
              change 0 < node.semWifi.takeNoWait.count at given
              rw [Semaphore.takeNoWait_binary] at given
              exact absurd given (Nat.lt_irrefl 0)
        · rw [onWifiConnectionEvent_error ok] at given
          change (if status = 0 then some event else node.latestResult) = _
          rw [if_neg ok]
          exact tracked.given given

theorem WifiNode.step_cases {action : WifiAction} (stepped : node.step action = some next) :
    (action = .networkInit ∧ node.phase = .start ∧
        next = { node with phase := .networkInitialized }) ∨
      (∃ request, action = .netMgmt request ∧ node.phase = .networkInitialized ∧
        next = { node with
          phase := .requested request.ret
          attemptPending := request.startsAttempt }) ∨
      (∃ ret, action = .kSemTake ∧ node.phase = .requested ret ∧
        next = { node with phase := .waiting ret }) ∨
      (∃ ret semWifi, action = .taken ∧ node.phase = .waiting ret ∧
        node.semWifi.take = some semWifi ∧
        next = { node with phase := .returned ret node.latestResult, semWifi := semWifi }) ∨
      ∃ event status, action = .event event status ∧ next = node.deliver event status := by
  cases action with
  | networkInit =>
      left
      cases phase : node.phase <;> simp only [WifiNode.step, phase, reduceCtorEq] at stepped
      exact ⟨rfl, rfl, (Option.some.inj stepped).symm⟩
  | netMgmt request =>
      right; left
      cases phase : node.phase <;> simp only [WifiNode.step, phase, reduceCtorEq] at stepped
      exact ⟨request, rfl, rfl, (Option.some.inj stepped).symm⟩
  | kSemTake =>
      right; right; left
      cases phase : node.phase <;> simp only [WifiNode.step, phase, reduceCtorEq] at stepped
      exact ⟨_, rfl, rfl, (Option.some.inj stepped).symm⟩
  | taken =>
      right; right; right; left
      cases phase : node.phase <;> simp only [WifiNode.step, phase, reduceCtorEq] at stepped
      obtain ⟨semWifi, taken, nextEq⟩ := Option.map_eq_some_iff.1 stepped
      exact ⟨_, semWifi, rfl, rfl, taken, nextEq.symm⟩
  | event event status =>
      right; right; right; right
      exact ⟨event, status, rfl, (Option.some.inj stepped).symm⟩

theorem WifiNode.Tracked.proceeds (tracked : node.Tracked) {phase : WifiPhase}
    (hears : phase.hasCallback = true) (within : ∀ ret latest, phase ≠ .returned ret latest)
    (attemptPending : Bool) :
    WifiNode.Tracked { node with phase := phase, attemptPending := attemptPending } :=
  { unheard := fun unheard => Bool.noConfusion (hears.symm.trans unheard)
    given := tracked.given
    returned := fun ret latest same => absurd same (within ret latest) }

theorem tracked_step {action : WifiAction} (tracked : node.Tracked)
    (stepped : node.step action = some next) : next.Tracked := by
  rcases WifiNode.step_cases stepped with ⟨-, -, rfl⟩ | ⟨request, -, -, rfl⟩ |
    ⟨ret, -, -, rfl⟩ | ⟨ret, semWifi, -, -, taken, rfl⟩ | ⟨event, status, -, rfl⟩
  · exact tracked.proceeds rfl (fun _ _ => WifiPhase.noConfusion) _
  · exact tracked.proceeds rfl (fun _ _ => WifiPhase.noConfusion) _
  · exact tracked.proceeds rfl (fun _ _ => WifiPhase.noConfusion) _
  · have up := tracked.given (Semaphore.take_eq_some taken).1
    refine ⟨fun unheard => (by cases unheard), fun _ => up, ?_⟩
    intro other latest same
    cases same
    exact up
  · exact tracked_deliver tracked event status

theorem reachable_returned {node : WifiNode} (reachable : wifiMachine.Reachable node) {ret : Int}
    {latest : Option WifiEvent} (returned : node.phase = .returned ret latest) :
    latest = some .connectResult :=
  (Machine.Reachable.invariant WifiNode.Tracked tracked_boot
    (fun _ _ _ tracked stepped => tracked_step tracked stepped) reachable).returned ret latest
    returned

/-! ### The wait -/

theorem reportsFailure_iff (tracked : node.Tracked) :
    node.ReportsFailure ↔
      (node.phase.waits = true → node.semWifi.count = 0 → node.attemptPending = true) :=
  ⟨fun reports => reports.blocked, fun blocked => ⟨blocked, tracked.returned 0⟩⟩

theorem deliver_reportsFailure_iff (reports : node.ReportsFailure) (event : WifiEvent)
    (status : Int) :
    ((node.deliver event status).phase.waits = true →
        (node.deliver event status).semWifi.count = 0 →
        (node.deliver event status).attemptPending = true) ↔
      AttemptSucceeds node (.event event status) := by
  change (node.phase.waits = true → _ → _) ↔ _
  cases waits : node.phase.waits with
  | false =>
      refine iff_of_true (fun impossible => nomatch impossible) ?_
      cases event <;> exact fun impossible => Bool.noConfusion (waits.symm.trans impossible)
  | true =>
      have blocked := reports.blocked waits
      rw [WifiNode.deliver_semWifi (WifiPhase.hasCallback_of_waits waits)]
      by_cases ok : status = 0
      · subst ok
        rw [onWifiConnectionEvent_zero]
        cases event with
        | connectResult =>
            have given := node.semWifi.give_available Nat.one_pos
            refine iff_of_true (fun _ empty => ?_) (fun _ => Or.inl rfl)
            exact absurd empty (Nat.ne_of_gt given)
        | disconnectResult =>
            have empty := node.semWifi.takeNoWait_binary
            exact ⟨fun pending _ _ => pending rfl empty, fun pending _ _ => pending waits rfl⟩
      · rw [onWifiConnectionEvent_error ok]
        cases event with
        | connectResult =>
            constructor
            · intro never _
              refine Or.inr (Nat.pos_of_ne_zero fun empty => ?_)
              cases never rfl empty
            · intro given _ empty
              rcases given waits with zero | positive
              · exact absurd zero ok
              · exact absurd empty (Nat.ne_of_gt positive)
        | disconnectResult => exact iff_of_true (fun _ => blocked) (fun _ zero => absurd zero ok)

theorem reportsFailure_step_iff {action : WifiAction} (tracked : node.Tracked)
    (reports : node.ReportsFailure) (stepped : node.step action = some next) :
    next.ReportsFailure ↔ AttemptSucceeds node action := by
  rw [reportsFailure_iff (tracked_step tracked stepped)]
  rcases WifiNode.step_cases stepped with ⟨rfl, -, rfl⟩ | ⟨request, rfl, -, rfl⟩ |
    ⟨ret, rfl, -, rfl⟩ | ⟨ret, semWifi, rfl, -, -, rfl⟩ | ⟨event, status, rfl, rfl⟩
  · exact iff_of_true (fun impossible => nomatch impossible) trivial
  · exact iff_of_true (fun impossible => nomatch impossible) trivial
  · constructor
    · intro blocked
      rcases Nat.eq_zero_or_pos node.semWifi.count with empty | given
      · exact Or.inr (blocked rfl empty)
      · exact Or.inl given
    · rintro (given | pending) _ empty
      · exact absurd empty (Nat.ne_of_gt given)
      · exact pending
  · exact iff_of_true (fun impossible => nomatch impossible) trivial
  · exact deliver_reportsFailure_iff reports event status

/-- In a run `wifi_connect` never waits without a pending attempt, and returns zero
with the link up only, exactly when every step lets its attempt succeed. -/
theorem wifiConnect_reportsFailure_iff (actions : List WifiAction) :
    wifiMachine.Always WifiNode.ReportsFailure WifiNode.boot actions ↔
      wifiMachine.Guarded AttemptSucceeds WifiNode.boot actions :=
  wifiMachine.always_iff_guarded (fun _ => True) WifiNode.Tracked WifiNode.ReportsFailure
    AttemptSucceeds (fun _ _ _ _ tracked stepped => tracked_step tracked stepped)
    (fun _ _ _ _ tracked reports stepped => reportsFailure_step_iff tracked reports stepped)
    WifiNode.boot actions (fun _ _ => trivial) tracked_boot
    ⟨fun impossible => (nomatch impossible), fun _ impossible => nomatch impossible⟩

def refusedRun : List WifiAction :=
  [.networkInit, .netMgmt (.rejected (-5) (by decide)), .kSemTake]

def failedRun : List WifiAction :=
  [.networkInit, .netMgmt .accepted, .kSemTake, .event .connectResult 1]

theorem refused_and_failed_hang :
    (∃ node, wifiMachine.run WifiNode.boot refusedRun = some node ∧
      node.phase = .waiting (-5) ∧ ¬node.ReportsFailure) ∧
    ∃ node, wifiMachine.run WifiNode.boot failedRun = some node ∧
      node.phase = .waiting 0 ∧ ¬node.ReportsFailure :=
  ⟨⟨_, rfl, rfl, fun reports => nomatch reports.blocked rfl rfl⟩,
    ⟨_, rfl, rfl, fun reports => nomatch reports.blocked rfl rfl⟩⟩

end ZephyrHomeHub.Node
