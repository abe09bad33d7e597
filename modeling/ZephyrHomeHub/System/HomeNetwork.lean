import Mathlib.Logic.Function.Basic
import ZephyrHomeHub.Hub.Startup
import ZephyrHomeHub.Node.NodeId
import ZephyrHomeHub.Node.Startup

/-! The hub and any number of nodes on one network. A request carries the id and the
temperature its node printed; the network loses, duplicates and reorders requests and
replies; the CoAP thread of the hub takes one request at a time, passes it to
`temp_node_post`, and answers once that has returned. -/

namespace ZephyrHomeHub.System

open Foundation.CString Foundation.ComponentView Foundation.HexBytes Foundation.LabelledMachine
open Foundation.LossyChannel ZephyrHomeHub.Hub ZephyrHomeHub.Node

variable {Name : Type}

/-- The link address of each node, and the token and message id it draws for each call. -/
structure Household (Name : Type) where
  mac : Name → Mac
  fresh : Name → FreshExchanges

structure Request where
  exchange : Exchange
  uriQuery : List (List UInt8)
  payload : List UInt8

def Request.post (request : Request) : PostRequest :=
  { uriQuery := request.uriQuery
    payload := request.payload }

structure Handled (Name : Type) where
  node : Name
  request : Request
  msg : TempDataMsg

/-- The requests on their way to the hub are kept with their contents here; the
exchange that `answering` names is under way in the CoAP thread. -/
structure HomeNetwork (Name : Type) where
  node : Name → StartedNode
  requests : Name → List Request
  answering : Option (Name × Exchange)
  hub : StartedHub
  handled : List (Handled Name)

def HomeNetwork.powerOn : HomeNetwork Name :=
  { node := fun _ => StartedNode.powerOn
    requests := fun _ => []
    answering := none
    hub := StartedHub.powerOn
    handled := [] }

inductive HomeAction (Name : Type) where
  | node (name : Name) (action : StartedNodeAction)
  | send (name : Name) (ok : Bool) (locals : QueryLocals)
  | loseRequest (name : Name) (index : Nat)
  | duplicateRequest (name : Name) (index : Nat)
  | post (name : Name) (index : Nat) (locals : PostLocals)
  | answer
  | hub (action : StartedAction)

def movesRequest : StartedNodeAction → Bool
  | .sampling (.client (.send _)) => true
  | .sampling (.client (.hubReply _ _)) => true
  | .sampling (.client (.loseRequest _)) => true
  | .sampling (.client (.duplicateRequest _)) => true
  | _ => false

def isPost : StartedAction → Bool
  | .post _ _ => true
  | _ => false

/-- 2.01, `COAP_RESPONSE_CODE_CREATED` -/
def createdCode : Nat := 65

section Steps

variable [DecidableEq Name] (household : Household Name) (home : HomeNetwork Name)

def HomeNetwork.moveNode (name : Name) (action : StartedNodeAction) :
    Option (HomeNetwork Name) :=
  ((home.node name).step (household.fresh name) action).map fun node =>
    { home with node := Function.update home.node name node }

def HomeNetwork.client (name : Name) (action : NodeAction) : Option (HomeNetwork Name) :=
  home.moveNode household name (.sampling (.client action))

def HomeNetwork.carry (name : Name) (requests : List Request) : HomeNetwork Name :=
  { home with requests := Function.update home.requests name requests }

/-- Where a request with this exchange stands in the node's own account of the network. -/
def HomeNetwork.position (name : Name) (exchange : Exchange) : Nat :=
  (home.node name).node.client.requests.idxOf exchange

/-- What the call the node is in would send: the copy it took and its id. -/
def HomeNetwork.request (name : Name) (locals : QueryLocals) : Option Request :=
  match (home.node name).node.main, sentQuery (some (household.mac name)) locals with
  | .looping (some reading), some query =>
      some
        { exchange := household.fresh name (home.node name).node.client.calls
          uriQuery := [query]
          payload := sentPayload reading }
  | _, _ => none

def HomeNetwork.send (name : Name) (ok : Bool) (locals : QueryLocals) :
    Option (HomeNetwork Name) :=
  (home.request household name locals).bind fun request =>
    (home.client household name (.send ok)).map fun next =>
      next.carry name (if ok then home.requests name ++ [request] else home.requests name)

def HomeNetwork.loseRequest (name : Name) (index : Nat) : Option (HomeNetwork Name) :=
  (handOver (home.requests name) index).bind fun taken =>
    (home.client household name (.loseRequest (home.position name taken.1.exchange))).map
      fun next => next.carry name taken.2

def HomeNetwork.duplicateRequest (name : Name) (index : Nat) : Option (HomeNetwork Name) :=
  (handOver (home.requests name) index).bind fun taken =>
    (home.client household name (.duplicateRequest (home.position name taken.1.exchange))).map
      fun next => next.carry name (home.requests name ++ [taken.1])

def HomeNetwork.post (name : Name) (index : Nat) (locals : PostLocals) :
    Option (HomeNetwork Name) :=
  match home.answering with
  | some _ => none
  | none =>
      (handOver (home.requests name) index).bind fun taken =>
        (home.hub.step (.post locals taken.1.post)).map fun hub =>
          { home.carry name taken.2 with
            answering := some (name, taken.1.exchange)
            hub := hub
            handled := home.handled ++
              [{ node := name
                 request := taken.1
                 msg := tempNodePost home.hub.clocked.uptime locals taken.1.post }] }

def HomeNetwork.answer : Option (HomeNetwork Name) :=
  match home.answering, home.hub.clocked.pipeline.caller () with
  | some (name, exchange), .idle =>
      (home.client household name (.hubReply (home.position name exchange) createdCode)).map
        fun next => { next with answering := none }
  | _, _ => none

def HomeNetwork.step : HomeAction Name → Option (HomeNetwork Name)
  | .node name action =>
      if movesRequest action then none
      else home.moveNode household name action
  | .send name ok locals => home.send household name ok locals
  | .loseRequest name index => home.loseRequest household name index
  | .duplicateRequest name index => home.duplicateRequest household name index
  | .post name index locals => home.post name index locals
  | .answer => home.answer household
  | .hub action =>
      if isPost action then none
      else (home.hub.step action).map fun hub => { home with hub := hub }

def homeMachine : Machine (HomeNetwork Name) (HomeAction Name) :=
  { initial := HomeNetwork.powerOn
    step := HomeNetwork.step household }

end Steps

/-! ### What each step can do -/

section Cases

variable [DecidableEq Name] {household : Household Name} {home next : HomeNetwork Name}

theorem HomeNetwork.moveNode_cases {name : Name} {action : StartedNodeAction}
    (moved : home.moveNode household name action = some next) :
    ∃ node, (home.node name).step (household.fresh name) action = some node ∧
      next = { home with node := Function.update home.node name node } := by
  rcases Option.map_eq_some_iff.1 moved with ⟨node, stepped, equal⟩
  exact ⟨node, stepped, equal.symm⟩

/-- A node takes a step of its own, a request of it is put on the network, lost,
duplicated or handed to the hub, its answer is made, or the hub takes a step. -/
theorem HomeNetwork.step_cases {action : HomeAction Name}
    (stepped : home.step household action = some next) :
    (∃ name inner node, action = .node name inner ∧
        movesRequest inner = false ∧
        (home.node name).step (household.fresh name) inner = some node ∧
        next = { home with node := Function.update home.node name node }) ∨
      (∃ name ok locals request node, action = .send name ok locals ∧
        home.request household name locals = some request ∧
        (home.node name).step (household.fresh name) (.sampling (.client (.send ok))) =
          some node ∧
        next =
          { home with
            node := Function.update home.node name node
            requests := Function.update home.requests name
              (if ok then home.requests name ++ [request] else home.requests name) }) ∨
      (∃ name index taken rest node, action = .loseRequest name index ∧
        handOver (home.requests name) index = some (taken, rest) ∧
        (home.node name).step (household.fresh name)
          (.sampling (.client (.loseRequest (home.position name taken.exchange)))) = some node ∧
        next =
          { home with
            node := Function.update home.node name node
            requests := Function.update home.requests name rest }) ∨
      (∃ name index taken rest node, action = .duplicateRequest name index ∧
        handOver (home.requests name) index = some (taken, rest) ∧
        (home.node name).step (household.fresh name)
          (.sampling (.client (.duplicateRequest (home.position name taken.exchange)))) =
            some node ∧
        next =
          { home with
            node := Function.update home.node name node
            requests := Function.update home.requests name (home.requests name ++ [taken]) }) ∨
      (∃ name index locals taken rest hub, action = .post name index locals ∧
        home.answering = none ∧
        handOver (home.requests name) index = some (taken, rest) ∧
        home.hub.step (.post locals taken.post) = some hub ∧
        next =
          { home with
            requests := Function.update home.requests name rest
            answering := some (name, taken.exchange)
            hub := hub
            handled := home.handled ++
              [{ node := name
                 request := taken
                 msg := tempNodePost home.hub.clocked.uptime locals taken.post }] }) ∨
      (∃ name exchange node, action = .answer ∧ home.answering = some (name, exchange) ∧
        home.hub.clocked.pipeline.caller () = .idle ∧
        (home.node name).step (household.fresh name)
          (.sampling (.client (.hubReply (home.position name exchange) createdCode))) =
            some node ∧
        next =
          { home with
            node := Function.update home.node name node
            answering := none }) ∨
      ∃ inner hub, action = .hub inner ∧ isPost inner = false ∧
        home.hub.step inner = some hub ∧ next = { home with hub := hub } := by
  cases action with
  | node name inner =>
      left
      change (if movesRequest inner then none else _) = some next at stepped
      split at stepped
      · cases stepped
      · rename_i keeps
        rcases HomeNetwork.moveNode_cases stepped with ⟨node, moved, rfl⟩
        exact ⟨name, inner, node, rfl, Bool.eq_false_iff.2 keeps, moved, rfl⟩
  | send name ok locals =>
      right; left
      rcases Option.bind_eq_some_iff.1 stepped with ⟨request, made, sent⟩
      rcases Option.map_eq_some_iff.1 sent with ⟨middle, moved, rfl⟩
      rcases HomeNetwork.moveNode_cases moved with ⟨node, client, rfl⟩
      exact ⟨name, ok, locals, request, node, rfl, made, client, rfl⟩
  | loseRequest name index =>
      right; right; left
      rcases Option.bind_eq_some_iff.1 stepped with ⟨⟨taken, rest⟩, handed, lost⟩
      rcases Option.map_eq_some_iff.1 lost with ⟨middle, moved, rfl⟩
      rcases HomeNetwork.moveNode_cases moved with ⟨node, client, rfl⟩
      exact ⟨name, index, taken, rest, node, rfl, handed, client, rfl⟩
  | duplicateRequest name index =>
      right; right; right; left
      rcases Option.bind_eq_some_iff.1 stepped with ⟨⟨taken, rest⟩, handed, copied⟩
      rcases Option.map_eq_some_iff.1 copied with ⟨middle, moved, rfl⟩
      rcases HomeNetwork.moveNode_cases moved with ⟨node, client, rfl⟩
      exact ⟨name, index, taken, rest, node, rfl, handed, client, rfl⟩
  | post name index locals =>
      right; right; right; right; left
      change home.post name index locals = some next at stepped
      unfold HomeNetwork.post at stepped
      cases free : home.answering with
      | some answer =>
          rw [free] at stepped
          cases stepped
      | none =>
          rw [free] at stepped
          rcases Option.bind_eq_some_iff.1 stepped with ⟨⟨taken, rest⟩, handed, called⟩
          rcases Option.map_eq_some_iff.1 called with ⟨hub, posted, rfl⟩
          exact ⟨name, index, locals, taken, rest, hub, rfl, rfl, handed, posted, rfl⟩
  | answer =>
      right; right; right; right; right; left
      change home.answer household = some next at stepped
      unfold HomeNetwork.answer at stepped
      split at stepped
      · rename_i name exchange answering idle
        rcases Option.map_eq_some_iff.1 stepped with ⟨middle, moved, rfl⟩
        rcases HomeNetwork.moveNode_cases moved with ⟨node, client, rfl⟩
        exact ⟨name, exchange, node, rfl, answering, idle, client, rfl⟩
      · cases stepped
  | hub inner =>
      right; right; right; right; right; right
      change (if isPost inner then none else _) = some next at stepped
      split at stepped
      · cases stepped
      · rename_i keeps
        rcases Option.map_eq_some_iff.1 stepped with ⟨hub, moved, rfl⟩
        exact ⟨inner, hub, rfl, Bool.eq_false_iff.2 keeps, moved, rfl⟩

/-! ### The hub and each node as they are alone -/

def HomeNetwork.nodeAction (home : HomeNetwork Name) :
    HomeAction Name → Option (Name × StartedNodeAction)
  | .node name action => some (name, action)
  | .send name ok _ => some (name, .sampling (.client (.send ok)))
  | .loseRequest name index =>
      (home.requests name)[index]?.map fun request =>
        (name, .sampling (.client (.loseRequest (home.position name request.exchange))))
  | .duplicateRequest name index =>
      (home.requests name)[index]?.map fun request =>
        (name, .sampling (.client (.duplicateRequest (home.position name request.exchange))))
  | .answer =>
      home.answering.map fun under =>
        (under.1, .sampling (.client (.hubReply (home.position under.1 under.2) createdCode)))
  | .post _ _ _ => none
  | .hub _ => none

def HomeNetwork.hubAction (home : HomeNetwork Name) : HomeAction Name → Option StartedAction
  | .post name index locals =>
      (home.requests name)[index]?.map fun request => .post locals request.post
  | .hub action => some action
  | _ => none

theorem HomeNetwork.node_cases {action : HomeAction Name}
    (stepped : home.step household action = some next) :
    (home.nodeAction action = none ∧ next.node = home.node) ∨
      ∃ name inner node, home.nodeAction action = some (name, inner) ∧
        (home.node name).step (household.fresh name) inner = some node ∧
        next.node = Function.update home.node name node := by
  rcases HomeNetwork.step_cases stepped with ⟨name, inner, node, rfl, -, moved, rfl⟩ |
    ⟨name, ok, locals, request, node, rfl, -, moved, rfl⟩ |
    ⟨name, index, taken, rest, node, rfl, handed, moved, rfl⟩ |
    ⟨name, index, taken, rest, node, rfl, handed, moved, rfl⟩ |
    ⟨name, index, locals, taken, rest, hub, rfl, -, -, -, rfl⟩ |
    ⟨name, exchange, node, rfl, answering, -, moved, rfl⟩ | ⟨inner, hub, rfl, -, -, rfl⟩
  · exact .inr ⟨name, inner, node, rfl, moved, rfl⟩
  · exact .inr ⟨name, _, node, rfl, moved, rfl⟩
  · refine .inr ⟨name, _, node, ?_, moved, rfl⟩
    rw [HomeNetwork.nodeAction, handOver_getElem handed]
    rfl
  · refine .inr ⟨name, _, node, ?_, moved, rfl⟩
    rw [HomeNetwork.nodeAction, handOver_getElem handed]
    rfl
  · exact .inl ⟨rfl, rfl⟩
  · refine .inr ⟨name, _, node, ?_, moved, rfl⟩
    rw [HomeNetwork.nodeAction, answering]
    rfl
  · exact .inl ⟨rfl, rfl⟩

theorem HomeNetwork.hub_cases {action : HomeAction Name}
    (stepped : home.step household action = some next) :
    (home.hubAction action = none ∧ next.hub = home.hub) ∨
      ∃ inner, home.hubAction action = some inner ∧ home.hub.step inner = some next.hub := by
  rcases HomeNetwork.step_cases stepped with ⟨name, inner, node, rfl, -, -, rfl⟩ |
    ⟨name, ok, locals, request, node, rfl, -, -, rfl⟩ |
    ⟨name, index, taken, rest, node, rfl, -, -, rfl⟩ |
    ⟨name, index, taken, rest, node, rfl, -, -, rfl⟩ |
    ⟨name, index, locals, taken, rest, hub, rfl, -, handed, posted, rfl⟩ |
    ⟨name, exchange, node, rfl, -, -, -, rfl⟩ | ⟨inner, hub, rfl, -, moved, rfl⟩
  · exact .inl ⟨rfl, rfl⟩
  · exact .inl ⟨rfl, rfl⟩
  · exact .inl ⟨rfl, rfl⟩
  · exact .inl ⟨rfl, rfl⟩
  · refine .inr ⟨_, ?_, posted⟩
    rw [HomeNetwork.hubAction, handOver_getElem handed]
    rfl
  · exact .inl ⟨rfl, rfl⟩
  · exact .inr ⟨inner, rfl, moved⟩

variable (household) in
def hubView : View (homeMachine household) startedMachine :=
  { state := HomeNetwork.hub
    action := HomeNetwork.hubAction
    initial := rfl
    step := by
      intro before action after stepped
      rcases HomeNetwork.hub_cases stepped with ⟨none, same⟩ | ⟨inner, some, moved⟩
      · rw [none, same]
        rfl
      · rw [some]
        exact (startedMachine.run_cons_eq_some _ _ _ _).2 ⟨_, moved, rfl⟩ }

variable (household) in
def nodeView (name : Name) :
    View (homeMachine household) (startedNodeMachine (household.fresh name)) :=
  { state := fun home => home.node name
    action := fun home action =>
      (home.nodeAction action).bind fun moves => if moves.1 = name then some moves.2 else none
    initial := rfl
    step := by
      intro before action after stepped
      rcases HomeNetwork.node_cases stepped with
        ⟨none, same⟩ | ⟨other, inner, node, some, moved, after⟩
      · rw [none, same]
        rfl
      · rw [some, after, Option.bind_some]
        by_cases here : other = name
        · subst here
          rw [if_pos rfl, Function.update_self]
          exact ((startedNodeMachine _).run_cons_eq_some _ _ _ _).2 ⟨_, moved, rfl⟩
        · rw [if_neg here, Function.update_of_ne (Ne.symm here)]
          rfl }

end Cases

end ZephyrHomeHub.System
