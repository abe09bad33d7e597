import ZephyrHomeHub.Node.HeardReplies
import ZephyrHomeHub.System.HomeNetwork

/-! A node's own account of its requests under way agrees with what the network and the
CoAP thread of the hub hold, so the hub answers each request it takes. -/

namespace ZephyrHomeHub.System

open Foundation.LabelledMachine Foundation.LossyChannel ZephyrHomeHub.Hub ZephyrHomeHub.Node

variable {Name : Type} {household : Household Name} {home next : HomeNetwork Name}

theorem HomeNetwork.request_exchange {name : Name} {locals : QueryLocals} {request : Request}
    (made : home.request household name locals = some request) :
    request.exchange = household.fresh name (home.node name).node.client.calls := by
  unfold HomeNetwork.request at made
  split at made
  · cases made
    rfl
  · cases made

private theorem account_grows {account held others : List Exchange} (exchange : Exchange)
    (agree : account.Perm (held ++ others)) :
    (account ++ [exchange]).Perm ((held ++ [exchange]) ++ others) := by
  have grown := agree.append_right [exchange]
  rw [List.append_assoc] at grown ⊢
  exact grown.trans (List.perm_append_comm.append_left held)

private theorem account_shrinks {account others : List Exchange} {exchange : Exchange}
    (agree : account.Perm (exchange :: others)) : (account.erase exchange).Perm others := by
  have erased := agree.erase exchange
  rw [List.erase_cons_head] at erased
  exact erased

variable [DecidableEq Name]

def HomeNetwork.underAnswer (home : HomeNetwork Name) (name : Name) : List Exchange :=
  match home.answering with
  | some (caller, exchange) => if caller = name then [exchange] else []
  | none => []

def HomeNetwork.underWay (home : HomeNetwork Name) (name : Name) : List Exchange :=
  (home.requests name).map Request.exchange ++ home.underAnswer name

def HomeNetwork.InStep (home : HomeNetwork Name) : Prop :=
  ∀ name, (home.node name).node.client.requests.Perm (home.underWay name)

theorem StartedNode.requests_step {fresh : FreshExchanges} {started after : StartedNode}
    {action : StartedNodeAction} (keeps : movesRequest action = false)
    (stepped : started.step fresh action = some after) :
    after.node.client.requests = started.node.client.requests := by
  rcases StartedNode.client_step stepped with ⟨inner, rfl, moved⟩ | ⟨-, same⟩
  · cases inner with
    | prepareFails errno =>
        rcases NodeState.prepareFails_cases moved with ⟨-, equal⟩
        rw [equal]
        rfl
    | send ok => cases keeps
    | receive faults =>
        rcases NodeState.receive_cases moved with ⟨sent, ret, received, socket, -, -, equal⟩
        rw [equal]
        rfl
    | hubReply index code => cases keeps
    | loseRequest index => cases keeps
    | duplicateRequest index => cases keeps
    | loseReply index =>
        rcases Option.map_eq_some_iff.1 moved with ⟨replies, -, equal⟩
        rw [← equal]
    | duplicateReply index =>
        rcases Option.map_eq_some_iff.1 moved with ⟨replies, -, equal⟩
        rw [← equal]
    | deliver index =>
        rcases NodeState.deliver_cases moved with ⟨arrived, replies, -, equal⟩
        rw [equal]
    | deliverMalformed errno =>
        rw [← Option.some.inj moved]
        rfl
  · rw [same]

theorem HomeNetwork.InStep.mem {name : Name} (inStep : home.InStep) {exchange : Exchange}
    (under : exchange ∈ home.underWay name) :
    exchange ∈ (home.node name).node.client.requests :=
  (inStep name).mem_iff.2 under

theorem handed_underWay {name : Name} {index : Nat} {taken : Request} {rest : List Request}
    (handed : handOver (home.requests name) index = some (taken, rest)) :
    (home.underWay name).Perm
      (taken.exchange :: (rest.map Request.exchange ++ home.underAnswer name)) :=
  ((handOver_perm handed).map Request.exchange).append_right _

private theorem inStep_update (inStep : home.InStep) (answering : Option (Name × Exchange))
    {name : Name} {node : StartedNode} {requests : List Request}
    (others : ∀ other ≠ name,
      HomeNetwork.underAnswer { home with answering := answering } other = home.underAnswer other)
    (here : node.node.client.requests.Perm (requests.map Request.exchange ++
      HomeNetwork.underAnswer { home with answering := answering } name)) :
    ∀ other, (Function.update home.node name node other).node.client.requests.Perm
      ((Function.update home.requests name requests other).map Request.exchange ++
        HomeNetwork.underAnswer { home with answering := answering } other) := by
  intro other
  by_cases same : other = name
  · subst same
    rw [Function.update_self, Function.update_self]
    exact here
  · rw [Function.update_of_ne same, Function.update_of_ne same, others other same]
    exact inStep other

private theorem inStep_node (inStep : home.InStep) {name : Name} {node : StartedNode}
    (same : node.node.client.requests = (home.node name).node.client.requests) :
    ∀ other, (Function.update home.node name node other).node.client.requests.Perm
      (home.underWay other) := by
  intro other
  by_cases here : other = name
  · subst here
    rw [Function.update_self, same]
    exact inStep other
  · rw [Function.update_of_ne here]
    exact inStep other

theorem underAnswer_self {name : Name} {exchange : Exchange}
    (answering : home.answering = some (name, exchange)) : home.underAnswer name = [exchange] := by
  unfold HomeNetwork.underAnswer
  rw [answering]
  exact if_pos rfl

theorem underAnswer_other {name other : Name} {exchange : Exchange} (different : other ≠ name)
    (answering : home.answering = some (name, exchange)) : home.underAnswer other = [] := by
  unfold HomeNetwork.underAnswer
  rw [answering]
  exact if_neg (Ne.symm different)

theorem underAnswer_none (name : Name) (answering : home.answering = none) :
    home.underAnswer name = [] := by
  unfold HomeNetwork.underAnswer
  rw [answering]

theorem HomeNetwork.InStep.step (inStep : home.InStep) {action : HomeAction Name}
    (stepped : home.step household action = some next) : next.InStep := by
  rcases HomeNetwork.step_cases stepped with ⟨name, inner, node, rfl, keeps, moved, rfl⟩ |
    ⟨name, ok, locals, request, node, rfl, made, moved, rfl⟩ |
    ⟨name, index, taken, rest, node, rfl, handed, moved, rfl⟩ |
    ⟨name, index, taken, rest, node, rfl, handed, moved, rfl⟩ |
    ⟨name, index, locals, taken, rest, hub, rfl, free, handed, posted, rfl⟩ |
    ⟨name, exchange, node, rfl, answering, -, moved, rfl⟩ | ⟨inner, hub, rfl, other, moved, rfl⟩
  · exact inStep_node inStep (StartedNode.requests_step keeps moved)
  · rcases NodeState.send_cases (StartedNode.client_moves moved) with ⟨-, equal⟩
    refine inStep_update inStep home.answering (fun _ _ => rfl) ?_
    rw [equal]
    cases ok with
    | false => exact inStep name
    | true =>
        rw [if_pos rfl, if_pos rfl, List.map_append, List.map_singleton,
          HomeNetwork.request_exchange made]
        exact account_grows _ (inStep name)
  · have under := handed_underWay handed
    have inFlight := inStep.mem (under.mem_iff.2 List.mem_cons_self)
    rcases Option.map_eq_some_iff.1 (StartedNode.client_moves moved) with ⟨requests, lost, equal⟩
    cases (lose_idxOf inFlight).symm.trans lost
    refine inStep_update inStep home.answering (fun _ _ => rfl) ?_
    rw [← equal]
    exact account_shrinks ((inStep name).trans under)
  · have under := handed_underWay handed
    have inFlight := inStep.mem (under.mem_iff.2 List.mem_cons_self)
    rcases Option.map_eq_some_iff.1 (StartedNode.client_moves moved) with ⟨requests, copied, equal⟩
    cases (duplicate_idxOf inFlight).symm.trans copied
    refine inStep_update inStep home.answering (fun _ _ => rfl) ?_
    rw [← equal, List.map_append, List.map_singleton]
    exact account_grows _ (inStep name)
  · intro other
    have under := inStep other
    unfold HomeNetwork.underWay at under
    rw [underAnswer_none other free, List.append_nil] at under
    change (home.node other).node.client.requests.Perm
      ((Function.update home.requests name rest other).map Request.exchange ++
        HomeNetwork.underAnswer _ other)
    by_cases same : other = name
    · subst same
      rw [underAnswer_self rfl, Function.update_self]
      have handled := under.trans ((handOver_perm handed).map Request.exchange)
      exact handled.trans (List.perm_append_singleton _ _).symm
    · rw [underAnswer_other same rfl, List.append_nil, Function.update_of_ne same]
      exact under
  · have answer := underAnswer_self answering
    have under : exchange ∈ home.underWay name :=
      List.mem_append_right _ (answer ▸ List.mem_singleton.2 rfl)
    rcases NodeState.hubReply_cases (StartedNode.client_moves moved) with
      ⟨found, requests, taken, equal⟩
    cases (handOver_idxOf (inStep.mem under)).symm.trans taken
    intro other
    have before := inStep other
    unfold HomeNetwork.underWay at before
    change (Function.update home.node name node other).node.client.requests.Perm
      ((home.requests other).map Request.exchange ++ HomeNetwork.underAnswer _ other)
    rw [underAnswer_none other rfl, List.append_nil]
    by_cases same : other = name
    · subst same
      rw [answer] at before
      rw [Function.update_self, equal]
      exact account_shrinks (before.trans (List.perm_append_singleton _ _))
    · rw [underAnswer_other same answering, List.append_nil] at before
      rw [Function.update_of_ne same]
      exact before
  · exact inStep

theorem inStep_powerOn : (HomeNetwork.powerOn : HomeNetwork Name).InStep :=
  fun _ => List.Perm.refl _

theorem reachable_inStep (reachable : (homeMachine household).Reachable home) : home.InStep :=
  reachable.invariant HomeNetwork.InStep inStep_powerOn
    (fun _ _ _ inStep stepped => inStep.step stepped)

end ZephyrHomeHub.System
