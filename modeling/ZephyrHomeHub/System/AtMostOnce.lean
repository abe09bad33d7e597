import Mathlib.Data.List.Perm.Subperm
import ZephyrHomeHub.System.Provenance

/-! A network that duplicates no request: of what a node has sent, the hub handles each
payload at most once, and the table has no more of it than was handled. -/

namespace ZephyrHomeHub.System

open Foundation.ComponentView Foundation.LabelledMachine Foundation.LossyChannel
open ZephyrHomeHub.Hub ZephyrHomeHub.Node

variable {Name : Type}

def NoDuplicate : HomeAction Name → Prop
  | .duplicateRequest _ _ => False
  | _ => True

variable [DecidableEq Name] {household : Household Name} {home next : HomeNetwork Name}

def payloadsOf (name : Name) (handled : List (Handled Name)) : List (List UInt8) :=
  (handled.filter fun entry => entry.node = name).map fun entry => entry.request.payload

/-- What was handled or is on its way was sent, and once. -/
def HomeNetwork.AtMostOnce (home : HomeNetwork Name) : Prop :=
  ∀ name, (payloadsOf name home.handled ++ (home.requests name).map Request.payload).Subperm
    (home.node name).node.sent

theorem payloadsOf_append (name : Name) (first second : List (Handled Name)) :
    payloadsOf name (first ++ second) = payloadsOf name first ++ payloadsOf name second := by
  simp only [payloadsOf, List.filter_append, List.map_append]

theorem payloadsOf_singleton (name : Name) (entry : Handled Name) :
    payloadsOf name [entry] = if entry.node = name then [entry.request.payload] else [] := by
  by_cases same : entry.node = name <;> simp [payloadsOf, same]

theorem StartedNode.sent_step {fresh : FreshExchanges} {node after : StartedNode}
    {action : StartedNodeAction} (stepped : node.step fresh action = some after) :
    (∃ reading, action = .sampling (.client (.send true)) ∧
        node.node.main = .looping (some reading) ∧
        after.node.sent = node.node.sent ++ [sentPayload reading]) ∨
      (action ≠ .sampling (.client (.send true)) ∧ after.node.sent = node.node.sent) := by
  rcases StartedNode.step_cases stepped with ⟨inner, wifi, rfl, -, rfl⟩ |
    ⟨ret, latest, rfl, -, -, rfl⟩ | ⟨wait, rfl, -, -, rfl⟩ | ⟨rfl, rfl⟩ |
    ⟨inner, sampled, rfl, -, moved, rfl⟩
  · exact .inr ⟨StartedNodeAction.noConfusion, rfl⟩
  · exact .inr ⟨StartedNodeAction.noConfusion, rfl⟩
  · exact .inr ⟨StartedNodeAction.noConfusion, rfl⟩
  · exact .inr ⟨StartedNodeAction.noConfusion, rfl⟩
  · rcases SamplingNode.step_cases moved with
      ⟨reading, rfl, main, -, sent, -⟩ | ⟨other, quiet⟩
    · exact .inl ⟨reading, rfl, main, sent⟩
    · exact .inr ⟨fun same => other (StartedNodeAction.sampling.inj same), quiet.sent⟩

private theorem atMostOnce_update (once : home.AtMostOnce) {name : Name} {node : StartedNode}
    {requests : List Request} {handled : List (Handled Name)}
    (others : ∀ other ≠ name, payloadsOf other handled = payloadsOf other home.handled)
    (here : (payloadsOf name handled ++ requests.map Request.payload).Subperm node.node.sent) :
    ∀ other, (payloadsOf other handled ++
        (Function.update home.requests name requests other).map Request.payload).Subperm
      (Function.update home.node name node other).node.sent := by
  intro other
  by_cases same : other = name
  · subst same
    rw [Function.update_self, Function.update_self]
    exact here
  · rw [Function.update_of_ne same, Function.update_of_ne same, others other same]
    exact once other

private theorem atMostOnce_node (once : home.AtMostOnce) {name : Name} {node : StartedNode}
    (sent : node.node.sent = (home.node name).node.sent) :
    ∀ other, (payloadsOf other home.handled ++ (home.requests other).map Request.payload).Subperm
      (Function.update home.node name node other).node.sent := by
  intro other
  by_cases same : other = name
  · subst same
    rw [Function.update_self, sent]
    exact once other
  · rw [Function.update_of_ne same]
    exact once other

private theorem payloadsOf_hand {name : Name} {index : Nat} {taken : Request}
    {rest : List Request} (handed : handOver (home.requests name) index = some (taken, rest))
    (entry : Handled Name) (node : entry.node = name) (request : entry.request = taken)
    (other : Name) :
    (payloadsOf other (home.handled ++ [entry]) ++
        (Function.update home.requests name rest other).map Request.payload).Perm
      (payloadsOf other home.handled ++ (home.requests other).map Request.payload) := by
  rw [payloadsOf_append, payloadsOf_singleton, node, request]
  by_cases same : other = name
  · subst same
    rw [if_pos rfl, Function.update_self, List.append_assoc]
    exact ((handOver_perm handed).map Request.payload).symm.append_left _
  · rw [if_neg (Ne.symm same), Function.update_of_ne same, List.append_nil]

theorem HomeNetwork.AtMostOnce.step (once : home.AtMostOnce) {action : HomeAction Name}
    (single : NoDuplicate action) (stepped : home.step household action = some next) :
    next.AtMostOnce := by
  rcases HomeNetwork.step_cases stepped with ⟨name, inner, node, rfl, keeps, moved, rfl⟩ |
    ⟨name, ok, locals, request, node, rfl, made, moved, rfl⟩ |
    ⟨name, index, taken, rest, node, rfl, handed, moved, rfl⟩ |
    ⟨name, index, taken, rest, node, rfl, handed, moved, rfl⟩ |
    ⟨name, index, locals, taken, rest, hub, rfl, -, handed, posted, rfl⟩ |
    ⟨name, exchange, node, rfl, answering, -, moved, rfl⟩ | ⟨inner, hub, rfl, other, moved, rfl⟩
  · rcases StartedNode.sent_step moved with ⟨reading, rfl, -, -⟩ | ⟨-, sent⟩
    · cases keeps
    · exact atMostOnce_node once sent
  · refine atMostOnce_update once (fun _ _ => rfl) ?_
    cases ok with
    | false =>
        rcases StartedNode.sent_step moved with ⟨reading, impossible, -, -⟩ | ⟨-, sent⟩
        · cases impossible
        · rw [sent]
          exact once name
    | true =>
        rcases StartedNode.sent_step moved with ⟨reading, -, main, sent⟩ | ⟨other, -⟩
        · have payload := HomeNetwork.request_payload main made
          rw [if_pos rfl, sent, List.map_append, List.map_singleton, payload, ← List.append_assoc]
          exact (List.subperm_append_right _).2 (once name)
        · exact absurd rfl other
  · refine atMostOnce_update once (fun _ _ => rfl) ?_
    rcases StartedNode.sent_step moved with ⟨reading, impossible, -, -⟩ | ⟨-, sent⟩
    · cases impossible
    · rw [sent]
      have fewer : (rest.map Request.payload).Subperm
          ((home.requests name).map Request.payload) :=
        ((handOver_sublist handed).map _).subperm
      exact ((List.subperm_append_left _).2 fewer).trans (once name)
  · exact single.elim
  · intro other
    exact (payloadsOf_hand handed _ rfl rfl other).subperm.trans (once other)
  · refine atMostOnce_node once ?_
    rcases StartedNode.sent_step moved with ⟨reading, impossible, -, -⟩ | ⟨-, sent⟩
    · cases impossible
    · exact sent
  · exact once

end ZephyrHomeHub.System
