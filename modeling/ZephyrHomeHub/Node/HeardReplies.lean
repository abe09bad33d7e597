import ZephyrHomeHub.Node.ReplyMatching
import ZephyrHomeHub.Node.SamplingSteps
import ZephyrHomeHub.Node.Startup

/-! The replies a node has heard of: on their way to it, in its socket's queue, or
received by a call. Only the hub makes one, of a request it has. -/

namespace ZephyrHomeHub.Node

open Foundation.ComponentView Foundation.LabelledMachine Foundation.LossyChannel

variable {fresh : FreshExchanges}

def Datagram.asReply : Datagram → Option Reply
  | .empty => none
  | .malformed _ => none
  | .reply answer => some answer

def CallRecord.asReply (record : CallRecord) : Option Reply := record.received.bind Datagram.asReply

def NodeState.heard (node : NodeState) : List Reply :=
  node.replies ++ (node.socket.filterMap Datagram.asReply ++
    node.finished.filterMap CallRecord.asReply)

theorem Datagram.asReply_refused (errno : Option Nat) :
    (Datagram.refused errno).asReply = none := by
  cases errno <;> rfl

private theorem heard_of_subset {node next : NodeState} (replies : next.replies ⊆ node.heard)
    (socket : next.socket.filterMap Datagram.asReply ⊆ node.heard)
    (finished : next.finished.filterMap CallRecord.asReply ⊆ node.heard) :
    next.heard ⊆ node.heard :=
  List.append_subset.2 ⟨replies, List.append_subset.2 ⟨socket, finished⟩⟩

private theorem replies_heard (node : NodeState) : node.replies ⊆ node.heard :=
  List.subset_append_left _ _

private theorem socket_heard (node : NodeState) :
    node.socket.filterMap Datagram.asReply ⊆ node.heard :=
  List.Subset.trans (List.subset_append_left _ _) (List.subset_append_right _ _)

private theorem finished_heard (node : NodeState) :
    node.finished.filterMap CallRecord.asReply ⊆ node.heard :=
  List.Subset.trans (List.subset_append_right _ _) (List.subset_append_right _ _)

private theorem processSimpleCoapReply_heard {faults : ReplyFaults} {socket after : List Datagram}
    {ret : Int} {received : Option Datagram}
    (outcome : processSimpleCoapReply faults socket = some (ret, received, after)) :
    after ⊆ socket ∧ ∀ datagram ∈ received, datagram ∈ socket := by
  unfold processSimpleCoapReply at outcome
  split at outcome
  · split at outcome
    · split at outcome
      · cases outcome
        exact ⟨List.nil_subset _, fun _ nothing => nomatch nothing⟩
      · split at outcome
        · cases outcome
          exact ⟨List.nil_subset _, fun _ nothing => nomatch nothing⟩
        · cases outcome
          exact ⟨List.nil_subset _, fun _ nothing => nomatch nothing⟩
    · cases outcome
  · split at outcome
    · cases outcome
      exact ⟨List.Subset.refl _, fun _ nothing => nomatch nothing⟩
    · split at outcome
      · cases outcome
        exact ⟨List.Subset.refl _, fun _ nothing => nomatch nothing⟩
      · cases outcome
        refine ⟨List.subset_cons_self _ _, fun datagram first => ?_⟩
        cases first
        exact List.mem_cons_self

private theorem heard_finishCall {node next : NodeState} {record : CallRecord}
    (replies : next.replies = node.replies) (socket : next.socket ⊆ node.socket)
    (finished : next.finished = node.finished)
    (received : ∀ datagram ∈ record.received, datagram ∈ node.socket) :
    (next.finishCall record).heard ⊆ node.heard := by
  refine heard_of_subset ?_ ?_ ?_
  · change next.replies ⊆ _
    rw [replies]
    exact replies_heard node
  · exact List.Subset.trans (List.filterMap_subset Datagram.asReply socket) (socket_heard node)
  · intro reply member
    change reply ∈ (next.finished ++ [record]).filterMap CallRecord.asReply at member
    rw [finished, List.filterMap_append] at member
    rcases List.mem_append.1 member with before | last
    · exact finished_heard node before
    · rcases List.mem_filterMap.1 last with ⟨found, isRecord, replied⟩
      cases List.mem_singleton.1 isRecord
      rcases Option.bind_eq_some_iff.1 replied with ⟨datagram, got, read⟩
      exact socket_heard node (List.mem_filterMap.2 ⟨datagram, received datagram got, read⟩)

theorem NodeState.heard_step {node next : NodeState} {action : NodeAction}
    (stepped : node.step fresh action = some next) {reply : Reply} (heard : reply ∈ next.heard) :
    reply ∈ node.heard ∨
      ∃ index, action = .hubReply index reply.code ∧
        node.requests[index]? = some reply.exchange := by
  cases action with
  | prepareFails errno =>
      rcases NodeState.prepareFails_cases stepped with ⟨-, rfl⟩
      refine .inl (heard_finishCall rfl (List.Subset.refl _) rfl ?_ heard)
      intro datagram nothing
      cases nothing
  | send ok =>
      rcases NodeState.send_cases stepped with ⟨-, rfl⟩
      exact .inl heard
  | receive faults =>
      rcases NodeState.receive_cases stepped with ⟨sent, ret, received, socket, -, outcome, rfl⟩
      rcases processSimpleCoapReply_heard outcome with ⟨fewer, first⟩
      refine .inl (heard_finishCall ?_ ?_ ?_ ?_ heard)
      · rfl
      · exact fewer
      · rfl
      · exact first
  | hubReply index code =>
      rcases NodeState.hubReply_cases stepped with ⟨exchange, requests, taken, rfl⟩
      rcases List.mem_append.1 heard with made | other
      · rcases List.mem_append.1 made with before | last
        · exact .inl (replies_heard node before)
        · cases List.mem_singleton.1 last
          exact .inr ⟨index, rfl, handOver_getElem taken⟩
      · exact .inl (List.mem_append_right _ other)
  | loseRequest index =>
      rcases Option.map_eq_some_iff.1 stepped with ⟨requests, -, rfl⟩
      exact .inl heard
  | duplicateRequest index =>
      rcases Option.map_eq_some_iff.1 stepped with ⟨requests, -, rfl⟩
      exact .inl heard
  | loseReply index =>
      rcases Option.map_eq_some_iff.1 stepped with ⟨replies, lost, rfl⟩
      refine .inl (heard_of_subset ?_ ?_ ?_ heard)
      · exact List.Subset.trans (lose_sublist lost).subset (replies_heard node)
      · exact socket_heard node
      · exact finished_heard node
  | duplicateReply index =>
      rcases Option.map_eq_some_iff.1 stepped with ⟨replies, copied, rfl⟩
      refine .inl (heard_of_subset ?_ ?_ ?_ heard)
      · exact List.Subset.trans (duplicate_subset copied) (replies_heard node)
      · exact socket_heard node
      · exact finished_heard node
  | deliver index =>
      rcases NodeState.deliver_cases stepped with ⟨arrived, replies, taken, rfl⟩
      refine .inl (heard_of_subset ?_ ?_ ?_ heard)
      · exact List.Subset.trans (handOver_sublist taken).subset (replies_heard node)
      · change (node.socket ++ [Datagram.reply arrived]).filterMap Datagram.asReply ⊆ _
        rw [List.filterMap_append]
        refine List.append_subset.2 ⟨socket_heard node, ?_⟩
        refine List.cons_subset.2 ⟨replies_heard node ?_, List.nil_subset _⟩
        exact (handOver_perm taken).mem_iff.2 List.mem_cons_self
      · exact finished_heard node
  | deliverMalformed errno =>
      cases Option.some.inj stepped
      refine .inl (heard_of_subset ?_ ?_ ?_ heard)
      · exact replies_heard node
      · change (node.socket ++ [Datagram.refused errno]).filterMap Datagram.asReply ⊆ _
        rw [List.filterMap_append, List.filterMap_cons, Datagram.asReply_refused]
        exact List.append_subset.2 ⟨socket_heard node, List.nil_subset _⟩
      · exact finished_heard node

theorem SamplingNode.client_step {node next : SamplingNode} {action : SamplingAction}
    (stepped : node.step fresh action = some next) :
    (∃ inner, action = .client inner ∧ node.client.step fresh inner = some next.client) ∨
      ((∀ inner, action ≠ .client inner) ∧ next.client = node.client) := by
  cases SamplingNode.step_moves stepped with
  | send ok reading client main moved => exact .inl ⟨_, rfl, moved⟩
  | prepareFails errno reading client main moved => exact .inl ⟨_, rfl, moved⟩
  | client inner copied client keeps main moved => exact .inl ⟨inner, rfl, moved⟩
  | sense action sensor delivered senses =>
      refine .inr ⟨?_, rfl⟩
      rintro inner rfl
      exact senses
  | _ => exact .inr ⟨fun _ => SamplingAction.noConfusion, rfl⟩

theorem StartedNode.client_step {started next : StartedNode} {action : StartedNodeAction}
    (stepped : started.step fresh action = some next) :
    (∃ inner, action = .sampling (.client inner) ∧
        started.node.client.step fresh inner = some next.node.client) ∨
      ((∀ inner, action ≠ .sampling (.client inner)) ∧
        next.node.client = started.node.client) := by
  rcases StartedNode.step_cases stepped with ⟨inner, wifi, rfl, -, rfl⟩ |
    ⟨ret, latest, rfl, -, -, rfl⟩ | ⟨wait, rfl, -, -, rfl⟩ | ⟨rfl, rfl⟩ |
    ⟨inner, node, rfl, -, moved, rfl⟩
  · exact .inr ⟨fun _ => StartedNodeAction.noConfusion, rfl⟩
  · exact .inr ⟨fun _ => StartedNodeAction.noConfusion, rfl⟩
  · exact .inr ⟨fun _ => StartedNodeAction.noConfusion, rfl⟩
  · exact .inr ⟨fun _ => StartedNodeAction.noConfusion, rfl⟩
  · rcases SamplingNode.client_step moved with ⟨client, rfl, took⟩ | ⟨other, same⟩
    · exact .inl ⟨client, rfl, took⟩
    · exact .inr ⟨fun client equal => other client (StartedNodeAction.sampling.inj equal), same⟩

theorem StartedNode.client_moves {started next : StartedNode} {inner : NodeAction}
    (stepped : started.step fresh (.sampling (.client inner)) = some next) :
    started.node.client.step fresh inner = some next.node.client := by
  rcases StartedNode.client_step stepped with ⟨same, equal, moved⟩ | ⟨other, -⟩
  · cases equal
    exact moved
  · exact absurd rfl (other inner)

end ZephyrHomeHub.Node
