import ZephyrHomeHub.Foundation.LabelledMachine
import ZephyrHomeHub.Foundation.LossyChannel

/-! The send loop of the node against a datagram network. One call sends a
confirmable request once and waits for one datagram; which one, it does not
check. Datagrams in flight may be lost, duplicated, delayed and reordered. -/

namespace ZephyrHomeHub.Node

open Foundation.LabelledMachine Foundation.LossyChannel

structure Exchange where
  token : Nat
  messageId : Nat
deriving DecidableEq

structure Reply where
  exchange : Exchange
  code : Nat
deriving DecidableEq

/-- A datagram from the hub's address, with the error `coap_packet_parse` has for
a malformed one. -/
inductive Datagram where
  | empty
  | malformed (errno : Nat)
  | reply (reply : Reply)
deriving DecidableEq

def eio : Int := -5

def enomem : Int := -12

def failure (errno : Nat) : Int := -(errno + 1)

def Datagram.result : Datagram → Int
  | .empty => eio
  | .malformed errno => failure errno
  | .reply _ => 0

def Datagram.refused : Option Nat → Datagram
  | some errno => .malformed errno
  | none => .empty

def eagain : Nat := 11

/-- An error of `recv` itself; `EAGAIN`, which an empty queue gives, is none. -/
structure RecvError where
  errno : Nat
  notEagain : errno + 1 ≠ eagain
deriving DecidableEq

/-- What can go wrong on the node while it waits for a reply: `poll` returns an
error, which is only logged, `k_malloc` fails, `recv` fails with an error of its own. -/
structure ReplyFaults where
  pollFails : Bool
  allocFails : Bool
  recvFails : Option RecvError
deriving DecidableEq

def ReplyFaults.none : ReplyFaults :=
  { pollFails := false, allocFails := false, recvFails := Option.none }

/-- The value returned, the datagram received and the socket's queue afterwards.
`wait` blocks on an empty queue; past it, an empty queue is `EAGAIN`, which counts
as zero. -/
def processSimpleCoapReply (faults : ReplyFaults) (socket : List Datagram) :
    Option (Int × Option Datagram × List Datagram) :=
  match socket with
  | [] =>
      if faults.pollFails then
        if faults.allocFails then some (enomem, Option.none, [])
        else
          match faults.recvFails with
          | some error => some (failure error.errno, Option.none, [])
          | Option.none => some (0, Option.none, [])
      else Option.none
  | datagram :: rest =>
      if faults.allocFails then some (enomem, Option.none, datagram :: rest)
      else
        match faults.recvFails with
        | some error => some (failure error.errno, Option.none, datagram :: rest)
        | Option.none => some (datagram.result, some datagram, rest)

inductive Phase where
  | sleeping
  | waiting (sent : Bool)
  | quit
deriving DecidableEq

/-- A call that has returned: its exchange, whether its request was sent, the
datagram it received and its value. -/
structure CallRecord where
  exchange : Exchange
  sent : Bool
  received : Option Datagram
  ret : Int

structure NodeState where
  calls : Nat
  phase : Phase
  requests : List Exchange
  replies : List Reply
  socket : List Datagram
  finished : List CallRecord

def NodeState.start : NodeState :=
  { calls := 0
    phase := .sleeping
    requests := []
    replies := []
    socket := []
    finished := [] }

inductive NodeAction where
  | prepareFails (errno : Nat)
  | send (ok : Bool)
  | receive (faults : ReplyFaults)
  | hubReply (index : Nat) (code : Nat)
  | loseRequest (index : Nat)
  | duplicateRequest (index : Nat)
  | loseReply (index : Nat)
  | duplicateReply (index : Nat)
  | deliver (index : Nat)
  | deliverMalformed (errno : Option Nat)

def NodeState.finishCall (node : NodeState) (record : CallRecord) : NodeState :=
  { node with
    calls := node.calls + 1
    phase := if record.ret < 0 then .quit else .sleeping
    finished := node.finished ++ [record] }

/-- The request of a call, with a fresh token and message id. -/
abbrev FreshExchanges := Nat → Exchange

def numberedExchanges : FreshExchanges := fun call => { token := call, messageId := call }

def NodeState.prepareFails (fresh : FreshExchanges) (node : NodeState) (errno : Nat) :
    Option NodeState :=
  match node.phase with
  | .sleeping =>
      some (node.finishCall
        { exchange := fresh node.calls, sent := false, received := none, ret := failure errno })
  | .waiting _ => none
  | .quit => none

/-- `send`, whose result is overwritten by the next statement. -/
def NodeState.send (fresh : FreshExchanges) (node : NodeState) (ok : Bool) : Option NodeState :=
  match node.phase with
  | .sleeping =>
      some { node with
        phase := .waiting ok
        requests := if ok then node.requests ++ [fresh node.calls] else node.requests }
  | .waiting _ => none
  | .quit => none

/-- `process_simple_coap_reply`, whose value is the call's. -/
def NodeState.receive (fresh : FreshExchanges) (node : NodeState) (faults : ReplyFaults) :
    Option NodeState :=
  match node.phase with
  | .sleeping => none
  | .waiting sent =>
      (processSimpleCoapReply faults node.socket).map fun outcome =>
        { node with socket := outcome.2.2 }.finishCall
          { exchange := fresh node.calls
            sent := sent
            received := outcome.2.1
            ret := outcome.1 }
  | .quit => none

def NodeState.hubReply (node : NodeState) (index code : Nat) : Option NodeState :=
  (handOver node.requests index).map fun taken =>
    { node with
      requests := taken.2
      replies := node.replies ++ [{ exchange := taken.1, code := code }] }

def NodeState.deliver (node : NodeState) (index : Nat) : Option NodeState :=
  (handOver node.replies index).map fun taken =>
    { node with replies := taken.2, socket := node.socket ++ [.reply taken.1] }

def NodeState.deliverMalformed (node : NodeState) (errno : Option Nat) : NodeState :=
  { node with socket := node.socket ++ [Datagram.refused errno] }

def NodeState.step (fresh : FreshExchanges) (node : NodeState) : NodeAction → Option NodeState
  | .prepareFails errno => node.prepareFails fresh errno
  | .send ok => node.send fresh ok
  | .receive faults => node.receive fresh faults
  | .hubReply index code => node.hubReply index code
  | .loseRequest index =>
      (lose node.requests index).map fun requests => { node with requests := requests }
  | .duplicateRequest index =>
      (duplicate node.requests index).map fun requests => { node with requests := requests }
  | .loseReply index =>
      (lose node.replies index).map fun replies => { node with replies := replies }
  | .duplicateReply index =>
      (duplicate node.replies index).map fun replies => { node with replies := replies }
  | .deliver index => node.deliver index
  | .deliverMalformed errno => some (node.deliverMalformed errno)

def nodeMachine (fresh : FreshExchanges) : Machine NodeState NodeAction :=
  { initial := NodeState.start
    step := NodeState.step fresh }

/-! ### What each step can do -/

variable {fresh : FreshExchanges} {node next : NodeState}

theorem NodeState.prepareFails_cases {errno : Nat}
    (stepped : node.prepareFails fresh errno = some next) :
    node.phase = .sleeping ∧ next = node.finishCall
      { exchange := fresh node.calls, sent := false, received := none, ret := failure errno } := by
  unfold NodeState.prepareFails at stepped
  cases phase : node.phase with
  | sleeping =>
      rw [phase] at stepped
      exact ⟨rfl, (Option.some.inj stepped).symm⟩
  | waiting sent =>
      rw [phase] at stepped
      cases stepped
  | quit =>
      rw [phase] at stepped
      cases stepped

theorem NodeState.send_cases {ok : Bool} (stepped : node.send fresh ok = some next) :
    node.phase = .sleeping ∧ next = { node with
      phase := .waiting ok
      requests := if ok then node.requests ++ [fresh node.calls] else node.requests } := by
  unfold NodeState.send at stepped
  cases phase : node.phase with
  | sleeping =>
      rw [phase] at stepped
      exact ⟨rfl, (Option.some.inj stepped).symm⟩
  | waiting sent =>
      rw [phase] at stepped
      cases stepped
  | quit =>
      rw [phase] at stepped
      cases stepped

theorem NodeState.receive_cases {faults : ReplyFaults}
    (stepped : node.receive fresh faults = some next) :
    ∃ sent ret received socket, node.phase = .waiting sent ∧
      processSimpleCoapReply faults node.socket = some (ret, received, socket) ∧
      next = { node with socket := socket }.finishCall
        { exchange := fresh node.calls, sent := sent, received := received, ret := ret } := by
  unfold NodeState.receive at stepped
  cases phase : node.phase with
  | sleeping =>
      rw [phase] at stepped
      cases stepped
  | waiting sent =>
      rw [phase] at stepped
      obtain ⟨⟨ret, received, socket⟩, outcome, equal⟩ := Option.map_eq_some_iff.1 stepped
      exact ⟨sent, ret, received, socket, rfl, outcome, equal.symm⟩
  | quit =>
      rw [phase] at stepped
      cases stepped

theorem NodeState.hubReply_cases {index code : Nat}
    (stepped : node.hubReply index code = some next) :
    ∃ exchange requests, handOver node.requests index = some (exchange, requests) ∧
      next = { node with
        requests := requests
        replies := node.replies ++ [{ exchange := exchange, code := code }] } := by
  obtain ⟨⟨exchange, requests⟩, taken, equal⟩ := Option.map_eq_some_iff.1 stepped
  exact ⟨exchange, requests, taken, equal.symm⟩

theorem NodeState.deliver_cases {index : Nat} (stepped : node.deliver index = some next) :
    ∃ reply replies, handOver node.replies index = some (reply, replies) ∧
      next = { node with replies := replies, socket := node.socket ++ [.reply reply] } := by
  obtain ⟨⟨reply, replies⟩, taken, equal⟩ := Option.map_eq_some_iff.1 stepped
  exact ⟨reply, replies, taken, equal.symm⟩

def NodeAction.OfNetwork : NodeAction → Prop
  | .prepareFails _ => False
  | .send _ => False
  | .receive _ => False
  | _ => True

theorem NodeState.network_step {action : NodeAction} (network : action.OfNetwork)
    (stepped : node.step fresh action = some next) :
    next.calls = node.calls ∧ next.phase = node.phase ∧ next.finished = node.finished ∧
      ∃ arrived, next.socket = node.socket ++ arrived := by
  have nothingArrived : ∃ arrived, node.socket = node.socket ++ arrived :=
    ⟨[], (List.append_nil _).symm⟩
  cases action with
  | prepareFails errno => exact network.elim
  | send ok => exact network.elim
  | receive faults => exact network.elim
  | hubReply index code =>
      obtain ⟨exchange, requests, -, rfl⟩ := hubReply_cases stepped
      exact ⟨rfl, rfl, rfl, nothingArrived⟩
  | loseRequest index =>
      obtain ⟨requests, -, rfl⟩ := Option.map_eq_some_iff.1 stepped
      exact ⟨rfl, rfl, rfl, nothingArrived⟩
  | duplicateRequest index =>
      obtain ⟨requests, -, rfl⟩ := Option.map_eq_some_iff.1 stepped
      exact ⟨rfl, rfl, rfl, nothingArrived⟩
  | loseReply index =>
      obtain ⟨replies, -, rfl⟩ := Option.map_eq_some_iff.1 stepped
      exact ⟨rfl, rfl, rfl, nothingArrived⟩
  | duplicateReply index =>
      obtain ⟨replies, -, rfl⟩ := Option.map_eq_some_iff.1 stepped
      exact ⟨rfl, rfl, rfl, nothingArrived⟩
  | deliver index =>
      obtain ⟨reply, replies, -, rfl⟩ := deliver_cases stepped
      exact ⟨rfl, rfl, rfl, [.reply reply], rfl⟩
  | deliverMalformed errno =>
      cases Option.some.inj stepped
      exact ⟨rfl, rfl, rfl, _, rfl⟩

theorem NodeState.busy_step {action : NodeAction} (busy : node.phase ≠ .sleeping)
    (stepped : node.step fresh action = some next) :
    action.OfNetwork ∨ ∃ faults, action = .receive faults := by
  cases action with
  | prepareFails errno => exact absurd (prepareFails_cases stepped).1 busy
  | send ok => exact absurd (send_cases stepped).1 busy
  | receive faults => exact .inr ⟨faults, rfl⟩
  | _ => exact .inl trivial

theorem processSimpleCoapReply_none {socket after : List Datagram} {ret : Int}
    {received : Option Datagram}
    (outcome : processSimpleCoapReply ReplyFaults.none socket = some (ret, received, after)) :
    ∃ datagram, socket = datagram :: after ∧ received = some datagram ∧ ret = datagram.result := by
  cases socket with
  | nil => cases outcome
  | cons datagram rest =>
      cases outcome
      exact ⟨datagram, rfl, rfl, rfl⟩

theorem failure_neg (errno : Nat) : failure errno < 0 := by
  unfold failure
  omega

theorem Datagram.refused_ne_reply (errno : Option Nat) (answer : Reply) :
    Datagram.refused errno ≠ .reply answer := by
  cases errno with
  | none => exact Datagram.noConfusion
  | some errno => exact Datagram.noConfusion

theorem NodeState.waiting_ne_sleeping {sent : Bool} (phase : node.phase = .waiting sent) :
    node.phase ≠ .sleeping := by
  rw [phase]
  exact Phase.noConfusion

theorem NodeState.waiting_ne_quit {sent : Bool} (phase : node.phase = .waiting sent) :
    node.phase ≠ .quit := by
  rw [phase]
  exact Phase.noConfusion

theorem Datagram.result_nonneg_iff (datagram : Datagram) :
    0 ≤ datagram.result ↔ ∃ reply, datagram = .reply reply := by
  cases datagram with
  | empty =>
      refine iff_of_false (by decide) ?_
      rintro ⟨reply, impossible⟩
      cases impossible
  | malformed errno =>
      refine iff_of_false (Int.not_le.2 (failure_neg errno)) ?_
      rintro ⟨reply, impossible⟩
      cases impossible
  | reply reply => exact iff_of_true (Int.le_refl 0) ⟨reply, rfl⟩

end ZephyrHomeHub.Node
