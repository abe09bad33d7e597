import ZephyrHomeHub.Foundation.ComponentView
import ZephyrHomeHub.Foundation.TrackedHeap
import ZephyrHomeHub.Node.CoapClient

/-! The heap under the send loop. A call takes one buffer for its request, and while
it reads its reply a second one. Its error paths give the request's buffer back, all
but two: the one after the Uri-Query option, and the one after the reply. -/

namespace ZephyrHomeHub.Node

open Foundation.ComponentView Foundation.LabelledMachine Foundation.TrackedHeap

/-- The errors of the calls that build a request, in the order of the calls. The path
has one segment. -/
structure RequestFaults where
  getNodeId : Option Nat
  allocFails : Bool
  packetInit : Option Nat
  uriPath : Option Nat
  uriQuery : Option Nat
  payloadMarker : Option Nat
  payload : Option Nat

def RequestFaults.none : RequestFaults :=
  { getNodeId := Option.none
    allocFails := false
    packetInit := Option.none
    uriPath := Option.none
    uriQuery := Option.none
    payloadMarker := Option.none
    payload := Option.none }

inductive FailedCall where
  | getNodeId
  | alloc
  | packetInit
  | uriPath
  | uriQuery
  | payloadMarker
  | payload
  | reply
deriving DecidableEq

inductive Prepared where
  | failed (call : FailedCall) (errno : Nat)
  | ready (data : Nat)

/-- From `coap_packet_init` to the payload, with the label `end` on the way. -/
def buildRequest (faults : RequestFaults) (data : Nat) (allocated : Heap) : Prepared × Heap :=
  let initialised := allocated.touch data
  match faults.packetInit with
  | some errno => (.failed .packetInit errno, initialised.free data)
  | none =>
      let addressed := initialised.touch data
      match faults.uriPath with
      | some errno => (.failed .uriPath errno, addressed.free data)
      | none =>
          let queried := addressed.touch data
          match faults.uriQuery with
          | some errno => (.failed .uriQuery errno, queried)
          | none =>
              let marked := queried.touch data
              match faults.payloadMarker with
              | some errno => (.failed .payloadMarker errno, marked.free data)
              | none =>
                  let filled := marked.touch data
                  match faults.payload with
                  | some errno => (.failed .payload errno, filled.free data)
                  | none => (.ready data, filled)

def enomemErrno : Nat := 11

/-- `send_sensor_value_and_wait_for_reply` before its `send`. -/
def prepareRequest (faults : RequestFaults) (heap : Heap) : Prepared × Heap :=
  match faults.getNodeId with
  | some errno => (.failed .getNodeId errno, heap)
  | none =>
      if faults.allocFails then (.failed .alloc enomemErrno, heap)
      else buildRequest faults heap.malloc.1 heap.malloc.2

/-- The buffer of `process_simple_coap_reply`: `recv` writes into it, and a datagram with
bytes is dumped and parsed. -/
def replyBuffer (faults : ReplyFaults) (received : Option Datagram) (heap : Heap) : Heap :=
  if faults.allocFails then heap
  else
    let data := heap.malloc.1
    let filled := heap.malloc.2.touch data
    match received with
    | none => filled.free data
    | some .empty => filled.free data
    | some _ => ((filled.touch data).touch data).free data

/-- `data` is the request's buffer while its call is in flight, `failed` what ended the
loop. -/
structure RequestNode where
  node : NodeState
  heap : Heap
  data : Option Nat
  failed : Option FailedCall

def RequestNode.start : RequestNode :=
  { node := NodeState.start
    heap := Heap.fresh
    data := none
    failed := none }

inductive RequestAction where
  | call (faults : RequestFaults) (sent : Bool)
  | reply (faults : ReplyFaults)
  | network (action : NodeAction)

variable (fresh : FreshExchanges)

def RequestNode.call (request : RequestNode) (faults : RequestFaults) (sent : Bool) :
    Option RequestNode :=
  match prepareRequest faults request.heap with
  | (.failed call errno, heap) =>
      (request.node.prepareFails fresh errno).map fun node =>
        { node := node, heap := heap, data := none, failed := some call }
  | (.ready data, heap) =>
      (request.node.send fresh sent).map fun node =>
        { node := node, heap := heap.touch data, data := some data, failed := none }

/-- The reply's value decides whether the request's buffer is freed. -/
def RequestNode.reply (request : RequestNode) (faults : ReplyFaults) : Option RequestNode :=
  match request.data, processSimpleCoapReply faults request.node.socket with
  | some data, some (ret, received, _) =>
      (request.node.receive fresh faults).map fun node =>
        let heap := replyBuffer faults received request.heap
        if ret < 0 then { node := node, heap := heap, data := none, failed := some .reply }
        else { node := node, heap := heap.free data, data := none, failed := none }
  | _, _ => none

def RequestNode.step (request : RequestNode) : RequestAction → Option RequestNode
  | .call faults sent => request.call fresh faults sent
  | .reply faults => request.reply fresh faults
  | .network (.prepareFails _) => none
  | .network (.send _) => none
  | .network (.receive _) => none
  | .network action =>
      (request.node.step fresh action).map fun node => { request with node := node }

def requestMachine : Machine RequestNode RequestAction :=
  { initial := RequestNode.start
    step := RequestNode.step fresh }

/-! ### What each step can do -/

variable {fresh} {request next : RequestNode}

theorem RequestNode.call_cases {faults : RequestFaults} {sent : Bool}
    (stepped : request.call fresh faults sent = some next) :
    (∃ call errno heap node, prepareRequest faults request.heap = (.failed call errno, heap) ∧
        request.node.prepareFails fresh errno = some node ∧
        next = { node := node, heap := heap, data := none, failed := some call }) ∨
      ∃ data heap node, prepareRequest faults request.heap = (.ready data, heap) ∧
        request.node.send fresh sent = some node ∧
        next = { node := node, heap := heap.touch data, data := some data, failed := none } := by
  simp only [RequestNode.call] at stepped
  split at stepped
  · rename_i call errno heap prepared
    rcases Option.map_eq_some_iff.1 stepped with ⟨node, moved, rfl⟩
    exact .inl ⟨call, errno, heap, node, prepared, moved, rfl⟩
  · rename_i data heap prepared
    rcases Option.map_eq_some_iff.1 stepped with ⟨node, moved, rfl⟩
    exact .inr ⟨data, heap, node, prepared, moved, rfl⟩

theorem RequestNode.reply_cases {faults : ReplyFaults}
    (stepped : request.reply fresh faults = some next) :
    ∃ data ret received socket node, request.data = some data ∧
      processSimpleCoapReply faults request.node.socket = some (ret, received, socket) ∧
      request.node.receive fresh faults = some node ∧
      next = if ret < 0 then
          { node := node
            heap := replyBuffer faults received request.heap
            data := none
            failed := some .reply }
        else
          { node := node
            heap := (replyBuffer faults received request.heap).free data
            data := none
            failed := none } := by
  simp only [RequestNode.reply] at stepped
  split at stepped
  · rename_i data ret received socket held outcome
    rcases Option.map_eq_some_iff.1 stepped with ⟨node, moved, rfl⟩
    exact ⟨data, ret, received, socket, node, held, outcome, moved, rfl⟩
  · cases stepped

theorem RequestNode.network_cases {action : NodeAction}
    (stepped : request.step fresh (.network action) = some next) :
    action.OfNetwork ∧ ∃ node, request.node.step fresh action = some node ∧
      next = { request with node := node } := by
  cases action with
  | prepareFails errno => cases stepped
  | send ok => cases stepped
  | receive faults => cases stepped
  | deliverMalformed errno =>
      cases Option.some.inj stepped
      exact ⟨trivial, _, rfl, rfl⟩
  | _ =>
      rcases Option.map_eq_some_iff.1 stepped with ⟨node, moved, rfl⟩
      exact ⟨trivial, node, moved, rfl⟩

def requestView (fresh : FreshExchanges) : View (requestMachine fresh) (nodeMachine fresh) :=
  { state := RequestNode.node
    action := fun request action =>
      match action with
      | .call faults sent =>
          match prepareRequest faults request.heap with
          | (.failed _ errno, _) => some (.prepareFails errno)
          | (.ready _, _) => some (.send sent)
      | .reply faults => some (.receive faults)
      | .network action => some action
    initial := rfl
    step := by
      intro before action after stepped
      cases action with
      | call faults sent =>
          rcases RequestNode.call_cases stepped with
            ⟨call, errno, heap, node, prepared, moved, rfl⟩ |
            ⟨data, heap, node, prepared, moved, rfl⟩
          · simp only [prepared]
            exact ((nodeMachine fresh).run_cons_eq_some _ _ _ _).2 ⟨node, moved, rfl⟩
          · simp only [prepared]
            exact ((nodeMachine fresh).run_cons_eq_some _ _ _ _).2 ⟨node, moved, rfl⟩
      | reply faults =>
          rcases RequestNode.reply_cases stepped with
            ⟨data, ret, received, socket, node, -, -, moved, rfl⟩
          refine ((nodeMachine fresh).run_cons_eq_some _ _ _ _).2 ⟨node, moved, ?_⟩
          split
          · rfl
          · rfl
      | network inner =>
          rcases RequestNode.network_cases stepped with ⟨-, node, moved, rfl⟩
          exact ((nodeMachine fresh).run_cons_eq_some _ _ _ _).2 ⟨node, moved, rfl⟩ }

/-! ### What the error paths leave allocated -/

/-- The two calls after whose error the request's buffer is not freed. -/
def FailedCall.leaked : FailedCall → Nat
  | .uriQuery => 1
  | .reply => 1
  | _ => 0

/-- At most one buffer is live, and only if the call leaks it. -/
def FailedCall.Leaves (call : FailedCall) (heap : Heap) : Prop :=
  ∃ blocks, heap.Holds blocks 2 ∧ blocks.length = call.leaked

def Prepared.Leaves : Prepared → Heap → Prop
  | .failed call _, heap => call.Leaves heap
  | .ready data, heap => heap.Holds [data] 2

theorem buildRequest_leaves {faults : RequestFaults} {data : Nat} {heap : Heap}
    (holds : heap.Holds [data] 2) :
    (buildRequest faults data heap).1.Leaves (buildRequest faults data heap).2 := by
  have member : data ∈ [data] := List.mem_cons_self
  have initialised := holds.touch member
  have addressed := initialised.touch member
  have queried := addressed.touch member
  have marked := queried.touch member
  have filled := marked.touch member
  simp only [buildRequest]
  cases faults.packetInit with
  | some errno => exact ⟨[], initialised.free, rfl⟩
  | none =>
      cases faults.uriPath with
      | some errno => exact ⟨[], addressed.free, rfl⟩
      | none =>
          cases faults.uriQuery with
          | some errno => exact ⟨[data], queried, rfl⟩
          | none =>
              cases faults.payloadMarker with
              | some errno => exact ⟨[], marked.free, rfl⟩
              | none =>
                  cases faults.payload with
                  | some errno => exact ⟨[], filled.free, rfl⟩
                  | none => exact filled

theorem prepareRequest_leaves {heap : Heap} (faults : RequestFaults) (holds : heap.Holds [] 2) :
    (prepareRequest faults heap).1.Leaves (prepareRequest faults heap).2 := by
  simp only [prepareRequest]
  cases faults.getNodeId with
  | some errno => exact ⟨[], holds, rfl⟩
  | none =>
      cases faults.allocFails with
      | true => exact ⟨[], holds, rfl⟩
      | false => exact buildRequest_leaves (holds.malloc (by decide))

theorem replyBuffer_holds {heap : Heap} {blocks : List Nat} (faults : ReplyFaults)
    (received : Option Datagram) (holds : heap.Holds blocks 2) (room : blocks.length < 2) :
    (replyBuffer faults received heap).Holds blocks 2 := by
  have filled := (holds.malloc room).touch List.mem_cons_self
  have parsed := (filled.touch List.mem_cons_self).touch List.mem_cons_self
  simp only [replyBuffer]
  cases faults.allocFails with
  | true => exact holds
  | false =>
      cases received with
      | none => exact filled.free
      | some datagram =>
          cases datagram with
          | empty => exact filled.free
          | malformed errno => exact parsed.free
          | reply answer => exact parsed.free

/-! ### What is allocated in each phase -/

/-- Between calls nothing, during a call its request's buffer, and after the loop what
the last call leaked. -/
def RequestNode.Kept (request : RequestNode) : Prop :=
  match request.node.phase with
  | .sleeping => request.heap.Holds [] 2
  | .waiting _ => ∃ data, request.data = some data ∧ request.heap.Holds [data] 2
  | .quit => ∃ call, request.failed = some call ∧ call.Leaves request.heap

theorem RequestNode.Kept.asleep (kept : request.Kept) (phase : request.node.phase = .sleeping) :
    request.heap.Holds [] 2 := by
  unfold RequestNode.Kept at kept
  rw [phase] at kept
  exact kept

theorem RequestNode.Kept.inCall (kept : request.Kept) {sent : Bool}
    (phase : request.node.phase = .waiting sent) :
    ∃ data, request.data = some data ∧ request.heap.Holds [data] 2 := by
  unfold RequestNode.Kept at kept
  rw [phase] at kept
  exact kept

theorem RequestNode.Kept.afterLoop (kept : request.Kept) (phase : request.node.phase = .quit) :
    ∃ call, request.failed = some call ∧ call.Leaves request.heap := by
  unfold RequestNode.Kept at kept
  rw [phase] at kept
  exact kept

private theorem call_kept {faults : RequestFaults} {sent : Bool} (kept : request.Kept)
    (stepped : request.call fresh faults sent = some next) : next.Kept := by
  rcases RequestNode.call_cases stepped with
    ⟨call, errno, heap, node, prepared, moved, rfl⟩ | ⟨data, heap, node, prepared, moved, rfl⟩
  · rcases NodeState.prepareFails_cases moved with ⟨phase, rfl⟩
    have leaves := prepareRequest_leaves faults (kept.asleep phase)
    rw [prepared] at leaves
    have quit : (request.node.finishCall
        { exchange := fresh request.node.calls
          sent := false
          received := none
          ret := failure errno }).phase = .quit := if_pos (failure_neg errno)
    simp only [RequestNode.Kept, quit]
    exact ⟨call, rfl, leaves⟩
  · rcases NodeState.send_cases moved with ⟨phase, rfl⟩
    have leaves := prepareRequest_leaves faults (kept.asleep phase)
    rw [prepared] at leaves
    have holds : heap.Holds [data] 2 := leaves
    exact ⟨data, rfl, holds.touch List.mem_cons_self⟩

private theorem reply_kept {faults : ReplyFaults} (kept : request.Kept)
    (stepped : request.reply fresh faults = some next) : next.Kept := by
  rcases RequestNode.reply_cases stepped with
    ⟨data, ret, received, socket, node, held, outcome, moved, rfl⟩
  rcases NodeState.receive_cases moved with ⟨sent, ret', received', socket', phase, again, rfl⟩
  cases again.symm.trans outcome
  rcases kept.inCall phase with ⟨block, same, holds⟩
  cases held.symm.trans same
  have replied := replyBuffer_holds faults received holds (Nat.lt_succ_self 1)
  by_cases negative : ret < 0
  · rw [if_pos negative]
    simp only [RequestNode.Kept, NodeState.finishCall, if_pos negative]
    exact ⟨.reply, rfl, [data], replied, rfl⟩
  · rw [if_neg negative]
    simp only [RequestNode.Kept, NodeState.finishCall, if_neg negative]
    exact replied.free

theorem RequestNode.step_kept {action : RequestAction} (kept : request.Kept)
    (stepped : request.step fresh action = some next) : next.Kept := by
  cases action with
  | call faults sent => exact call_kept kept stepped
  | reply faults => exact reply_kept kept stepped
  | network action =>
      rcases RequestNode.network_cases stepped with ⟨network, node, moved, rfl⟩
      rcases NodeState.network_step network moved with ⟨-, phase, -, -⟩
      unfold RequestNode.Kept at kept ⊢
      simp only [phase]
      exact kept

theorem reachable_kept (reachable : (requestMachine fresh).Reachable request) :
    request.Kept := by
  have start : (requestMachine fresh).initial.Kept := Heap.fresh_holds 2
  exact reachable.invariant RequestNode.Kept start
    (fun _ _ _ kept stepped => RequestNode.step_kept kept stepped)

theorem RequestNode.Kept.safe (kept : request.Kept) :
    request.heap.sound = true ∧ request.heap.peak ≤ 2 := by
  cases phase : request.node.phase with
  | sleeping =>
      have holds := kept.asleep phase
      exact ⟨holds.sound, holds.within⟩
  | waiting sent =>
      rcases kept.inCall phase with ⟨data, -, holds⟩
      exact ⟨holds.sound, holds.within⟩
  | quit =>
      rcases kept.afterLoop phase with ⟨call, -, blocks, holds, -⟩
      exact ⟨holds.sound, holds.within⟩

/-- The send loop never reads, writes or frees a block it does not hold, never holds
more than two, holds none between calls and only its request's while it waits. What is
left after the loop is one block when the last call failed at its Uri-Query option or at
its reply, and nothing otherwise. -/
theorem reachable_heap_kept (reachable : (requestMachine fresh).Reachable request) :
    (nodeMachine fresh).Reachable request.node ∧
      request.heap.sound = true ∧ request.heap.peak ≤ 2 ∧
      (request.node.phase = .sleeping → request.heap.live = []) ∧
      (∀ sent, request.node.phase = .waiting sent →
        ∃ data, request.data = some data ∧ request.heap.live = [data]) ∧
      (request.node.phase = .quit → ∃ call, request.failed = some call ∧
        request.heap.live.length = if call = .uriQuery ∨ call = .reply then 1 else 0) := by
  have kept := reachable_kept reachable
  refine ⟨(requestView fresh).reachable reachable, kept.safe.1, kept.safe.2, ?_, ?_, ?_⟩
  · intro phase
    exact (kept.asleep phase).live
  · intro sent phase
    rcases kept.inCall phase with ⟨data, held, holds⟩
    exact ⟨data, held, holds.live⟩
  · intro phase
    rcases kept.afterLoop phase with ⟨call, failed, blocks, holds, counted⟩
    refine ⟨call, failed, ?_⟩
    rw [holds.live, counted]
    cases call with
    | _ => rfl

def leakingRun : List RequestAction :=
  [.call RequestFaults.none true, .network (.hubReply 0 65), .network (.deliver 0),
    .reply ReplyFaults.none, .call { RequestFaults.none with uriQuery := some 11 } true]

theorem leakingRun_heap_kept :
    ∃ request, (requestMachine numberedExchanges).run RequestNode.start leakingRun =
        some request ∧
      request.node.phase = .quit ∧ request.failed = some .uriQuery ∧
      (nodeMachine numberedExchanges).Reachable request.node ∧
      request.heap.sound = true ∧ request.heap.peak ≤ 2 ∧
      (request.node.phase = .sleeping → request.heap.live = []) ∧
      (∀ sent, request.node.phase = .waiting sent →
        ∃ data, request.data = some data ∧ request.heap.live = [data]) ∧
      (request.node.phase = .quit → ∃ call, request.failed = some call ∧
        request.heap.live.length = if call = .uriQuery ∨ call = .reply then 1 else 0) := by
  have computed : ((requestMachine numberedExchanges).run RequestNode.start leakingRun).map
      (fun request => (request.node.phase, request.failed)) =
        some (.quit, some .uriQuery) := rfl
  rcases Option.map_eq_some_iff.1 computed with ⟨request, ran, ended⟩
  rcases Prod.mk.inj ended with ⟨quit, failed⟩
  exact ⟨request, ran, quit, failed, reachable_heap_kept ⟨leakingRun, ran⟩⟩

end ZephyrHomeHub.Node
