import ZephyrHomeHub.Node.CoapClient

/-! Whether a call that succeeds had its own request answered. The node takes the
first datagram that parses for the answer to the request it sent last, so the
token, the message id and the code never decide anything, and the value of `send`
is lost. -/

namespace ZephyrHomeHub.Node

open Foundation.LabelledMachine Foundation.LossyChannel

def SuccessCode (code : Nat) : Prop := 64 ≤ code ∧ code < 96

def Reply.Answers (reply : Reply) (request : Exchange) : Prop :=
  (reply.exchange.messageId = request.messageId ∨ reply.exchange.token = request.token) ∧
    SuccessCode reply.code

/-- Where the call succeeded, its request was sent and answered. -/
def CallRecord.AboutItsRequest (record : CallRecord) : Prop :=
  0 ≤ record.ret → record.sent = true ∧
    ∃ reply, record.received = some (.reply reply) ∧ reply.Answers record.exchange

def NodeState.CallsAboutTheirRequests (node : NodeState) : Prop :=
  ∀ record ∈ node.finished, record.AboutItsRequest

/-! ### What one call returns -/

theorem processSimpleCoapReply_stopped {faults : ReplyFaults} {socket after : List Datagram}
    {ret : Int} {received : Option Datagram}
    (stopped : ¬(faults.allocFails = false ∧ faults.recvFails = none))
    (outcome : processSimpleCoapReply faults socket = some (ret, received, after)) : ret < 0 := by
  rcases faults with ⟨pollFails, allocFails, recvFails⟩
  unfold processSimpleCoapReply at outcome
  cases allocFails with
  | true =>
      cases socket with
      | nil =>
          cases pollFails with
          | true =>
              cases outcome
              decide
          | false => cases outcome
      | cons datagram rest =>
          cases outcome
          decide
  | false =>
      cases recvFails with
      | none => exact absurd ⟨rfl, rfl⟩ stopped
      | some error =>
          cases socket with
          | nil =>
              cases pollFails with
              | true =>
                  cases outcome
                  exact failure_neg error.errno
              | false => cases outcome
          | cons datagram rest =>
              cases outcome
              exact failure_neg error.errno

example :
    processSimpleCoapReply { ReplyFaults.none with pollFails := true } [] = some (0, none, []) :=
  rfl

def EveryCallFresh (fresh : FreshExchanges) : Prop :=
  ∀ call other, call ≠ other →
    (fresh call).token ≠ (fresh other).token ∧ (fresh call).messageId ≠ (fresh other).messageId

/-- Two calls. The reply to the first is duplicated on its way, and the second call
reads the copy while its own request is still in flight. -/
def lateCopyRun : List NodeAction :=
  [.send true, .hubReply 0 65, .duplicateReply 0, .deliver 0, .receive ReplyFaults.none,
    .send true, .deliver 0, .receive ReplyFaults.none]

def readFirstReply (call : Nat) : CallRecord :=
  { exchange := numberedExchanges call
    sent := true
    received := some (.reply { exchange := numberedExchanges 0, code := 65 })
    ret := 0 }

def lateCopyEnd : NodeState :=
  { calls := 2
    phase := .sleeping
    requests := [numberedExchanges 1]
    replies := []
    socket := []
    finished := [readFirstReply 0, readFirstReply 1] }

def refusedCallRun : List NodeAction :=
  [.send true, .hubReply 0 160, .deliver 0, .receive ReplyFaults.none]

def failedPollRun : List NodeAction :=
  [.send true, .receive { ReplyFaults.none with pollFails := true }]

/-- One late copy lets a call succeed that was not answered, and so does a refusal or a
failing `poll`. -/
theorem lateCopyRun_not_about :
    EveryCallFresh numberedExchanges ∧
      ¬(nodeMachine numberedExchanges).Always NodeState.CallsAboutTheirRequests
        NodeState.start lateCopyRun ∧
      ¬(nodeMachine numberedExchanges).Always NodeState.CallsAboutTheirRequests
        NodeState.start refusedCallRun ∧
      ¬(nodeMachine numberedExchanges).Always NodeState.CallsAboutTheirRequests
        NodeState.start failedPollRun := by
  refine ⟨fun call other different => ⟨different, different⟩, ?_, ?_, ?_⟩
  · intro along
    have ran : (nodeMachine numberedExchanges).run NodeState.start lateCopyRun =
        some lateCopyEnd := rfl
    have secondFinished : readFirstReply 1 ∈ lateCopyEnd.finished :=
      List.mem_cons_of_mem _ (List.mem_singleton.2 rfl)
    have about := (nodeMachine numberedExchanges).always_last along ran _ secondFinished
    rcases about (Int.le_refl 0) with ⟨-, reply, received, sameId | sameToken, -⟩
    · cases received
      cases sameId
    · cases received
      cases sameToken
  · intro along
    have about := (nodeMachine numberedExchanges).always_last along rfl _
      (List.mem_singleton.2 rfl)
    rcases about (Int.le_refl 0) with ⟨-, reply, read, -, success⟩
    cases read
    exact absurd success (by unfold SuccessCode; decide)
  · intro along
    have about := (nodeMachine numberedExchanges).always_last along rfl _
      (List.mem_singleton.2 rfl)
    rcases about (Int.le_refl 0) with ⟨-, reply, read, -⟩
    cases read

/-! ### A network that duplicates nothing -/

variable {fresh : FreshExchanges}

/-- Nothing is duplicated, the hub answers with success, and `poll` does not fail. -/
def NodeAction.Orderly : NodeAction → Prop
  | .hubReply _ code => SuccessCode code
  | .duplicateRequest _ => False
  | .duplicateReply _ => False
  | .receive faults => faults.pollFails = false
  | _ => True

def Datagram.answered : Datagram → Option Exchange
  | .empty => none
  | .malformed _ => none
  | .reply answer => some answer.exchange

theorem Datagram.answered_refused (errno : Option Nat) :
    (Datagram.refused errno).answered = none := by
  cases errno with
  | none => rfl
  | some errno => rfl

def NodeState.underWay (node : NodeState) : List Exchange :=
  node.requests ++ (node.replies.map Reply.exchange ++ node.socket.filterMap Datagram.answered)

/-- While the node is in its loop, nothing but the request of the waiting call is
under way, and once. -/
structure NodeState.Solitary (fresh : FreshExchanges) (node : NodeState) : Prop where
  atMostOne : node.phase ≠ .quit → node.underWay.length ≤ 1
  ofThisCall : node.phase ≠ .quit →
    ∀ exchange ∈ node.underWay, node.phase = .waiting true ∧ exchange = fresh node.calls
  repliesSucceed : ∀ reply ∈ node.replies, SuccessCode reply.code
  queueSucceeds : ∀ reply, .reply reply ∈ node.socket → SuccessCode reply.code

theorem solitary_start : NodeState.start.Solitary fresh :=
  { atMostOne := fun _ => Nat.zero_le 1
    ofThisCall := fun _ => List.forall_mem_nil _
    repliesSucceed := List.forall_mem_nil _
    queueSucceeds := fun _ queued => nomatch queued }

theorem NodeState.Solitary.nothingUnderWay {node : NodeState} (solitary : node.Solitary fresh)
    (phase : node.phase = .sleeping) : node.underWay = [] := by
  refine List.eq_nil_iff_forall_not_mem.2 (fun exchange under => ?_)
  have inLoop : node.phase ≠ .quit := by
    rw [phase]
    exact Phase.noConfusion
  have waiting := (solitary.ofThisCall inLoop exchange under).1
  rw [phase] at waiting
  cases waiting

private theorem solitary_of_subperm {node next : NodeState} (solitary : node.Solitary fresh)
    (samePhase : next.phase = node.phase) (sameCalls : next.calls = node.calls)
    (fewer : next.underWay.Subperm node.underWay)
    (repliesSucceed : ∀ reply ∈ next.replies, SuccessCode reply.code)
    (queueSucceeds : ∀ reply, .reply reply ∈ next.socket → SuccessCode reply.code) :
    next.Solitary fresh := by
  refine ⟨?_, ?_, repliesSucceed, queueSucceeds⟩
  · intro inLoop
    rw [samePhase] at inLoop
    exact Nat.le_trans fewer.length_le (solitary.atMostOne inLoop)
  · intro inLoop exchange under
    rw [samePhase] at inLoop
    rw [samePhase, sameCalls]
    exact solitary.ofThisCall inLoop exchange (fewer.subset under)

private theorem perm_front (before between after : List Exchange) (exchange : Exchange) :
    (before ++ (between ++ exchange :: after)).Perm
      (exchange :: (before ++ (between ++ after))) := by
  rw [← List.append_assoc, ← List.append_assoc]
  exact List.perm_middle

private theorem hubReply_underWay {node next : NodeState} {index code : Nat}
    (stepped : node.hubReply index code = some next) : next.underWay.Perm node.underWay := by
  rcases NodeState.hubReply_cases stepped with ⟨exchange, rest, taken, rfl⟩
  unfold NodeState.underWay
  have gone := (handOver_perm taken).append_right
    (node.replies.map Reply.exchange ++ node.socket.filterMap Datagram.answered)
  refine List.Perm.trans ?_ gone.symm
  simp only [List.map_append, List.map_cons, List.map_nil, List.append_assoc, List.cons_append,
    List.nil_append]
  exact perm_front rest (node.replies.map Reply.exchange) _ exchange

private theorem deliver_underWay {node next : NodeState} {index : Nat}
    (stepped : node.deliver index = some next) : next.underWay.Perm node.underWay := by
  rcases NodeState.deliver_cases stepped with ⟨reply, rest, taken, rfl⟩
  unfold NodeState.underWay
  have gone := (((handOver_perm taken).map Reply.exchange).append_right
    (node.socket.filterMap Datagram.answered)).append_left node.requests
  refine List.Perm.trans ?_ gone.symm
  simp only [List.filterMap_append, List.map_cons, List.cons_append]
  have queued := perm_front node.requests (rest.map Reply.exchange ++
    node.socket.filterMap Datagram.answered) [] reply.exchange
  simp only [List.append_assoc, List.append_nil] at queued
  exact queued.trans List.perm_middle.symm

private theorem solitary_network_step {node next : NodeState} {action : NodeAction}
    (network : action.OfNetwork) (orderly : action.Orderly) (solitary : node.Solitary fresh)
    (stepped : node.step fresh action = some next) : next.Solitary fresh := by
  rcases NodeState.network_step network stepped with ⟨sameCalls, samePhase, -, -⟩
  cases action with
  | prepareFails errno => exact network.elim
  | send ok => exact network.elim
  | receive faults => exact network.elim
  | duplicateRequest index => exact orderly.elim
  | duplicateReply index => exact orderly.elim
  | hubReply index code =>
      have fewer := (hubReply_underWay stepped).subperm
      rcases NodeState.hubReply_cases stepped with ⟨exchange, rest, -, rfl⟩
      refine solitary_of_subperm solitary samePhase sameCalls fewer ?_ solitary.queueSucceeds
      intro reply member
      rcases List.mem_append.1 member with before | last
      · exact solitary.repliesSucceed reply before
      · cases List.mem_singleton.1 last
        exact orderly
  | loseRequest index =>
      rcases Option.map_eq_some_iff.1 stepped with ⟨rest, lost, rfl⟩
      have fewer := ((lose_sublist lost).append_right
        (node.replies.map Reply.exchange ++ node.socket.filterMap Datagram.answered)).subperm
      exact solitary_of_subperm solitary samePhase sameCalls fewer solitary.repliesSucceed
        solitary.queueSucceeds
  | loseReply index =>
      rcases Option.map_eq_some_iff.1 stepped with ⟨rest, lost, rfl⟩
      have fewer := ((((lose_sublist lost).map Reply.exchange).append_right
        (node.socket.filterMap Datagram.answered)).append_left node.requests).subperm
      refine solitary_of_subperm solitary samePhase sameCalls fewer ?_ solitary.queueSucceeds
      intro reply member
      exact solitary.repliesSucceed reply ((lose_sublist lost).subset member)
  | deliver index =>
      have fewer := (deliver_underWay stepped).subperm
      rcases NodeState.deliver_cases stepped with ⟨delivered, rest, taken, rfl⟩
      have inFlight := (handOver_perm taken).symm.subset
      refine solitary_of_subperm solitary samePhase sameCalls fewer ?_ ?_
      · intro reply member
        exact solitary.repliesSucceed reply (inFlight (List.mem_cons_of_mem _ member))
      · intro reply member
        rcases List.mem_append.1 member with before | last
        · exact solitary.queueSucceeds reply before
        · cases List.mem_singleton.1 last
          exact solitary.repliesSucceed _ (inFlight List.mem_cons_self)
  | deliverMalformed errno =>
      cases Option.some.inj stepped
      have same : (node.deliverMalformed errno).underWay = node.underWay := by
        unfold NodeState.underWay NodeState.deliverMalformed
        simp only [List.filterMap_append, List.filterMap_cons, List.filterMap_nil,
          Datagram.answered_refused, List.append_nil]
      refine solitary_of_subperm solitary rfl rfl (same ▸ List.Subperm.refl _)
        solitary.repliesSucceed ?_
      intro reply member
      rcases List.mem_append.1 member with before | last
      · exact solitary.queueSucceeds reply before
      · exact absurd (List.mem_singleton.1 last).symm (Datagram.refused_ne_reply errno reply)

private theorem solitary_send {node next : NodeState} {ok : Bool} (solitary : node.Solitary fresh)
    (stepped : node.send fresh ok = some next) : next.Solitary fresh := by
  rcases NodeState.send_cases stepped with ⟨phase, rfl⟩
  have nothing := solitary.nothingUnderWay phase
  unfold NodeState.underWay at nothing
  rcases List.append_eq_nil_iff.1 nothing with ⟨requests, others⟩
  refine ⟨?_, ?_, solitary.repliesSucceed, solitary.queueSucceeds⟩
  · intro _
    unfold NodeState.underWay
    rw [others, requests]
    cases ok with
    | true => exact Nat.le_refl 1
    | false => exact Nat.zero_le 1
  · intro _ exchange under
    unfold NodeState.underWay at under
    rw [others, requests] at under
    cases ok with
    | true => exact ⟨rfl, List.mem_singleton.1 under⟩
    | false => cases under

private theorem processSimpleCoapReply_suffix {faults : ReplyFaults}
    {socket after : List Datagram} {ret : Int} {received : Option Datagram}
    (outcome : processSimpleCoapReply faults socket = some (ret, received, after)) :
    after <:+ socket := by
  rcases faults with ⟨pollFails, allocFails, recvFails⟩
  unfold processSimpleCoapReply at outcome
  cases socket with
  | nil =>
      cases pollFails <;> cases allocFails <;> cases recvFails <;> cases outcome <;>
        exact List.suffix_refl []
  | cons datagram rest =>
      cases allocFails <;> cases recvFails <;> cases outcome
      · exact List.suffix_cons datagram after
      · exact List.suffix_refl _
      · exact List.suffix_refl _
      · exact List.suffix_refl _

private theorem solitary_quit {node : NodeState} (phase : node.phase = .quit)
    (repliesSucceed : ∀ reply ∈ node.replies, SuccessCode reply.code)
    (queueSucceeds : ∀ reply, .reply reply ∈ node.socket → SuccessCode reply.code) :
    node.Solitary fresh :=
  { atMostOne := fun inLoop => absurd phase inLoop
    ofThisCall := fun inLoop => absurd phase inLoop
    repliesSucceed := repliesSucceed
    queueSucceeds := queueSucceeds }

private theorem read_underWay {node : NodeState} {sent : Bool} {reply : Reply}
    {rest : List Datagram} (solitary : node.Solitary fresh) (phase : node.phase = .waiting sent)
    (queue : node.socket = .reply reply :: rest) :
    NodeState.underWay { node with socket := rest } = [] := by
  have front := perm_front node.requests (node.replies.map Reply.exchange)
    (rest.filterMap Datagram.answered) reply.exchange
  have single : (node.requests ++ (node.replies.map Reply.exchange ++
      reply.exchange :: rest.filterMap Datagram.answered)).length ≤ 1 := by
    have atMostOne := solitary.atMostOne (NodeState.waiting_ne_quit phase)
    unfold NodeState.underWay at atMostOne
    rw [queue] at atMostOne
    exact atMostOne
  rw [front.length_eq, List.length_cons] at single
  exact List.length_eq_zero_iff.1 (Nat.le_zero.1 (Nat.le_of_succ_le_succ single))

private theorem solitary_receive {node next : NodeState} {faults : ReplyFaults}
    (noPollFailure : faults.pollFails = false) (solitary : node.Solitary fresh)
    (stepped : node.receive fresh faults = some next) : next.Solitary fresh := by
  rcases NodeState.receive_cases stepped with ⟨sent, ret, received, after, phase, outcome, rfl⟩
  have kept := (processSimpleCoapReply_suffix outcome).subset
  have queueSucceeds : ∀ reply, .reply reply ∈ after → SuccessCode reply.code :=
    fun reply queued => solitary.queueSucceeds reply (kept queued)
  by_cases negative : ret < 0
  · exact solitary_quit (if_pos negative) solitary.repliesSucceed queueSucceeds
  · have through : faults.allocFails = false ∧ faults.recvFails = none := by
      by_contra stopped
      exact negative (processSimpleCoapReply_stopped stopped outcome)
    have noFaults : faults = ReplyFaults.none := by
      rcases faults with ⟨pollFails, allocFails, recvFails⟩
      cases noPollFailure
      cases through.1
      cases through.2
      rfl
    rw [noFaults] at outcome
    rcases processSimpleCoapReply_none outcome with ⟨datagram, queue, rfl, rfl⟩
    rcases (Datagram.result_nonneg_iff datagram).1 (Int.not_lt.1 negative) with ⟨reply, rfl⟩
    have nothing := read_underWay solitary phase queue
    refine ⟨?_, ?_, solitary.repliesSucceed, queueSucceeds⟩
    · intro _
      exact Nat.le_trans (Nat.le_of_eq (congrArg List.length nothing)) (Nat.zero_le 1)
    · intro _ exchange under
      have none : exchange ∈ NodeState.underWay { node with socket := after } := under
      rw [nothing] at none
      cases none

theorem solitary_step {node next : NodeState} {action : NodeAction} (orderly : action.Orderly)
    (solitary : node.Solitary fresh) (stepped : node.step fresh action = some next) :
    next.Solitary fresh := by
  cases action with
  | prepareFails errno =>
      rcases NodeState.prepareFails_cases stepped with ⟨-, rfl⟩
      exact solitary_quit (if_pos (failure_neg errno)) solitary.repliesSucceed
        solitary.queueSucceeds
  | send ok => exact solitary_send solitary stepped
  | receive faults => exact solitary_receive orderly solitary stepped
  | _ =>
      refine solitary_network_step ?_ orderly solitary stepped
      trivial

/-- A call of a node that is alone with its request reads the answer to it. -/
theorem NodeState.Solitary.reads {node : NodeState} {faults : ReplyFaults} {sent : Bool}
    {ret : Int} {received : Option Datagram} {after : List Datagram}
    (orderly : faults.pollFails = false) (solitary : node.Solitary fresh)
    (phase : node.phase = .waiting sent)
    (outcome : processSimpleCoapReply faults node.socket = some (ret, received, after))
    (success : 0 ≤ ret) :
    sent = true ∧ ∃ reply, received = some (.reply reply) ∧
      reply.exchange = fresh node.calls ∧ SuccessCode reply.code := by
  have through : faults.allocFails = false ∧ faults.recvFails = none := by
    by_contra stopped
    exact absurd success (Int.not_le.2 (processSimpleCoapReply_stopped stopped outcome))
  have noFaults : faults = ReplyFaults.none := by
    rcases faults with ⟨pollFails, allocFails, recvFails⟩
    cases orderly
    cases through.1
    cases through.2
    rfl
  rw [noFaults] at outcome
  rcases processSimpleCoapReply_none outcome with ⟨datagram, queue, rfl, rfl⟩
  rcases (Datagram.result_nonneg_iff datagram).1 success with ⟨reply, rfl⟩
  have under : reply.exchange ∈ node.underWay := by
    unfold NodeState.underWay
    rw [queue]
    exact List.mem_append_right _ (List.mem_append_right _ List.mem_cons_self)
  rcases solitary.ofThisCall (NodeState.waiting_ne_quit phase) _ under with ⟨waiting, same⟩
  rw [phase] at waiting
  cases waiting
  have queued : Datagram.reply reply ∈ node.socket := by
    rw [queue]
    exact List.mem_cons_self
  exact ⟨rfl, reply, rfl, same, solitary.queueSucceeds reply queued⟩

/-- Every call that succeeded read the reply to its own request, and had sent it. -/
def NodeState.OwnAnswers (node : NodeState) : Prop :=
  ∀ record ∈ node.finished, 0 ≤ record.ret →
    record.sent = true ∧ ∃ reply, record.received = some (.reply reply) ∧
      reply.exchange = record.exchange ∧ SuccessCode reply.code

theorem NodeState.OwnAnswers.about {node : NodeState} (own : node.OwnAnswers) :
    node.CallsAboutTheirRequests := by
  intro record finished success
  rcases own record finished success with ⟨sent, reply, read, same, code⟩
  exact ⟨sent, reply, read, .inl (congrArg Exchange.messageId same), code⟩

private theorem ownAnswers_finishCall {node next : NodeState} {record : CallRecord}
    (own : node.OwnAnswers) (finished : next.finished = node.finished)
    (last : 0 ≤ record.ret → record.sent = true ∧ ∃ reply,
      record.received = some (.reply reply) ∧ reply.exchange = record.exchange ∧
        SuccessCode reply.code) :
    (next.finishCall record).OwnAnswers := by
  intro found member
  change found ∈ next.finished ++ [record] at member
  rw [finished] at member
  rcases List.mem_append.1 member with before | here
  · exact own found before
  · cases List.mem_singleton.1 here
    exact last

theorem NodeState.OwnAnswers.step {node next : NodeState} {action : NodeAction}
    (own : node.OwnAnswers) (orderly : action.Orderly) (solitary : node.Solitary fresh)
    (stepped : node.step fresh action = some next) : next.OwnAnswers := by
  have unfinished : action.OfNetwork → next.OwnAnswers := by
    intro network record finished
    rcases NodeState.network_step network stepped with ⟨-, -, same, -⟩
    rw [same] at finished
    exact own record finished
  cases action with
  | prepareFails errno =>
      rcases NodeState.prepareFails_cases stepped with ⟨-, rfl⟩
      refine ownAnswers_finishCall own rfl (fun success => ?_)
      exact absurd success (Int.not_le.2 (failure_neg errno))
  | send ok =>
      rcases NodeState.send_cases stepped with ⟨-, rfl⟩
      exact own
  | receive faults =>
      rcases NodeState.receive_cases stepped with
        ⟨sent, ret, received, after, phase, outcome, rfl⟩
      exact ownAnswers_finishCall own rfl (solitary.reads orderly phase outcome)
  | hubReply index code => exact unfinished trivial
  | loseRequest index => exact unfinished trivial
  | duplicateRequest index => exact unfinished trivial
  | loseReply index => exact unfinished trivial
  | duplicateReply index => exact unfinished trivial
  | deliver index => exact unfinished trivial
  | deliverMalformed errno => exact unfinished trivial

/-- In a run in which the network duplicates nothing, `poll` does not fail and the hub
answers with success, each call that succeeds had its own request sent and answered,
whatever is lost, delayed or malformed. -/
theorem orderly_run_callsAboutTheirRequests (fresh : FreshExchanges) (actions : List NodeAction)
    (orderly : ∀ action ∈ actions, NodeAction.Orderly action) :
    (nodeMachine fresh).Always NodeState.CallsAboutTheirRequests NodeState.start actions := by
  have both := (nodeMachine fresh).always_of_guarded
    (fun node => node.Solitary fresh ∧ node.OwnAnswers)
    (fun _ action => action.Orderly) ?_ NodeState.start actions
    ⟨solitary_start, fun _ finished => nomatch finished⟩
    ((nodeMachine fresh).guarded_of_within _ actions orderly)
  · exact (nodeMachine fresh).always_mono (fun _ holds => holds.2.about) _ _ both
  · rintro node action next ⟨solitary, own⟩ orderly stepped
    exact ⟨solitary_step orderly solitary stepped, own.step orderly solitary stepped⟩

def twoAnswersRun : List NodeAction :=
  [.send true, .hubReply 0 65, .deliver 0, .receive ReplyFaults.none,
    .send true, .hubReply 0 68, .deliver 0, .receive ReplyFaults.none]

def readOwnReply (call code : Nat) : CallRecord :=
  { exchange := numberedExchanges call
    sent := true
    received := some (.reply { exchange := numberedExchanges call, code := code })
    ret := 0 }

theorem twoAnswersRun_about :
    (∃ final, (nodeMachine numberedExchanges).run NodeState.start twoAnswersRun = some final ∧
      final.finished = [readOwnReply 0 65, readOwnReply 1 68]) ∧
      (nodeMachine numberedExchanges).Always NodeState.CallsAboutTheirRequests
        NodeState.start twoAnswersRun := by
  refine ⟨⟨_, rfl, rfl⟩, orderly_run_callsAboutTheirRequests numberedExchanges twoAnswersRun ?_⟩
  simp [twoAnswersRun, NodeAction.Orderly, SuccessCode, ReplyFaults.none]

end ZephyrHomeHub.Node
