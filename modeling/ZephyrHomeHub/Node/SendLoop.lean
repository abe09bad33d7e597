import ZephyrHomeHub.Node.CoapClient

/-! Whether the node goes on sending when all its own calls succeed. It waits
without a timeout and without sending again, and it leaves its loop on a datagram
that does not parse, so the network can stop it in two ways: by losing the last
datagram in flight while the node waits, and by a malformed datagram that a call
comes to read. -/

namespace ZephyrHomeHub.Node

open Foundation.LabelledMachine Foundation.LossyChannel

def NodeAction.CallsSucceed : NodeAction → Prop
  | .prepareFails _ => False
  | .send ok => ok = true
  | .receive faults => faults = ReplyFaults.none
  | _ => True

/-- Blocked in `wait` with nothing in flight that could end it. -/
def NodeState.BlockedForever (node : NodeState) : Prop :=
  (∃ sent, node.phase = .waiting sent) ∧ node.socket = [] ∧ node.requests = [] ∧ node.replies = []

def NodeState.CanSendNext (fresh : FreshExchanges) (node : NodeState) : Prop :=
  ∃ before later, (∀ action ∈ before, NodeAction.CallsSucceed action) ∧
    (nodeMachine fresh).run node (before ++ [.send true]) = some later

/-- The node is in its loop, not blocked for good, and can send its next reading. -/
structure NodeState.NeverStuck (fresh : FreshExchanges) (node : NodeState) : Prop where
  inLoop : node.phase ≠ .quit
  unblocked : ¬node.BlockedForever
  goesOn : node.CanSendNext fresh

def FirstParses (socket : List Datagram) : Prop :=
  ∀ datagram ∈ socket.head?, ∃ reply, datagram = .reply reply

/-- The step does not stop the node: no call starts with a malformed datagram
first in the socket's queue, none gets there while a call waits at an empty queue,
and the last datagram in flight is not lost while a call waits at an empty queue. -/
def NotFatal (node : NodeState) : NodeAction → Prop
  | .send _ => FirstParses node.socket
  | .loseRequest _ =>
      ∀ sent, node.phase = .waiting sent → node.socket = [] → node.replies = [] →
        node.requests.length ≠ 1
  | .loseReply _ =>
      ∀ sent, node.phase = .waiting sent → node.socket = [] → node.requests = [] →
        node.replies.length ≠ 1
  | .deliverMalformed _ => ∀ sent, node.phase = .waiting sent → node.socket ≠ []
  | _ => True

/-- What the next reading needs: the node sleeps, or its call has a reply first in
the queue, or the queue is empty and something is in flight. -/
def NodeState.Hopeful (node : NodeState) : Prop :=
  match node.phase with
  | .sleeping => True
  | .waiting _ =>
      FirstParses node.socket ∧ (node.socket = [] → node.requests ≠ [] ∨ node.replies ≠ [])
  | .quit => False

theorem hopeful_waiting_iff {node : NodeState} {sent : Bool} (phase : node.phase = .waiting sent) :
    node.Hopeful ↔
      FirstParses node.socket ∧ (node.socket = [] → node.requests ≠ [] ∨ node.replies ≠ []) := by
  unfold NodeState.Hopeful
  rw [phase]

theorem firstParses_append {socket : List Datagram} (nonempty : socket ≠ []) (later : Datagram) :
    FirstParses (socket ++ [later]) ↔ FirstParses socket := by
  cases socket with
  | nil => exact absurd rfl nonempty
  | cons first rest => exact Iff.rfl

variable {fresh : FreshExchanges}

/-! ### Hope is the ability to go on -/

theorem hopeful_sleeping {node : NodeState} (phase : node.phase = .sleeping) : node.Hopeful := by
  unfold NodeState.Hopeful
  rw [phase]
  trivial

theorem not_hopeful_quit {node : NodeState} (phase : node.phase = .quit) : ¬node.Hopeful := by
  unfold NodeState.Hopeful
  rw [phase]
  exact not_false

theorem FirstParses.of_append {socket arrived : List Datagram}
    (parses : FirstParses (socket ++ arrived)) (nonempty : socket ≠ []) : FirstParses socket := by
  cases socket with
  | nil => exact absurd rfl nonempty
  | cons first rest => exact parses

theorem refused_not_firstParses (errno : Option Nat) :
    ¬FirstParses [Datagram.refused errno] := by
  intro parses
  rcases parses _ rfl with ⟨reply, isReply⟩
  exact Datagram.refused_ne_reply errno reply isReply

/-- A datagram that came first and does not parse stays first until a call reads
it, and that call ends the loop. -/
private theorem unparsed_step {node next : NodeState} {action : NodeAction} {sent : Bool}
    (succeeds : action.CallsSucceed) (phase : node.phase = .waiting sent)
    (unparsed : ¬FirstParses node.socket) (stepped : node.step fresh action = some next) :
    ¬next.Hopeful := by
  have busy := NodeState.waiting_ne_sleeping phase
  rcases NodeState.busy_step busy stepped with network | ⟨faults, rfl⟩
  · intro hopeful
    rcases NodeState.network_step network stepped with ⟨-, samePhase, -, arrived, socket⟩
    have parses := ((hopeful_waiting_iff (samePhase.trans phase)).1 hopeful).1
    rw [socket] at parses
    refine unparsed (parses.of_append ?_)
    intro empty
    rw [empty] at unparsed
    exact unparsed (fun _ first => nomatch first)
  · rcases NodeState.receive_cases stepped with ⟨sent, ret, received, socket, -, outcome, rfl⟩
    cases succeeds
    rcases processSimpleCoapReply_none outcome with ⟨datagram, queue, -, rfl⟩
    have negative : datagram.result < 0 := by
      refine Int.not_le.1 (fun nonneg => unparsed ?_)
      rw [queue]
      intro first isFirst
      cases isFirst
      exact (Datagram.result_nonneg_iff datagram).1 nonneg
    exact not_hopeful_quit (if_pos negative)

/-- With nothing in flight, the only thing that can still reach the node is a
malformed datagram. -/
private theorem unanswered_step {node next : NodeState} {action : NodeAction} {sent : Bool}
    (succeeds : action.CallsSucceed) (phase : node.phase = .waiting sent)
    (socket : node.socket = []) (requests : node.requests = []) (replies : node.replies = [])
    (stepped : node.step fresh action = some next) : ¬next.Hopeful := by
  cases action with
  | prepareFails errno =>
      have sleeping := (NodeState.prepareFails_cases stepped).1
      rw [phase] at sleeping
      cases sleeping
  | send ok =>
      have sleeping := (NodeState.send_cases stepped).1
      rw [phase] at sleeping
      cases sleeping
  | receive faults =>
      rcases NodeState.receive_cases stepped with ⟨sent, ret, received, after, -, outcome, -⟩
      cases succeeds
      rcases processSimpleCoapReply_none outcome with ⟨datagram, queue, -⟩
      exact absurd (socket.symm.trans queue) (List.cons_ne_nil datagram after).symm
  | hubReply index code =>
      rcases NodeState.hubReply_cases stepped with ⟨exchange, rest, taken, -⟩
      exact absurd requests (handOver_ne_nil taken)
  | loseRequest index =>
      rcases Option.map_eq_some_iff.1 stepped with ⟨rest, lost, -⟩
      exact absurd requests (lose_ne_nil lost)
  | duplicateRequest index =>
      rcases Option.map_eq_some_iff.1 stepped with ⟨more, duplicated, -⟩
      exact absurd requests (duplicate_ne_nil duplicated).1
  | loseReply index =>
      rcases Option.map_eq_some_iff.1 stepped with ⟨rest, lost, -⟩
      exact absurd replies (lose_ne_nil lost)
  | duplicateReply index =>
      rcases Option.map_eq_some_iff.1 stepped with ⟨more, duplicated, -⟩
      exact absurd replies (duplicate_ne_nil duplicated).1
  | deliver index =>
      rcases NodeState.deliver_cases stepped with ⟨reply, rest, taken, -⟩
      exact absurd replies (handOver_ne_nil taken)
  | deliverMalformed errno =>
      cases Option.some.inj stepped
      have waiting : (node.deliverMalformed errno).phase = .waiting sent := phase
      rw [hopeful_waiting_iff waiting]
      rintro ⟨parses, -⟩
      unfold NodeState.deliverMalformed at parses
      rw [socket] at parses
      exact refused_not_firstParses errno parses

private theorem hopeless_step {node next : NodeState} {action : NodeAction}
    (succeeds : action.CallsSucceed) (hopeless : ¬node.Hopeful)
    (stepped : node.step fresh action = some next) : ¬next.Hopeful := by
  cases phase : node.phase with
  | sleeping => exact absurd (hopeful_sleeping phase) hopeless
  | waiting sent =>
      by_cases parses : FirstParses node.socket
      · rw [hopeful_waiting_iff phase] at hopeless
        simp only [not_and, Classical.not_imp, not_or, not_not] at hopeless
        rcases hopeless parses with ⟨socket, requests, replies⟩
        exact unanswered_step succeeds phase socket requests replies stepped
      · exact unparsed_step succeeds phase parses stepped
  | quit =>
      have busy : node.phase ≠ .sleeping := by
        rw [phase]
        exact Phase.noConfusion
      rcases NodeState.busy_step busy stepped with network | ⟨faults, rfl⟩
      · rcases NodeState.network_step network stepped with ⟨-, samePhase, -, -⟩
        exact not_hopeful_quit (samePhase.trans phase)
      · rcases NodeState.receive_cases stepped with ⟨sent, ret, received, socket, waiting, -, -⟩
        rw [phase] at waiting
        cases waiting

/-! ### Going on, one step at a time -/

theorem canSendNext_of_step {node next : NodeState} (action : NodeAction)
    (succeeds : action.CallsSucceed) (stepped : node.step fresh action = some next)
    (later : next.CanSendNext fresh) : node.CanSendNext fresh := by
  rcases later with ⟨before, final, within, ran⟩
  refine ⟨action :: before, final, List.forall_mem_cons.2 ⟨succeeds, within⟩, ?_⟩
  exact ((nodeMachine fresh).run_cons_eq_some _ _ _ _).2 ⟨next, stepped, ran⟩

theorem canSendNext_sleeping {node : NodeState} (phase : node.phase = .sleeping) :
    node.CanSendNext fresh := by
  have sends : node.send fresh true = some { node with
      phase := .waiting true
      requests := node.requests ++ [fresh node.calls] } := by
    unfold NodeState.send
    rw [phase]
    rfl
  have ran := ((nodeMachine fresh).run_cons_eq_some node _ (.send true) []).2 ⟨_, sends, rfl⟩
  exact ⟨[], _, List.forall_mem_nil _, ran⟩

theorem canSendNext_answered {node : NodeState} {sent : Bool} {reply : Reply}
    {rest : List Datagram} (phase : node.phase = .waiting sent)
    (socket : node.socket = .reply reply :: rest) : node.CanSendNext fresh := by
  let record : CallRecord :=
    { exchange := fresh node.calls, sent := sent, received := some (.reply reply), ret := 0 }
  have reads : node.receive fresh ReplyFaults.none =
      some ({ node with socket := rest }.finishCall record) := by
    unfold NodeState.receive
    rw [phase, socket]
    rfl
  have sleeps : ({ node with socket := rest }.finishCall record).phase = .sleeping := rfl
  exact canSendNext_of_step (.receive ReplyFaults.none) rfl reads (canSendNext_sleeping sleeps)

theorem canSendNext_replyInFlight {node : NodeState} {sent : Bool} {reply : Reply}
    {rest : List Reply} (phase : node.phase = .waiting sent) (socket : node.socket = [])
    (replies : node.replies = reply :: rest) : node.CanSendNext fresh := by
  have delivers : node.deliver 0 =
      some { node with replies := rest, socket := [.reply reply] } := by
    unfold NodeState.deliver
    rw [replies, handOver_head, socket]
    rfl
  exact canSendNext_of_step (.deliver 0) trivial delivers (canSendNext_answered phase rfl)

theorem canSendNext_requestInFlight {node : NodeState} {sent : Bool} {exchange : Exchange}
    {rest : List Exchange} (phase : node.phase = .waiting sent) (socket : node.socket = [])
    (replies : node.replies = []) (requests : node.requests = exchange :: rest) :
    node.CanSendNext fresh := by
  let reply : Reply := { exchange := exchange, code := 0 }
  have answers : node.hubReply 0 0 =
      some { node with requests := rest, replies := [reply] } := by
    unfold NodeState.hubReply
    rw [requests, handOver_head, replies]
    rfl
  exact canSendNext_of_step (.hubReply 0 0) trivial answers
    (canSendNext_replyInFlight phase socket rfl)

theorem canSendNext_iff_hopeful (node : NodeState) :
    node.CanSendNext fresh ↔ node.Hopeful := by
  constructor
  · rintro ⟨before, later, within, ran⟩
    obtain ⟨ready, ranBefore, ranSend⟩ :=
      ((nodeMachine fresh).run_append_eq_some _ _ _ _).1 ran
    rcases ((nodeMachine fresh).run_cons_eq_some _ _ _ _).1 ranSend with ⟨sending, sent, -⟩
    by_contra hopeless
    have stillHopeless := (nodeMachine fresh).run_preserves_within NodeAction.CallsSucceed
      (fun state => ¬state.Hopeful)
      (fun state action next succeeds none stepped => hopeless_step succeeds none stepped)
      node ready before within hopeless ranBefore
    exact stillHopeless (hopeful_sleeping (NodeState.send_cases sent).1)
  · intro hopeful
    cases phase : node.phase with
    | sleeping => exact canSendNext_sleeping phase
    | quit => exact absurd hopeful (not_hopeful_quit phase)
    | waiting sent =>
        rcases (hopeful_waiting_iff phase).1 hopeful with ⟨parses, inFlight⟩
        cases socket : node.socket with
        | cons first rest =>
            rcases parses first (by rw [socket]; rfl) with ⟨reply, rfl⟩
            exact canSendNext_answered phase socket
        | nil =>
            cases replies : node.replies with
            | cons reply rest => exact canSendNext_replyInFlight phase socket replies
            | nil =>
                cases requests : node.requests with
                | cons exchange rest =>
                    exact canSendNext_requestInFlight phase socket replies requests
                | nil =>
                    rcases inFlight socket with someRequest | someReply
                    · exact absurd requests someRequest
                    · exact absurd replies someReply

theorem neverStuck_iff_hopeful (node : NodeState) :
    node.NeverStuck fresh ↔ node.Hopeful := by
  constructor
  · intro neverStuck
    exact (canSendNext_iff_hopeful node).1 neverStuck.goesOn
  · intro hopeful
    refine ⟨?_, ?_, (canSendNext_iff_hopeful node).2 hopeful⟩
    · intro quit
      exact not_hopeful_quit quit hopeful
    · rintro ⟨⟨sent, phase⟩, socket, requests, replies⟩
      rcases ((hopeful_waiting_iff phase).1 hopeful).2 socket with someRequest | someReply
      · exact someRequest requests
      · exact someReply replies

/-! ### Which steps stop the node -/

private theorem sleeping_step_iff {node next : NodeState} {action : NodeAction}
    (succeeds : action.CallsSucceed) (phase : node.phase = .sleeping)
    (stepped : node.step fresh action = some next) : next.Hopeful ↔ NotFatal node action := by
  have notWaiting : ∀ sent, node.phase ≠ .waiting sent := by
    intro sent
    rw [phase]
    exact Phase.noConfusion
  have unaffected : action.OfNetwork → next.Hopeful := by
    intro network
    rcases NodeState.network_step network stepped with ⟨-, samePhase, -, -⟩
    exact hopeful_sleeping (samePhase.trans phase)
  cases action with
  | prepareFails errno => exact succeeds.elim
  | send ok =>
      cases succeeds
      rcases NodeState.send_cases stepped with ⟨-, rfl⟩
      rw [hopeful_waiting_iff rfl]
      have requestSent : node.requests ++ [fresh node.calls] ≠ [] :=
        List.append_ne_nil_of_right_ne_nil _ (List.cons_ne_nil _ [])
      exact and_iff_left (fun _ => .inl requestSent)
  | receive faults =>
      rcases NodeState.receive_cases stepped with ⟨sent, ret, received, socket, waiting, -, -⟩
      exact absurd waiting (notWaiting sent)
  | hubReply index code => exact iff_of_true (unaffected trivial) trivial
  | loseRequest index =>
      exact iff_of_true (unaffected trivial) (fun sent waiting => absurd waiting (notWaiting sent))
  | duplicateRequest index => exact iff_of_true (unaffected trivial) trivial
  | loseReply index =>
      exact iff_of_true (unaffected trivial) (fun sent waiting => absurd waiting (notWaiting sent))
  | duplicateReply index => exact iff_of_true (unaffected trivial) trivial
  | deliver index => exact iff_of_true (unaffected trivial) trivial
  | deliverMalformed errno =>
      exact iff_of_true (unaffected trivial) (fun sent waiting => absurd waiting (notWaiting sent))

/-- While a call waits, what is first in the queue decides, and with an empty queue
what is in flight. -/
private theorem waiting_step_iff {node next : NodeState} {action : NodeAction} {sent : Bool}
    (succeeds : action.CallsSucceed) (phase : node.phase = .waiting sent) (hopeful : node.Hopeful)
    (stepped : node.step fresh action = some next) : next.Hopeful ↔ NotFatal node action := by
  rcases (hopeful_waiting_iff phase).1 hopeful with ⟨parses, inFlight⟩
  have stillWaiting : action.OfNetwork → next.phase = .waiting sent := by
    intro network
    exact (NodeState.network_step network stepped).2.1.trans phase
  cases action with
  | prepareFails errno => exact succeeds.elim
  | send ok =>
      have sleeping := (NodeState.send_cases stepped).1
      rw [phase] at sleeping
      cases sleeping
  | receive faults =>
      cases succeeds
      rcases NodeState.receive_cases stepped with ⟨sent, ret, received, after, -, outcome, rfl⟩
      rcases processSimpleCoapReply_none outcome with ⟨datagram, queue, -, rfl⟩
      have isReply := parses datagram (by rw [queue]; rfl)
      have nonneg := (Datagram.result_nonneg_iff datagram).2 isReply
      exact iff_of_true (hopeful_sleeping (if_neg (Int.not_lt.2 nonneg))) trivial
  | hubReply index code =>
      rcases NodeState.hubReply_cases stepped with ⟨exchange, rest, -, rfl⟩
      have waiting := hopeful_waiting_iff (stillWaiting trivial)
      refine iff_of_true (waiting.2 ⟨parses, fun _ => .inr ?_⟩) trivial
      exact List.append_ne_nil_of_right_ne_nil _ (List.cons_ne_nil _ [])
  | loseRequest index =>
      rcases Option.map_eq_some_iff.1 stepped with ⟨rest, lost, rfl⟩
      rw [hopeful_waiting_iff (stillWaiting trivial), and_iff_right parses]
      constructor
      · intro remains other _ socket
        exact (lose_leaves_iff lost).1 (remains socket)
      · intro notLast socket
        exact (lose_leaves_iff lost).2 (notLast sent phase socket)
  | duplicateRequest index =>
      rcases Option.map_eq_some_iff.1 stepped with ⟨more, duplicated, rfl⟩
      have waiting := hopeful_waiting_iff (stillWaiting trivial)
      refine iff_of_true (waiting.2 ⟨parses, fun _ => .inl ?_⟩) trivial
      exact (duplicate_ne_nil duplicated).2
  | loseReply index =>
      rcases Option.map_eq_some_iff.1 stepped with ⟨rest, lost, rfl⟩
      rw [hopeful_waiting_iff (stillWaiting trivial), and_iff_right parses]
      constructor
      · intro remains other _ socket
        exact (lose_leaves_iff lost).1 (remains socket).symm
      · intro notLast socket
        exact ((lose_leaves_iff lost).2 (notLast sent phase socket)).symm
  | duplicateReply index =>
      rcases Option.map_eq_some_iff.1 stepped with ⟨more, duplicated, rfl⟩
      have waiting := hopeful_waiting_iff (stillWaiting trivial)
      refine iff_of_true (waiting.2 ⟨parses, fun _ => .inr ?_⟩) trivial
      exact (duplicate_ne_nil duplicated).2
  | deliver index =>
      rcases NodeState.deliver_cases stepped with ⟨reply, rest, taken, rfl⟩
      refine iff_of_true ((hopeful_waiting_iff (stillWaiting trivial)).2 ⟨?_, ?_⟩) trivial
      · cases socket : node.socket with
        | nil =>
            intro datagram first
            cases first
            exact ⟨reply, rfl⟩
        | cons first later =>
            rw [socket] at parses
            exact parses
      · intro empty
        exact absurd empty (List.append_ne_nil_of_right_ne_nil _ (List.cons_ne_nil _ []))
  | deliverMalformed errno =>
      cases Option.some.inj stepped
      rw [hopeful_waiting_iff (stillWaiting trivial)]
      constructor
      · rintro ⟨stillParses, -⟩ other - socket
        unfold NodeState.deliverMalformed at stillParses
        rw [socket] at stillParses
        exact refused_not_firstParses errno stillParses
      · intro nonempty
        refine ⟨(firstParses_append (nonempty sent phase) _).2 parses, ?_⟩
        intro empty
        exact absurd empty (List.append_ne_nil_of_right_ne_nil _ (List.cons_ne_nil _ []))

private theorem hopeful_step_iff {node next : NodeState} {action : NodeAction}
    (succeeds : action.CallsSucceed) (hopeful : node.Hopeful)
    (stepped : node.step fresh action = some next) : next.Hopeful ↔ NotFatal node action := by
  cases phase : node.phase with
  | sleeping => exact sleeping_step_iff succeeds phase stepped
  | waiting sent => exact waiting_step_iff succeeds phase hopeful stepped
  | quit => exact absurd hopeful (not_hopeful_quit phase)

/-- Where the node's own calls succeed, a run keeps the node going exactly when
none of its steps is fatal. -/
theorem run_neverStuck_iff (fresh : FreshExchanges) (actions : List NodeAction)
    (succeed : ∀ action ∈ actions, NodeAction.CallsSucceed action) :
    (nodeMachine fresh).Always (NodeState.NeverStuck fresh) NodeState.start actions ↔
      (nodeMachine fresh).Guarded NotFatal NodeState.start actions := by
  refine (nodeMachine fresh).always_iff_guarded NodeAction.CallsSucceed (fun _ => True)
    (NodeState.NeverStuck fresh) NotFatal (fun _ _ _ _ _ _ => trivial) ?_
    NodeState.start actions succeed trivial ?_
  · intro node action next succeeds _ neverStuck stepped
    rw [neverStuck_iff_hopeful]
    exact hopeful_step_iff succeeds ((neverStuck_iff_hopeful node).1 neverStuck) stepped
  · exact (neverStuck_iff_hopeful _).2 (hopeful_sleeping rfl)

def answeredRun : List NodeAction :=
  [.send true, .hubReply 0 65, .deliver 0, .receive ReplyFaults.none]

theorem answeredRun_neverStuck_iff :
    (nodeMachine numberedExchanges).Always (NodeState.NeverStuck numberedExchanges)
        NodeState.start answeredRun ↔
      (nodeMachine numberedExchanges).Guarded NotFatal NodeState.start answeredRun := by
  refine run_neverStuck_iff numberedExchanges answeredRun ?_
  simp [answeredRun, NodeAction.CallsSucceed]

def lostRequestRun : List NodeAction := [.send true, .loseRequest 0]

/-- After the loss of its only request the node waits for ever, and no run of
successful calls brings it to send again. -/
theorem lostRequestRun_stuck :
    (∀ action ∈ lostRequestRun, NodeAction.CallsSucceed action) ∧
      ¬(nodeMachine numberedExchanges).Always (NodeState.NeverStuck numberedExchanges)
        NodeState.start lostRequestRun := by
  constructor
  · simp [lostRequestRun, NodeAction.CallsSucceed]
  · rintro ⟨-, along⟩
    rcases along _ rfl with ⟨-, afterLoss⟩
    have neverStuck : NodeState.NeverStuck numberedExchanges _ := afterLoss _ rfl
    exact neverStuck.unblocked ⟨⟨true, rfl⟩, rfl, rfl, rfl⟩

end ZephyrHomeHub.Node
