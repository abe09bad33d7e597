import Mathlib.Logic.Function.Basic
import ZephyrHomeHub.Foundation.LabelledMachine
import ZephyrHomeHub.Foundation.SingleWorker
import ZephyrHomeHub.Hub.DataModel

/-! The way of a reading from `ui_update_submit` to the main thread: the pool of
work items, the work queue whose handler puts a message into `temp_data_msgq`,
and `k_msgq_get`. Each step is one action of one thread. -/

namespace ZephyrHomeHub.Hub

open Foundation.LabelledMachine Foundation.SingleWorker

def uiWorkPoolSize : Nat := 10

abbrev PoolSlot := Fin uiWorkPoolSize

def einval : Int := -22

def enomem : Int := -12

inductive CallerState where
  | idle
  | checking (slot : PoolSlot) (msg : TempDataMsg)
  | copying (slot : PoolSlot) (msg : TempDataMsg)
  | submitting (slot : PoolSlot) (msg : TempDataMsg)

structure PutAttempt where
  msg : TempDataMsg
  held : Nat
  ok : Bool
deriving DecidableEq

/-- The shared state, and what happened so far: every call's message with its
return value, every put and every message received. -/
structure Pipeline (Caller : Type) where
  workPoolInit : Bool
  caller : Caller → CallerState
  workPool : PoolSlot → TempDataMsg
  work : WorkQueue PoolSlot
  msgq : List TempDataMsg
  returns : List (TempDataMsg × Int)
  puts : List PutAttempt
  received : List TempDataMsg

inductive PipelineAction (Caller : Type) where
  | uiWorkQueueInit
  | call (caller : Caller) (msg : TempDataMsg)
  | check (caller : Caller)
  | copy (caller : Caller)
  | submit (caller : Caller)
  | dequeue
  | put
  | finish
  | get

def TempDataMsg.zero : TempDataMsg :=
  { nodeId := NodeInfo.zero.nodeId
    temperature := .zero
    humidity := .zero
    timestamp := 0 }

def Pipeline.boot (Caller : Type) : Pipeline Caller :=
  { workPoolInit := false
    caller := fun _ => .idle
    workPool := fun _ => TempDataMsg.zero
    work := WorkQueue.empty
    msgq := []
    returns := []
    puts := []
    received := [] }

variable {Caller : Type}

/-! ### The main thread and the work queue's thread -/

def Pipeline.uiWorkQueueInit (pipeline : Pipeline Caller) : Option (Pipeline Caller) :=
  if pipeline.workPoolInit then none else some { pipeline with workPoolInit := true }

def Pipeline.dequeue (pipeline : Pipeline Caller) : Option (Pipeline Caller) :=
  pipeline.work.start.map fun work => { pipeline with work := work }

/-- `temp_data_enqueue`: a put without waiting into a queue of thirty messages. -/
def Pipeline.tempDataEnqueue (pipeline : Pipeline Caller) (msg : TempDataMsg) : Pipeline Caller :=
  if pipeline.msgq.length < tempMsgQueueSize then
    { pipeline with
      msgq := pipeline.msgq ++ [msg]
      puts := pipeline.puts ++ [{ msg := msg, held := pipeline.msgq.length, ok := true }] }
  else
    { pipeline with
      puts := pipeline.puts ++ [{ msg := msg, held := pipeline.msgq.length, ok := false }] }

/-- `ui_update_work_handler` puts what its pool slot holds now. -/
def Pipeline.put (pipeline : Pipeline Caller) : Option (Pipeline Caller) :=
  pipeline.work.act.map fun acted =>
    { pipeline.tempDataEnqueue (pipeline.workPool acted.1) with work := acted.2 }

def Pipeline.finish (pipeline : Pipeline Caller) : Option (Pipeline Caller) :=
  pipeline.work.finish.map fun work => { pipeline with work := work }

def Pipeline.get (pipeline : Pipeline Caller) : Option (Pipeline Caller) :=
  match pipeline.msgq with
  | [] => none
  | msg :: rest => some { pipeline with msgq := rest, received := pipeline.received ++ [msg] }

theorem Pipeline.uiWorkQueueInit_cases {pipeline next : Pipeline Caller}
    (stepped : pipeline.uiWorkQueueInit = some next) :
    pipeline.workPoolInit = false ∧ next = { pipeline with workPoolInit := true } := by
  unfold Pipeline.uiWorkQueueInit at stepped
  cases ready : pipeline.workPoolInit with
  | true =>
      rw [ready] at stepped
      cases stepped
  | false =>
      rw [ready] at stepped
      exact ⟨rfl, (Option.some.inj stepped).symm⟩

theorem Pipeline.dequeue_cases {pipeline next : Pipeline Caller}
    (stepped : pipeline.dequeue = some next) :
    ∃ work, pipeline.work.start = some work ∧ next = { pipeline with work := work } := by
  rcases Option.map_eq_some_iff.1 stepped with ⟨work, started, equal⟩
  exact ⟨work, started, equal.symm⟩

theorem Pipeline.put_cases {pipeline next : Pipeline Caller} (stepped : pipeline.put = some next) :
    ∃ slot work, pipeline.work.act = some (slot, work) ∧
      next = { pipeline.tempDataEnqueue (pipeline.workPool slot) with work := work } := by
  rcases Option.map_eq_some_iff.1 stepped with ⟨acted, act, equal⟩
  exact ⟨acted.1, acted.2, act, equal.symm⟩

theorem Pipeline.finish_cases {pipeline next : Pipeline Caller}
    (stepped : pipeline.finish = some next) :
    ∃ work, pipeline.work.finish = some work ∧ next = { pipeline with work := work } := by
  rcases Option.map_eq_some_iff.1 stepped with ⟨work, finished, equal⟩
  exact ⟨work, finished, equal.symm⟩

theorem Pipeline.get_cases {pipeline next : Pipeline Caller} (stepped : pipeline.get = some next) :
    ∃ msg rest, pipeline.msgq = msg :: rest ∧
      next = { pipeline with msgq := rest, received := pipeline.received ++ [msg] } := by
  unfold Pipeline.get at stepped
  cases queued : pipeline.msgq with
  | nil =>
      rw [queued] at stepped
      cases stepped
  | cons msg rest =>
      rw [queued] at stepped
      exact ⟨msg, rest, rfl, (Option.some.inj stepped).symm⟩

theorem Pipeline.tempDataEnqueue_cases (pipeline : Pipeline Caller) (msg : TempDataMsg) :
    (pipeline.msgq.length < tempMsgQueueSize ∧
        pipeline.tempDataEnqueue msg =
          { pipeline with
            msgq := pipeline.msgq ++ [msg]
            puts := pipeline.puts ++
              [{ msg := msg, held := pipeline.msgq.length, ok := true }] }) ∨
      (¬pipeline.msgq.length < tempMsgQueueSize ∧
        pipeline.tempDataEnqueue msg =
          { pipeline with
            puts := pipeline.puts ++
              [{ msg := msg, held := pipeline.msgq.length, ok := false }] }) := by
  unfold Pipeline.tempDataEnqueue
  split
  · rename_i room
    exact Or.inl ⟨room, rfl⟩
  · rename_i full
    exact Or.inr ⟨full, rfl⟩

theorem Pipeline.tempDataEnqueue_frame (pipeline : Pipeline Caller) (msg : TempDataMsg) :
    (pipeline.tempDataEnqueue msg).caller = pipeline.caller ∧
      (pipeline.tempDataEnqueue msg).workPool = pipeline.workPool ∧
      (pipeline.tempDataEnqueue msg).returns = pipeline.returns := by
  rcases pipeline.tempDataEnqueue_cases msg with ⟨_, equal⟩ | ⟨_, equal⟩
  · rw [equal]
    exact ⟨rfl, rfl, rfl⟩
  · rw [equal]
    exact ⟨rfl, rfl, rfl⟩

/-! ### The calling threads -/

section Callers

variable [DecidableEq Caller]

def Pipeline.moveCaller (pipeline : Pipeline Caller) (caller : Caller) (state : CallerState) :
    Pipeline Caller :=
  { pipeline with caller := Function.update pipeline.caller caller state }

def Pipeline.leave (pipeline : Pipeline Caller) (caller : Caller) (msg : TempDataMsg) (ret : Int) :
    Pipeline Caller :=
  { pipeline.moveCaller caller .idle with returns := pipeline.returns ++ [(msg, ret)] }

/-- Entry of `ui_update_submit` with the test of `work_pool_init`. -/
def Pipeline.call (pipeline : Pipeline Caller) (caller : Caller) (msg : TempDataMsg) :
    Option (Pipeline Caller) :=
  match pipeline.caller caller with
  | .idle =>
      if pipeline.workPoolInit then
        some (pipeline.moveCaller caller (.checking ⟨0, by decide⟩ msg))
      else some (pipeline.leave caller msg einval)
  | .checking _ _ => none
  | .copying _ _ => none
  | .submitting _ _ => none

/-- One turn of the loop over the pool: `k_work_busy_get`. After the last slot
the pool is exhausted. -/
def Pipeline.check (pipeline : Pipeline Caller) (caller : Caller) : Option (Pipeline Caller) :=
  match pipeline.caller caller with
  | .idle => none
  | .checking slot msg =>
      if pipeline.work.busy slot then
        if more : slot.val + 1 < uiWorkPoolSize then
          some (pipeline.moveCaller caller (.checking ⟨slot.val + 1, more⟩ msg))
        else some (pipeline.leave caller msg enomem)
      else some (pipeline.moveCaller caller (.copying slot msg))
  | .copying _ _ => none
  | .submitting _ _ => none

def Pipeline.copy (pipeline : Pipeline Caller) (caller : Caller) : Option (Pipeline Caller) :=
  match pipeline.caller caller with
  | .idle => none
  | .checking _ _ => none
  | .copying slot msg =>
      some { pipeline.moveCaller caller (.submitting slot msg) with
        workPool := Function.update pipeline.workPool slot msg }
  | .submitting _ _ => none

def Pipeline.submit (pipeline : Pipeline Caller) (caller : Caller) : Option (Pipeline Caller) :=
  match pipeline.caller caller with
  | .idle => none
  | .checking _ _ => none
  | .copying _ _ => none
  | .submitting slot msg =>
      some { pipeline.leave caller msg 0 with work := pipeline.work.submit slot }

theorem Pipeline.call_cases {pipeline next : Pipeline Caller} {caller : Caller}
    {msg : TempDataMsg} (stepped : pipeline.call caller msg = some next) :
    pipeline.caller caller = .idle ∧
      ((pipeline.workPoolInit = true ∧
          next = pipeline.moveCaller caller (.checking ⟨0, by decide⟩ msg)) ∨
        (pipeline.workPoolInit = false ∧ next = pipeline.leave caller msg einval)) := by
  unfold Pipeline.call at stepped
  cases here : pipeline.caller caller with
  | idle =>
      rw [here] at stepped
      cases ready : pipeline.workPoolInit with
      | true =>
          rw [ready] at stepped
          exact ⟨rfl, Or.inl ⟨rfl, (Option.some.inj stepped).symm⟩⟩
      | false =>
          rw [ready] at stepped
          exact ⟨rfl, Or.inr ⟨rfl, (Option.some.inj stepped).symm⟩⟩
  | checking slot other =>
      rw [here] at stepped
      cases stepped
  | copying slot other =>
      rw [here] at stepped
      cases stepped
  | submitting slot other =>
      rw [here] at stepped
      cases stepped

theorem Pipeline.check_cases {pipeline next : Pipeline Caller} {caller : Caller}
    (stepped : pipeline.check caller = some next) :
    ∃ slot msg, pipeline.caller caller = .checking slot msg ∧
      ((pipeline.work.busy slot = true ∧ ∃ more : slot.val + 1 < uiWorkPoolSize,
          next = pipeline.moveCaller caller (.checking ⟨slot.val + 1, more⟩ msg)) ∨
        (pipeline.work.busy slot = true ∧ ¬slot.val + 1 < uiWorkPoolSize ∧
          next = pipeline.leave caller msg enomem) ∨
        (pipeline.work.busy slot = false ∧
          next = pipeline.moveCaller caller (.copying slot msg))) := by
  unfold Pipeline.check at stepped
  cases here : pipeline.caller caller with
  | idle =>
      rw [here] at stepped
      cases stepped
  | checking slot msg =>
      rw [here] at stepped
      refine ⟨slot, msg, rfl, ?_⟩
      cases busy : pipeline.work.busy slot with
      | true =>
          simp only [busy, if_true] at stepped
          split at stepped
          · rename_i more
            exact Or.inl ⟨rfl, more, (Option.some.inj stepped).symm⟩
          · rename_i last
            exact Or.inr (Or.inl ⟨rfl, last, (Option.some.inj stepped).symm⟩)
      | false =>
          simp only [busy, Bool.false_eq_true, if_false] at stepped
          exact Or.inr (Or.inr ⟨rfl, (Option.some.inj stepped).symm⟩)
  | copying slot msg =>
      rw [here] at stepped
      cases stepped
  | submitting slot msg =>
      rw [here] at stepped
      cases stepped

theorem Pipeline.copy_cases {pipeline next : Pipeline Caller} {caller : Caller}
    (stepped : pipeline.copy caller = some next) :
    ∃ slot msg, pipeline.caller caller = .copying slot msg ∧
      next = { pipeline.moveCaller caller (.submitting slot msg) with
        workPool := Function.update pipeline.workPool slot msg } := by
  unfold Pipeline.copy at stepped
  cases here : pipeline.caller caller with
  | idle =>
      rw [here] at stepped
      cases stepped
  | checking slot msg =>
      rw [here] at stepped
      cases stepped
  | copying slot msg =>
      rw [here] at stepped
      exact ⟨slot, msg, rfl, (Option.some.inj stepped).symm⟩
  | submitting slot msg =>
      rw [here] at stepped
      cases stepped

theorem Pipeline.submit_cases {pipeline next : Pipeline Caller} {caller : Caller}
    (stepped : pipeline.submit caller = some next) :
    ∃ slot msg, pipeline.caller caller = .submitting slot msg ∧
      next = { pipeline.leave caller msg 0 with work := pipeline.work.submit slot } := by
  unfold Pipeline.submit at stepped
  cases here : pipeline.caller caller with
  | idle =>
      rw [here] at stepped
      cases stepped
  | checking slot msg =>
      rw [here] at stepped
      cases stepped
  | copying slot msg =>
      rw [here] at stepped
      cases stepped
  | submitting slot msg =>
      rw [here] at stepped
      exact ⟨slot, msg, rfl, (Option.some.inj stepped).symm⟩

def Pipeline.step (pipeline : Pipeline Caller) :
    PipelineAction Caller → Option (Pipeline Caller)
  | .uiWorkQueueInit => pipeline.uiWorkQueueInit
  | .call caller msg => pipeline.call caller msg
  | .check caller => pipeline.check caller
  | .copy caller => pipeline.copy caller
  | .submit caller => pipeline.submit caller
  | .dequeue => pipeline.dequeue
  | .put => pipeline.put
  | .finish => pipeline.finish
  | .get => pipeline.get

variable (Caller) in
def pipelineMachine : Machine (Pipeline Caller) (PipelineAction Caller) :=
  { initial := Pipeline.boot Caller
    step := Pipeline.step }

end Callers

end ZephyrHomeHub.Hub
