import ZephyrHomeHub.Foundation.SampledHistory
import ZephyrHomeHub.Node.SamplingSteps

/-! How old a reading is that the node sends. A call copies `sensor_last_value` when it
begins, so what is sent was stored last before that, and no call sends what was stored
before the copy of an earlier call. -/

namespace ZephyrHomeHub.Node

open Foundation.LabelledMachine Foundation.SampledHistory

def SamplingAction.stored (node : SamplingNode) : SamplingAction → List Q31Reading
  | .store =>
      match node.sensor with
      | .storing values => [values.temperature]
      | _ => []
  | _ => []

def SamplingNode.storedAlong (fresh : FreshExchanges) :
    SamplingNode → List SamplingAction → List Q31Reading
  | _, [] => []
  | node, action :: rest =>
      action.stored node ++
        match node.step fresh action with
        | none => []
        | some next => SamplingNode.storedAlong fresh next rest

variable {fresh : FreshExchanges} {node next : SamplingNode}

theorem SamplingAction.Senses.stored {action : SamplingAction} (senses : action.Senses)
    (node : SamplingNode) : action.stored node = [] := by
  cases action with
  | store => exact senses.elim
  | _ => rfl

/-- What a step does to the value last stored, to the copy of the call and to what was
sent: it sends the copy, takes one, stores, or does none of these. -/
theorem SamplingNode.sending_cases {action : SamplingAction}
    (stepped : node.step fresh action = some next) :
    (∃ reading, node.main = .looping (some reading) ∧ next.main.copied = [] ∧
        next.sent = node.sent ++ [sentPayload reading] ∧
        next.sensorLastValue = node.sensorLastValue ∧ action.stored node = []) ∨
      (next.main = .looping (some node.sensorLastValue.temperature) ∧
        next.sent = node.sent ∧ next.sensorLastValue = node.sensorLastValue ∧
        action.stored node = []) ∨
      (next.main = node.main ∧ next.sent = node.sent ∧
        action.stored node = [next.sensorLastValue.temperature]) ∨
      ((next.main = node.main ∨ next.main.copied = []) ∧ next.sent = node.sent ∧
        next.sensorLastValue = node.sensorLastValue ∧ action.stored node = []) := by
  cases SamplingNode.step_moves stepped with
  | setUp device sensor main => exact .inr (.inr (.inr ⟨.inr rfl, rfl, rfl, rfl⟩))
  | startClient ret main =>
      refine .inr (.inr (.inr ⟨.inr ?_, rfl, rfl, rfl⟩))
      change MainThread.copied (if ret < 0 then .quit else .looping none) = []
      split
      · rfl
      · rfl
  | copy main => exact .inr (.inl ⟨rfl, rfl, rfl, rfl⟩)
  | send ok reading client main moved =>
      cases ok with
      | true => exact .inl ⟨reading, main, rfl, rfl, rfl, rfl⟩
      | false => exact .inr (.inr (.inr ⟨.inr rfl, rfl, rfl, rfl⟩))
  | prepareFails errno reading client main moved =>
      exact .inr (.inr (.inr ⟨.inr rfl, rfl, rfl, rfl⟩))
  | client inner copied client keeps main moved =>
      exact .inr (.inr (.inr ⟨.inl rfl, rfl, rfl, rfl⟩))
  | sense action sensor delivered senses =>
      exact .inr (.inr (.inr ⟨.inl rfl, rfl, rfl, senses.stored node⟩))
  | store values sensor =>
      refine .inr (.inr (.inl ⟨rfl, rfl, ?_⟩))
      unfold SamplingAction.stored
      rw [sensor]

/-- What was sent since `base` are samples of the history, the copy of the call under
way would be the next one, and the history ends with the value last stored. -/
structure SamplingNode.Samples (base : List (List UInt8)) (history : List Q31Reading)
    (node : SamplingNode) : Prop where
  last : history.getLast? = some node.sensorLastValue.temperature
  sent : ∃ readings bound, node.sent = base ++ readings.map sentPayload ∧
    bound < history.length ∧ SampledUpTo history readings bound ∧
    ∀ reading, node.main = .looping (some reading) →
      ∃ index, bound ≤ index ∧ history[index]? = some reading

theorem SamplingNode.Samples.unsent {base : List (List UInt8)} {history : List Q31Reading}
    (samples : node.Samples base history) (sent : next.sent = node.sent)
    (same : next.sensorLastValue = node.sensorLastValue)
    (copies : ∀ reading, next.main = .looping (some reading) →
      node.main = .looping (some reading) ∨ reading = node.sensorLastValue.temperature) :
    next.Samples base history := by
  rcases samples.sent with ⟨readings, bound, sentBefore, inside, sampled, copied⟩
  refine ⟨by rw [same]; exact samples.last, readings, bound, sent.trans sentBefore, inside,
    sampled, ?_⟩
  intro reading main
  rcases copies reading main with before | rfl
  · exact copied reading before
  · exact ⟨history.length - 1, Nat.le_sub_one_of_lt inside,
      List.getLast?_eq_getElem?.symm.trans samples.last⟩

theorem MainThread.copied_looping {main : MainThread} {reading : Q31Reading}
    (looping : main = .looping (some reading)) : main.copied = [reading] := by
  rw [looping]
  rfl

theorem SamplingNode.Samples.step {base : List (List UInt8)} {history : List Q31Reading}
    (samples : node.Samples base history) {action : SamplingAction}
    (stepped : node.step fresh action = some next) :
    next.Samples base (history ++ action.stored node) := by
  rcases SamplingNode.sending_cases stepped with
    ⟨reading, main, noCopy, sent, same, stored⟩ | ⟨copy, sent, same, stored⟩ |
    ⟨sameMain, sent, stored⟩ | ⟨main, sent, same, stored⟩
  · rcases samples.sent with ⟨readings, bound, sentBefore, inside, sampled, copied⟩
    rcases copied reading main with ⟨index, later, atIndex⟩
    rcases List.getElem?_eq_some_iff.1 atIndex with ⟨insideIndex, -⟩
    rw [stored, List.append_nil]
    refine ⟨by rw [same]; exact samples.last, readings ++ [reading], index, ?_, insideIndex,
      sampled.sample later atIndex, ?_⟩
    · rw [sent, sentBefore, List.map_append, List.map_singleton, List.append_assoc]
    · intro other looping
      rw [MainThread.copied_looping looping] at noCopy
      cases noCopy
  · rw [stored, List.append_nil]
    apply samples.unsent sent same
    intro reading main
    rw [copy] at main
    cases main
    exact .inr rfl
  · rcases samples.sent with ⟨readings, bound, sentBefore, inside, sampled, copied⟩
    rw [stored]
    refine ⟨List.getLast?_concat, readings, bound, sent.trans sentBefore, ?_,
      sampled.grow _, ?_⟩
    · rw [List.length_append]
      exact Nat.lt_add_right _ inside
    · intro reading main
      rcases copied reading (sameMain.symm.trans main) with ⟨index, later, atIndex⟩
      rcases List.getElem?_eq_some_iff.1 atIndex with ⟨insideIndex, -⟩
      exact ⟨index, later, (List.getElem?_append_left insideIndex).trans atIndex⟩
  · rw [stored, List.append_nil]
    apply samples.unsent sent same
    intro reading looping
    rcases main with sameMain | noCopy
    · exact .inl (sameMain.symm.trans looping)
    · rw [MainThread.copied_looping looping] at noCopy
      cases noCopy

theorem SamplingNode.Samples.run {base : List (List UInt8)} {history : List Q31Reading}
    (samples : node.Samples base history) {actions : List SamplingAction} {final : SamplingNode}
    (ran : (samplingMachine fresh).run node actions = some final) :
    final.Samples base (history ++ node.storedAlong fresh actions) := by
  induction actions generalizing node history with
  | nil =>
      cases ran
      simpa [SamplingNode.storedAlong] using samples
  | cons action rest ih =>
      rcases ((samplingMachine fresh).run_cons_eq_some _ _ _ _).1 ran with
        ⟨next, stepped, continued⟩
      have later := ih (samples.step stepped) continued
      change node.step fresh action = some next at stepped
      simpa only [SamplingNode.storedAlong, stepped, List.append_assoc] using later

/-- Whatever the sensor thread, `main` and the network do in between, the payloads of
a run are those of temperatures that were in `sensor_last_value` at some time of it, in
the order in which they were there: none is made up, and after a newer one has been
sent no older one is. -/
theorem run_sends_fresh {node final : SamplingNode} {actions : List SamplingAction}
    (noCopy : node.main.copied = [])
    (ran : (samplingMachine fresh).run node actions = some final) :
    ∃ readings, final.sent = node.sent ++ readings.map sentPayload ∧
      Sampled (node.sensorLastValue.temperature :: node.storedAlong fresh actions) readings := by
  have start : node.Samples node.sent [node.sensorLastValue.temperature] :=
    { last := rfl
      sent := by
        refine ⟨[], 0, (List.append_nil _).symm, Nat.one_pos, sampledUpTo_nil _ _, ?_⟩
        intro reading looping
        rw [MainThread.copied_looping looping] at noCopy
        cases noCopy }
  rcases (start.run ran).sent with ⟨readings, bound, sent, -, sampled, -⟩
  exact ⟨readings, sent, bound, sampled⟩

def overtakenRun : List SamplingAction :=
  [.setupSensor .ready, .startCoapClient 0, .getLatestSensorValueChar, .sensorRead 0,
    .sensorGetDecoder 0, .decodeTemperature (some warmReading), .decodeHumidity none, .store,
    .client (.send true)]

theorem overtakenRun_sends_fresh :
    ∃ final readings,
      (samplingMachine numberedExchanges).run SamplingNode.start overtakenRun = some final ∧
      final.sent = readings.map sentPayload ∧
      Sampled [Q31Reading.zero, warmReading] readings := by
  obtain ⟨final, ran⟩ : ∃ final, (samplingMachine numberedExchanges).run SamplingNode.start
      overtakenRun = some final := ⟨_, rfl⟩
  rcases run_sends_fresh rfl ran with ⟨readings, sent, sampled⟩
  exact ⟨final, readings, ran, sent, sampled⟩

end ZephyrHomeHub.Node
