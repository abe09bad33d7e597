import ZephyrHomeHub.Node.Sampling

/-! The steps of the sampling node as a relation: for each action the states it is
possible in and what it changes. -/

namespace ZephyrHomeHub.Node

def SamplingAction.Senses : SamplingAction → Prop
  | .sensorRead _ => True
  | .sensorGetDecoder _ => True
  | .decodeTemperature _ => True
  | .decodeHumidity _ => True
  | .timerStatusSync => True
  | _ => False

structure NodeAction.KeepsCopy (action : NodeAction) : Prop where
  notSend : ∀ ok, action ≠ .send ok
  notPrepare : ∀ errno, action ≠ .prepareFails errno

inductive SamplingNode.Moves (fresh : FreshExchanges) (node : SamplingNode) :
    SamplingAction → SamplingNode → Prop where
  | setUp (device : SensorDevice) (sensor : SensorThread) (main : node.main = .settingUp) :
      Moves fresh node (.setupSensor device)
        { node with main := .startingClient, sensor := sensor }
  | startClient (ret : Int) (main : node.main = .startingClient) :
      Moves fresh node (.startCoapClient ret)
        { node with main := if ret < 0 then .quit else .looping none }
  | copy (main : node.main = .looping none) :
      Moves fresh node .getLatestSensorValueChar
        { node with main := .looping (some node.sensorLastValue.temperature) }
  | send (ok : Bool) (reading : Q31Reading) (client : NodeState)
      (main : node.main = .looping (some reading))
      (moved : node.client.step fresh (.send ok) = some client) :
      Moves fresh node (.client (.send ok))
        { node with
          main := .looping none
          client := client
          sent := if ok then node.sent ++ [sentPayload reading] else node.sent }
  | prepareFails (errno : Nat) (reading : Q31Reading) (client : NodeState)
      (main : node.main = .looping (some reading))
      (moved : node.client.step fresh (.prepareFails errno) = some client) :
      Moves fresh node (.client (.prepareFails errno))
        { node with main := .looping none, client := client }
  | client (inner : NodeAction) (copied : Option Q31Reading) (client : NodeState)
      (keeps : inner.KeepsCopy) (main : node.main = .looping copied)
      (moved : node.client.step fresh inner = some client) :
      Moves fresh node (.client inner) { node with client := client }
  | sense (action : SamplingAction) (sensor : SensorThread) (delivered : List Q31Reading)
      (senses : action.Senses) :
      Moves fresh node action { node with sensor := sensor, delivered := delivered }
  | store (values : SensorValues) (sensor : node.sensor = .storing values) :
      Moves fresh node .store
        { node with sensor := .waitingForTimer, sensorLastValue := values }

variable {fresh : FreshExchanges} {node next : SamplingNode}

private theorem clientStep_moves {inner : NodeAction}
    (stepped : node.clientStep fresh inner = some next) :
    node.Moves fresh (.client inner) next := by
  unfold SamplingNode.clientStep at stepped
  split at stepped
  · rename_i copied main
    rcases Option.bind_eq_some_iff.1 stepped with ⟨client, moved, took⟩
    split at took
    · rename_i ok reading
      cases took
      exact .send ok reading client main moved
    · cases took
    · rename_i errno reading
      cases took
      exact .prepareFails errno reading client main moved
    · cases took
    · rename_i notSend noSend notPrepare noPrepare
      cases took
      refine .client inner copied client ⟨?_, ?_⟩ main moved
      · intro ok same
        cases copied with
        | none => exact noSend ok same rfl
        | some reading => exact notSend ok reading same rfl
      · intro errno same
        cases copied with
        | none => exact noPrepare errno same rfl
        | some reading => exact notPrepare errno reading same rfl
  · cases stepped

theorem SamplingNode.step_moves {action : SamplingAction}
    (stepped : node.step fresh action = some next) : node.Moves fresh action next := by
  cases action with
  | client inner => exact clientStep_moves stepped
  | setupSensor device =>
      change node.setupSensor device = some next at stepped
      unfold SamplingNode.setupSensor at stepped
      split at stepped
      · rename_i main
        cases stepped
        exact .setUp device _ main
      · cases stepped
  | startCoapClient ret =>
      change node.startCoapClient ret = some next at stepped
      unfold SamplingNode.startCoapClient at stepped
      split at stepped
      · rename_i main
        cases stepped
        exact .startClient ret main
      · cases stepped
  | getLatestSensorValueChar =>
      change node.getLatestSensorValueChar = some next at stepped
      unfold SamplingNode.getLatestSensorValueChar at stepped
      split at stepped
      · rename_i main phase
        cases stepped
        exact .copy main
      · cases stepped
  | sensorRead rc =>
      change node.sensorRead rc = some next at stepped
      unfold SamplingNode.sensorRead at stepped
      split at stepped
      · cases stepped
        exact .sense _ _ node.delivered trivial
      · cases stepped
  | sensorGetDecoder rc =>
      change node.sensorGetDecoder rc = some next at stepped
      unfold SamplingNode.sensorGetDecoder at stepped
      split at stepped
      · cases stepped
        exact .sense _ _ node.delivered trivial
      · cases stepped
  | decodeTemperature frame =>
      change node.decodeTemperature frame = some next at stepped
      unfold SamplingNode.decodeTemperature at stepped
      split at stepped
      · cases stepped
        exact .sense _ _ _ trivial
      · cases stepped
  | decodeHumidity frame =>
      change node.decodeHumidity frame = some next at stepped
      unfold SamplingNode.decodeHumidity at stepped
      split at stepped
      · cases stepped
        exact .sense _ _ node.delivered trivial
      · cases stepped
  | store =>
      change node.store = some next at stepped
      unfold SamplingNode.store at stepped
      split at stepped
      · rename_i values sensor
        cases stepped
        exact .store values sensor
      · cases stepped
  | timerStatusSync =>
      change node.timerStatusSync = some next at stepped
      unfold SamplingNode.timerStatusSync at stepped
      split at stepped
      · cases stepped
        exact .sense _ _ node.delivered trivial
      · cases stepped

end ZephyrHomeHub.Node
