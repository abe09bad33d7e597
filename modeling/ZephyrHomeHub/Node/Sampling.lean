import ZephyrHomeHub.Node.CoapClient
import ZephyrHomeHub.Node.SensorHandler

/-! The sensor thread beside `main`. `main` starts to send whether or not a sensor
was found, and the thread stores what is in `temp_data` whether or not the decoder
put a frame there; both are zeros then, which print as the temperature `0.0`. -/

namespace ZephyrHomeHub.Node

open Foundation.BinaryFloat Foundation.CString Foundation.DecimalNumeral
open Foundation.LabelledMachine Foundation.NumeralText ZephyrHomeHub.Hub

/-- `struct sensor_q31_data temp_data = {0}` -/
def Q31Reading.zero : Q31Reading :=
  { value := 0, shift := 0, lower := by decide, upper := by decide, shiftLe := by decide }

structure SensorValues where
  temperature : Q31Reading
  humidity : Q31Reading

def SensorValues.zero : SensorValues :=
  { temperature := Q31Reading.zero, humidity := Q31Reading.zero }

/-- What `DEVICE_DT_GET_ANY` and `device_is_ready` find. -/
inductive SensorDevice where
  | missing
  | notReady
  | ready

/-- Where `read_sensor_values` is in its loop, with the locals it still needs. -/
inductive SensorThread where
  | notStarted
  | reading
  | gettingDecoder
  | decodingTemperature
  | decodingHumidity (temperature : Q31Reading)
  | storing (values : SensorValues)
  | waitingForTimer
  | returned

/-- In the loop, `main` holds the copy `get_latest_sensor_value_char` took for the
call it is in, until that call sends or fails. -/
inductive MainThread where
  | settingUp
  | startingClient
  | looping (copied : Option Q31Reading)
  | quit

structure SamplingNode where
  main : MainThread
  client : NodeState
  sensor : SensorThread
  sensorLastValue : SensorValues
  delivered : List Q31Reading
  sent : List (List UInt8)

/-- `sensor_last_value` is a global, so it starts as zeros. -/
def SamplingNode.start : SamplingNode :=
  { main := .settingUp
    client := NodeState.start
    sensor := .notStarted
    sensorLastValue := SensorValues.zero
    delivered := []
    sent := [] }

inductive SamplingAction where
  | setupSensor (device : SensorDevice)
  | startCoapClient (ret : Int)
  | getLatestSensorValueChar
  | client (action : NodeAction)
  | sensorRead (rc : Int)
  | sensorGetDecoder (rc : Int)
  | decodeTemperature (frame : Option Q31Reading)
  | decodeHumidity (frame : Option Q31Reading)
  | store
  | timerStatusSync

/-- `setup_sensor` returns zero in every case, and `main` goes on. -/
def SamplingNode.setupSensor (node : SamplingNode) (device : SensorDevice) :
    Option SamplingNode :=
  match node.main with
  | .settingUp =>
      some { node with
        main := .startingClient
        sensor :=
          match device with
          | .missing => node.sensor
          | .notReady => node.sensor
          | .ready => .reading }
  | _ => none

def SamplingNode.startCoapClient (node : SamplingNode) (ret : Int) : Option SamplingNode :=
  match node.main with
  | .startingClient => some { node with main := if ret < 0 then .quit else .looping none }
  | _ => none

def SamplingNode.getLatestSensorValueChar (node : SamplingNode) : Option SamplingNode :=
  match node.main, node.client.phase with
  | .looping none, .sleeping =>
      some { node with main := .looping (some node.sensorLastValue.temperature) }
  | _, _ => none

/-- The rest of the call and the network. A call sends the copy it took. -/
def SamplingNode.clientStep (fresh : FreshExchanges) (node : SamplingNode) (action : NodeAction) :
    Option SamplingNode :=
  match node.main with
  | .looping copied =>
      (node.client.step fresh action).bind fun client =>
        match action, copied with
        | .send ok, some reading =>
            some { node with
              main := .looping none
              client := client
              sent := if ok then node.sent ++ [sentPayload reading] else node.sent }
        | .send _, none => none
        | .prepareFails _, some _ => some { node with main := .looping none, client := client }
        | .prepareFails _, none => none
        | _, _ => some { node with client := client }
  | _ => none

def SamplingNode.sensorRead (node : SamplingNode) (rc : Int) : Option SamplingNode :=
  match node.sensor with
  | .reading => some { node with sensor := if rc ≠ 0 then .returned else .gettingDecoder }
  | _ => none

def SamplingNode.sensorGetDecoder (node : SamplingNode) (rc : Int) : Option SamplingNode :=
  match node.sensor with
  | .gettingDecoder =>
      some { node with sensor := if rc ≠ 0 then .returned else .decodingTemperature }
  | _ => none

/-- The value of `decode` is not looked at: without a frame `temp_data` keeps its
zeros. -/
def SamplingNode.decodeTemperature (node : SamplingNode) (frame : Option Q31Reading) :
    Option SamplingNode :=
  match node.sensor with
  | .decodingTemperature =>
      some { node with
        sensor := .decodingHumidity (frame.getD Q31Reading.zero)
        delivered := node.delivered ++ frame.toList }
  | _ => none

def SamplingNode.decodeHumidity (node : SamplingNode) (frame : Option Q31Reading) :
    Option SamplingNode :=
  match node.sensor with
  | .decodingHumidity temperature =>
      some { node with
        sensor := .storing
          { temperature := temperature, humidity := frame.getD Q31Reading.zero } }
  | _ => none

def SamplingNode.store (node : SamplingNode) : Option SamplingNode :=
  match node.sensor with
  | .storing values => some { node with sensor := .waitingForTimer, sensorLastValue := values }
  | _ => none

def SamplingNode.timerStatusSync (node : SamplingNode) : Option SamplingNode :=
  match node.sensor with
  | .waitingForTimer => some { node with sensor := .reading }
  | _ => none

def SamplingNode.step (fresh : FreshExchanges) (node : SamplingNode) :
    SamplingAction → Option SamplingNode
  | .setupSensor device => node.setupSensor device
  | .startCoapClient ret => node.startCoapClient ret
  | .getLatestSensorValueChar => node.getLatestSensorValueChar
  | .client action => node.clientStep fresh action
  | .sensorRead rc => node.sensorRead rc
  | .sensorGetDecoder rc => node.sensorGetDecoder rc
  | .decodeTemperature frame => node.decodeTemperature frame
  | .decodeHumidity frame => node.decodeHumidity frame
  | .store => node.store
  | .timerStatusSync => node.timerStatusSync

def samplingMachine (fresh : FreshExchanges) : Machine SamplingNode SamplingAction :=
  { initial := SamplingNode.start
    step := SamplingNode.step fresh }

/-- Every payload sent is the text of a temperature the decoder has delivered. -/
def SamplingNode.ReportsMeasured (node : SamplingNode) : Prop :=
  ∀ payload ∈ node.sent, ∃ reading ∈ node.delivered, payload = sentPayload reading

/-- The temperatures from 0 up to 0.01, which print as `0.0`. -/
def Q31Reading.PrintsZero (reading : Q31Reading) : Prop :=
  0 ≤ reading.value ∧ reading.exact < 1 / 100

/-- The call does not send the zeros that stand for no sample, unless the decoder
has delivered a temperature with the same text. -/
def SendsSample (node : SamplingNode) : SamplingAction → Prop
  | .client (.send true) => node.main = .looping (some Q31Reading.zero) →
      ∃ reading ∈ node.delivered, reading.PrintsZero
  | _ => True

/-! ### The text of zero -/

theorem Q31Reading.exact_zero : Q31Reading.zero.exact = 0 := by
  norm_num [Q31Reading.exact, Q31Reading.zero]

theorem Q31Reading.printsZero_zero : Q31Reading.zero.PrintsZero := by
  refine ⟨Int.le_refl 0, ?_⟩
  rw [Q31Reading.exact_zero]
  norm_num

theorem printNat_injective {left right : Nat} (same : printNat left = printNat right) :
    left = right := by
  rw [← readDigits_printNat left, same, readDigits_printNat]

theorem Q31Reading.printsZero_iff (reading : Q31Reading) :
    reading.PrintsZero ↔
      reading.priqArg.1 = [] ∧ reading.priqArg.2.1 = 0 ∧ reading.priqArg.2.2 = 0 := by
  obtain ⟨split, -⟩ := reading.priqArg_parts
  have sign : reading.priqArg.1 = [] ↔ 0 ≤ reading.value := by
    change (if reading.value < 0 then [minus] else []) = [] ↔ _
    split
    · rename_i negative
      exact iff_of_false (List.cons_ne_nil _ _) (Int.not_le.2 negative)
    · rename_i nonneg
      exact iff_of_true rfl (Int.not_lt.1 nonneg)
  have parts : reading.priqArg.2.1 = 0 ∧ reading.priqArg.2.2 = 0 ↔
      100 * |reading.exact| < 1 := by
    rw [← Nat.floor_eq_zero, split]
    omega
  rw [sign, parts]
  unfold Q31Reading.PrintsZero
  refine and_congr_right (fun nonneg => ?_)
  have exactNonneg : 0 ≤ reading.exact :=
    not_lt.1 (mt reading.exact_neg_iff.1 (Int.not_lt.2 nonneg))
  rw [abs_of_nonneg exactNonneg]
  constructor <;> intro small <;> linarith

/-- A text of three bytes leaves one to each number and none to the sign. -/
theorem getLatestSensorValueChar_eq_zero_iff (reading : Q31Reading) :
    getLatestSensorValueChar reading = getLatestSensorValueChar Q31Reading.zero ↔
      reading.PrintsZero := by
  have wholePositive := List.length_pos_of_ne_nil (printNat_ne_nil reading.priqArg.2.1)
  have fractionPositive := List.length_pos_of_ne_nil (printNat_ne_nil reading.priqArg.2.2)
  obtain ⟨zeroSign, zeroWhole, zeroFraction⟩ :=
    (Q31Reading.printsZero_iff Q31Reading.zero).1 Q31Reading.printsZero_zero
  have digitLength : (printNat 0).length = 1 := by decide
  unfold getLatestSensorValueChar
  rw [reading.printsZero_iff, zeroSign, zeroWhole, zeroFraction]
  constructor
  · intro same
    have lengths := congrArg List.length same
    simp only [List.length_append, List.length_cons, List.length_nil, digitLength] at lengths
    have noSign : reading.priqArg.1 = [] := List.length_eq_zero_iff.1 (by omega)
    rw [noSign] at same
    obtain ⟨whole, rest⟩ := List.append_inj same (by
      rw [List.nil_append, List.nil_append, digitLength]
      omega)
    exact ⟨noSign, printNat_injective whole, printNat_injective (List.cons.inj rest).2⟩
  · rintro ⟨sign, whole, fraction⟩
    rw [sign, whole, fraction]

theorem zero_not_mem_getLatestSensorValueChar (reading : Q31Reading) :
    (0 : UInt8) ∉ getLatestSensorValueChar reading := by
  rw [getLatestSensorValueChar_eq_text]
  exact Numeral.zero_not_mem_text _

theorem cstr_sentPayload (reading : Q31Reading) :
    cstr (sentPayload reading) = (getLatestSensorValueChar reading).take (payloadSize - 1) := by
  have clean := zero_not_mem_getLatestSensorValueChar reading
  rcases Nat.lt_or_ge (getLatestSensorValueChar reading).length (payloadSize - 1) with short | long
  · rw [sentPayload_eq (Nat.le_trans (Nat.succ_le_succ (Nat.le_of_lt short)) (by decide)),
      List.take_of_length_le (Nat.le_of_lt short)]
    obtain ⟨more, count⟩ := Nat.exists_eq_add_of_lt short
    have padding : payloadSize - 1 - (getLatestSensorValueChar reading).length = more + 1 := by
      omega
    rw [padding, List.replicate_succ]
    exact cstr_append_zero clean _
  · have copied : sentPayload reading =
        (getLatestSensorValueChar reading).take (payloadSize - 1) := by
      change (List.take payloadSize (_ ++ _)).take (payloadSize - 1) = _
      have whole : (getLatestSensorValueChar reading ++ [0]).take
          ((getLatestSensorValueChar reading).length + 1) =
            getLatestSensorValueChar reading ++ [0] :=
        List.take_of_length_le (Nat.le_of_eq List.length_append)
      rw [whole, List.take_take, Nat.min_eq_left (by decide), List.append_assoc,
        List.take_append_of_le_length long]
    rw [copied]
    exact cstr_of_clean (fun member => clean (List.mem_of_mem_take member))

theorem sentPayload_eq_zero_iff (reading : Q31Reading) :
    sentPayload Q31Reading.zero = sentPayload reading ↔ reading.PrintsZero := by
  rw [← getLatestSensorValueChar_eq_zero_iff]
  constructor
  · intro same
    have zeroLength : (getLatestSensorValueChar Q31Reading.zero).length = 3 := by
      obtain ⟨sign, whole, fraction⟩ :=
        (Q31Reading.printsZero_iff Q31Reading.zero).1 Q31Reading.printsZero_zero
      unfold getLatestSensorValueChar
      rw [sign, whole, fraction]
      decide
    have texts := congrArg cstr same
    rw [cstr_sentPayload, cstr_sentPayload,
      List.take_of_length_le (by rw [zeroLength]; decide)] at texts
    have lengths := congrArg List.length texts
    rw [zeroLength, List.length_take] at lengths
    rw [texts, List.take_of_length_le]
    unfold payloadSize at lengths ⊢
    omega
  · intro same
    unfold sentPayload sensorPayload
    rw [same]

/-! ### What each step can do -/

variable {fresh : FreshExchanges} {node next : SamplingNode}

def SensorThread.held : SensorThread → List Q31Reading
  | .decodingHumidity temperature => [temperature]
  | .storing values => [values.temperature]
  | _ => []

def MainThread.copied : MainThread → List Q31Reading
  | .looping (some copied) => [copied]
  | _ => []

def SamplingNode.temperatures (node : SamplingNode) : List Q31Reading :=
  node.sensorLastValue.temperature :: (node.sensor.held ++ node.main.copied)

/-- A step that sends nothing: what it has afterwards it had before, or it is what
the decoder left in `temp_data`. -/
structure SamplingNode.Quiet (node next : SamplingNode) : Prop where
  sent : next.sent = node.sent
  delivered : node.delivered ⊆ next.delivered
  temperatures : ∀ reading ∈ next.temperatures,
    reading ∈ node.temperatures ∨ reading = Q31Reading.zero ∨ reading ∈ next.delivered

private theorem quiet_of_subset (sent : next.sent = node.sent)
    (delivered : next.delivered = node.delivered)
    (temperatures : next.temperatures ⊆ node.temperatures) : node.Quiet next :=
  { sent := sent
    delivered := delivered ▸ List.Subset.refl _
    temperatures := fun _ member => Or.inl (temperatures member) }

private theorem quiet_of_copied (sent : next.sent = node.sent)
    (delivered : next.delivered = node.delivered) (sensor : next.sensor = node.sensor)
    (lastValue : next.sensorLastValue = node.sensorLastValue)
    (copied : next.main.copied ⊆ node.main.copied) : node.Quiet next := by
  refine quiet_of_subset sent delivered ?_
  unfold SamplingNode.temperatures
  rw [sensor, lastValue]
  exact List.cons_subset_cons _ (List.append_subset.2
    ⟨List.subset_append_left _ _, List.Subset.trans copied (List.subset_append_right _ _)⟩)

private theorem quiet_of_held (sent : next.sent = node.sent)
    (delivered : next.delivered = node.delivered) (main : next.main = node.main)
    (lastValue : next.sensorLastValue = node.sensorLastValue)
    (held : next.sensor.held ⊆ node.sensor.held) : node.Quiet next := by
  refine quiet_of_subset sent delivered ?_
  unfold SamplingNode.temperatures
  rw [main, lastValue]
  exact List.cons_subset_cons _ (List.append_subset.2
    ⟨List.Subset.trans held (List.subset_append_left _ _), List.subset_append_right _ _⟩)

theorem SamplingNode.clientStep_cases {action : NodeAction}
    (stepped : node.clientStep fresh action = some next) :
    (∃ reading, action = .send true ∧ node.main = .looping (some reading) ∧
        next.main = .looping none ∧ next.sent = node.sent ++ [sentPayload reading] ∧
        next.delivered = node.delivered ∧ next.sensor = node.sensor ∧
        next.sensorLastValue = node.sensorLastValue) ∨
      (action ≠ .send true ∧ node.Quiet next) := by
  unfold SamplingNode.clientStep at stepped
  cases main : node.main with
  | looping copied =>
      rw [main] at stepped
      obtain ⟨client, -, took⟩ := Option.bind_eq_some_iff.1 stepped
      have kept : node.Quiet { node with main := .looping copied, client := client } :=
        quiet_of_copied rfl rfl rfl rfl (by rw [main]; exact List.Subset.refl _)
      have cleared : node.Quiet { node with main := .looping none, client := client } :=
        quiet_of_copied rfl rfl rfl rfl (List.nil_subset _)
      cases action with
      | send ok =>
          cases copied with
          | none => cases took
          | some reading =>
              cases ok with
              | true =>
                  cases took
                  exact .inl ⟨reading, rfl, rfl, rfl, rfl, rfl, rfl, rfl⟩
              | false =>
                  cases took
                  refine .inr ⟨?_, cleared⟩
                  intro same
                  cases same
      | prepareFails errno =>
          cases copied with
          | none => cases took
          | some reading =>
              cases took
              exact .inr ⟨NodeAction.noConfusion, cleared⟩
      | _ =>
          cases took
          exact .inr ⟨NodeAction.noConfusion, kept⟩
  | settingUp =>
      rw [main] at stepped
      cases stepped
  | startingClient =>
      rw [main] at stepped
      cases stepped
  | quit =>
      rw [main] at stepped
      cases stepped

private theorem setUp_quiet {device : SensorDevice}
    (stepped : node.setupSensor device = some next) : node.Quiet next := by
  unfold SamplingNode.setupSensor at stepped
  split at stepped
  · cases stepped
    refine quiet_of_subset rfl rfl (List.cons_subset_cons _ ?_)
    cases device with
    | missing => exact List.append_subset.2 ⟨List.subset_append_left _ _, List.nil_subset _⟩
    | notReady => exact List.append_subset.2 ⟨List.subset_append_left _ _, List.nil_subset _⟩
    | ready => exact List.nil_subset _
  · cases stepped

private theorem startCoapClient_quiet {ret : Int}
    (stepped : node.startCoapClient ret = some next) : node.Quiet next := by
  unfold SamplingNode.startCoapClient at stepped
  split at stepped
  · cases stepped
    refine quiet_of_copied rfl rfl rfl rfl ?_
    change MainThread.copied (if ret < 0 then .quit else .looping none) ⊆ _
    split
    · exact List.nil_subset _
    · exact List.nil_subset _
  · cases stepped

private theorem getLatestSensorValueChar_quiet
    (stepped : node.getLatestSensorValueChar = some next) : node.Quiet next := by
  unfold SamplingNode.getLatestSensorValueChar at stepped
  split at stepped
  · cases stepped
    refine quiet_of_subset rfl rfl (List.cons_subset.2 ⟨List.mem_cons_self, ?_⟩)
    refine List.append_subset.2 ⟨?_, ?_⟩
    · exact List.Subset.trans (List.subset_append_left _ _) (List.subset_cons_self _ _)
    · exact List.cons_subset.2 ⟨List.mem_cons_self, List.nil_subset _⟩
  · cases stepped

private theorem decodeTemperature_quiet {frame : Option Q31Reading}
    (stepped : node.decodeTemperature frame = some next) : node.Quiet next := by
  unfold SamplingNode.decodeTemperature at stepped
  split at stepped
  · cases stepped
    refine ⟨rfl, List.subset_append_left _ _, ?_⟩
    intro reading member
    rcases List.mem_cons.1 member with stored | member
    · exact .inl (List.mem_cons.2 (.inl stored))
    rcases List.mem_append.1 member with held | copied
    · cases List.mem_singleton.1 held
      cases frame with
      | none => exact .inr (.inl rfl)
      | some reading => exact .inr (.inr (List.mem_append_right _ List.mem_cons_self))
    · exact .inl (List.mem_cons_of_mem _ (List.mem_append_right _ copied))
  · cases stepped

private theorem store_quiet (stepped : node.store = some next) : node.Quiet next := by
  unfold SamplingNode.store at stepped
  split at stepped
  · rename_i values sensor
    cases stepped
    refine quiet_of_subset rfl rfl (List.cons_subset.2 ⟨?_, ?_⟩)
    · unfold SamplingNode.temperatures
      rw [sensor]
      exact List.mem_cons_of_mem _ List.mem_cons_self
    · exact List.Subset.trans (List.subset_append_right _ _) (List.subset_cons_self _ _)
  · cases stepped

theorem SamplingNode.step_cases {action : SamplingAction}
    (stepped : node.step fresh action = some next) :
    (∃ reading, action = .client (.send true) ∧ node.main = .looping (some reading) ∧
        next.main = .looping none ∧ next.sent = node.sent ++ [sentPayload reading] ∧
        next.delivered = node.delivered ∧ next.sensor = node.sensor ∧
        next.sensorLastValue = node.sensorLastValue) ∨
      (action ≠ .client (.send true) ∧ node.Quiet next) := by
  cases action with
  | client action =>
      rcases SamplingNode.clientStep_cases stepped with ⟨reading, rfl, sends⟩ | ⟨other, quiet⟩
      · exact .inl ⟨reading, rfl, sends⟩
      · exact .inr ⟨fun same => other (SamplingAction.client.inj same), quiet⟩
  | setupSensor device => exact .inr ⟨SamplingAction.noConfusion, setUp_quiet stepped⟩
  | startCoapClient ret => exact .inr ⟨SamplingAction.noConfusion, startCoapClient_quiet stepped⟩
  | getLatestSensorValueChar =>
      exact .inr ⟨SamplingAction.noConfusion, getLatestSensorValueChar_quiet stepped⟩
  | sensorRead rc =>
      refine .inr ⟨SamplingAction.noConfusion, ?_⟩
      change node.sensorRead rc = some next at stepped
      unfold SamplingNode.sensorRead at stepped
      split at stepped
      · cases stepped
        refine quiet_of_held rfl rfl rfl rfl ?_
        by_cases failed : rc ≠ 0
        · simp only [if_pos failed]
          exact List.nil_subset _
        · simp only [if_neg failed]
          exact List.nil_subset _
      · cases stepped
  | sensorGetDecoder rc =>
      refine .inr ⟨SamplingAction.noConfusion, ?_⟩
      change node.sensorGetDecoder rc = some next at stepped
      unfold SamplingNode.sensorGetDecoder at stepped
      split at stepped
      · cases stepped
        refine quiet_of_held rfl rfl rfl rfl ?_
        by_cases failed : rc ≠ 0
        · simp only [if_pos failed]
          exact List.nil_subset _
        · simp only [if_neg failed]
          exact List.nil_subset _
      · cases stepped
  | decodeTemperature frame =>
      exact .inr ⟨SamplingAction.noConfusion, decodeTemperature_quiet stepped⟩
  | decodeHumidity frame =>
      refine .inr ⟨SamplingAction.noConfusion, ?_⟩
      change node.decodeHumidity frame = some next at stepped
      unfold SamplingNode.decodeHumidity at stepped
      split at stepped
      · rename_i temperature sensor
        cases stepped
        refine quiet_of_held rfl rfl rfl rfl ?_
        rw [sensor]
        exact List.Subset.refl _
      · cases stepped
  | store => exact .inr ⟨SamplingAction.noConfusion, store_quiet stepped⟩
  | timerStatusSync =>
      refine .inr ⟨SamplingAction.noConfusion, ?_⟩
      change node.timerStatusSync = some next at stepped
      unfold SamplingNode.timerStatusSync at stepped
      split at stepped
      · cases stepped
        exact quiet_of_held rfl rfl rfl rfl (List.nil_subset _)
      · cases stepped

/-! ### What the node reports -/

/-- A temperature in the node stands for no sample, or the decoder delivered it. -/
def SamplingNode.Known (node : SamplingNode) : Prop :=
  ∀ reading ∈ node.temperatures, reading = Q31Reading.zero ∨ reading ∈ node.delivered

theorem known_start : SamplingNode.start.Known := by
  intro reading member
  cases List.mem_singleton.1 member
  exact .inl rfl

theorem SamplingNode.known_copied {reading : Q31Reading} (known : node.Known)
    (main : node.main = .looping (some reading)) :
    reading = Q31Reading.zero ∨ reading ∈ node.delivered := by
  apply known
  unfold SamplingNode.temperatures
  rw [main]
  exact List.mem_cons_of_mem _ (List.mem_append_right _ List.mem_cons_self)

theorem known_step {action : SamplingAction} (known : node.Known)
    (stepped : node.step fresh action = some next) : next.Known := by
  rcases SamplingNode.step_cases stepped with
    ⟨copied, -, -, main, -, delivered, sensor, lastValue⟩ | ⟨-, quiet⟩
  · intro reading member
    rw [delivered]
    refine known reading ?_
    unfold SamplingNode.temperatures at member ⊢
    rw [main, sensor, lastValue] at member
    have kept : node.sensor.held ++ [] ⊆ node.sensor.held ++ node.main.copied :=
      List.append_subset.2 ⟨List.subset_append_left _ _, List.nil_subset _⟩
    exact List.cons_subset_cons _ kept member
  · intro reading member
    rcases quiet.temperatures reading member with before | known'
    · rcases known reading before with zero | earlier
      · exact .inl zero
      · exact .inr (quiet.delivered earlier)
    · exact known'

theorem SamplingNode.Quiet.reportsMeasured (quiet : node.Quiet next)
    (measured : node.ReportsMeasured) : next.ReportsMeasured := by
  intro payload member
  rw [quiet.sent] at member
  obtain ⟨reading, earlier, same⟩ := measured payload member
  exact ⟨reading, quiet.delivered earlier, same⟩

/-- The copy of a call is a measured temperature, or it reads as one exactly when a
temperature that prints as zero was delivered. -/
private theorem reportsMeasured_step_iff {action : SamplingAction} (known : node.Known)
    (measured : node.ReportsMeasured) (stepped : node.step fresh action = some next) :
    next.ReportsMeasured ↔ SendsSample node action := by
  rcases SamplingNode.step_cases stepped with
    ⟨copied, rfl, main, -, sent, delivered, -⟩ | ⟨other, quiet⟩
  · unfold SamplingNode.ReportsMeasured
    rw [sent, delivered]
    constructor
    · intro reported zeroCopied
      rw [main] at zeroCopied
      cases zeroCopied
      obtain ⟨reading, earlier, same⟩ :=
        reported (sentPayload Q31Reading.zero) (List.mem_append_right _ List.mem_cons_self)
      exact ⟨reading, earlier, (sentPayload_eq_zero_iff reading).1 same⟩
    · intro sample payload member
      rcases List.mem_append.1 member with before | last
      · exact measured payload before
      cases List.mem_singleton.1 last
      rcases SamplingNode.known_copied known main with rfl | earlier
      · obtain ⟨reading, earlier, prints⟩ := sample main
        exact ⟨reading, earlier, (sentPayload_eq_zero_iff reading).2 prints⟩
      · exact ⟨copied, earlier, rfl⟩
  · refine iff_of_true (quiet.reportsMeasured measured) ?_
    unfold SendsSample
    split
    · exact absurd rfl other
    · trivial

/-- A run reports measured temperatures only, exactly when no call sends the zeros
that stand for no sample before a temperature that prints like them was delivered. -/
theorem run_reportsMeasured_iff (fresh : FreshExchanges) (actions : List SamplingAction) :
    (samplingMachine fresh).Always SamplingNode.ReportsMeasured SamplingNode.start actions ↔
      (samplingMachine fresh).Guarded SendsSample SamplingNode.start actions :=
  (samplingMachine fresh).always_iff_guarded (fun _ => True) SamplingNode.Known
    SamplingNode.ReportsMeasured SendsSample
    (fun _ _ _ _ known stepped => known_step known stepped)
    (fun _ _ _ _ known measured stepped => reportsMeasured_step_iff known measured stepped)
    SamplingNode.start actions (fun _ _ => trivial) known_start (fun _ sent => nomatch sent)

def unpluggedRun : List SamplingAction :=
  [.setupSensor .missing, .startCoapClient 0, .getLatestSensorValueChar, .client (.send true)]

theorem unpluggedRun_reports :
    ∃ node, (samplingMachine numberedExchanges).run SamplingNode.start unpluggedRun = some node ∧
      node.delivered = [] ∧ node.sent = [sentPayload Q31Reading.zero] ∧ ¬node.ReportsMeasured := by
  refine ⟨_, rfl, rfl, rfl, fun measured => ?_⟩
  obtain ⟨reading, earlier, -⟩ := measured _ List.mem_cons_self
  cases earlier

end ZephyrHomeHub.Node
