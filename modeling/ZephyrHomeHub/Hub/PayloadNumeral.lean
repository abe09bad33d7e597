import ZephyrHomeHub.Hub.ClockedHub
import ZephyrHomeHub.Hub.LocalsIndependence

/-! Which payloads become readings, and of what temperature. `atof` reports no error
and its argument is a copy of at most 63 bytes, so every payload becomes a reading:
zero for what is no number, the number at the start of a longer text, and the
number of the first 63 bytes of a longer numeral. -/

namespace ZephyrHomeHub.Hub

open Foundation.BinaryFloat Foundation.CString Foundation.DecimalNumeral
open Foundation.LabelledMachine Foundation.NumeralText

def submittedMessage (uptime : Int) (locals : PostLocals) (request : PostRequest) :
    Option TempDataMsg :=
  some (tempNodePost uptime locals request)

def readNumber (locals : PostLocals) (request : PostRequest) : Number :=
  strtod (payloadText request.payload locals.payloadStr).toList

/-- A message is submitted only when the payload is a decimal numeral, and its
temperature is then the number that the whole numeral denotes, rounded. -/
def SubmitsNumeralsOnly (request : PostRequest) : Prop :=
  ∀ (uptime : Int) (locals : PostLocals),
    (∀ msg ∈ submittedMessage uptime locals request, ∃ numeral : Numeral,
        cstr request.payload = numeral.text ∧
          (readNumber locals request).toRat = some numeral.value ∧
          msg.temperature = ((readNumber locals request).round binary64).round binary32) ∧
      ((∀ numeral : Numeral, cstr request.payload ≠ numeral.text) →
        submittedMessage uptime locals request = none)

/-- The payload is a numeral and not cut short of its value: the bytes that are
copied denote the same number. -/
def NumeralSurvivesCopy (payload : List UInt8) : Prop :=
  0 < payloadLen payload ∧ ∃ numeral : Numeral, cstr payload = numeral.text ∧
    (strtod (numeral.text.take (payloadCopyLength (payloadLen payload)))).toRat =
      some numeral.value

theorem readNumber_eq (locals : PostLocals) (request : PostRequest) :
    readNumber locals request = strtod (postedText request.payload locals.payloadStr) := by
  rw [readNumber, ← cstr_payloadText, strtod_cstr]

theorem readNumber_copied {request : PostRequest} (present : 0 < payloadLen request.payload)
    (locals : PostLocals) :
    readNumber locals request =
      strtod ((cstr request.payload).take (payloadCopyLength (payloadLen request.payload))) := by
  rw [readNumber_eq, postedText, if_pos present, cstr_take]

theorem numeralSurvivesCopy_short {payload : List UInt8} (received : payload.length < uint16Modulus)
    (short : (cstr payload).length < payloadStrSize) {numeral : Numeral}
    (isNumeral : cstr payload = numeral.text) : NumeralSurvivesCopy payload := by
  have textPositive := List.length_pos_of_ne_nil (numeral.text_ne_nil)
  have textLe := cstr_length_le payload
  rw [isNumeral] at textLe short
  have lenEq : payloadLen payload = payload.length := Nat.mod_eq_of_lt received
  refine ⟨by omega, numeral, isNumeral, ?_⟩
  rw [lenEq, List.take_of_length_le, toRat_strtod_text]
  unfold payloadCopyLength
  unfold payloadStrSize at short ⊢
  split <;> omega

private theorem numeral_of_submits {request : PostRequest} (submits : SubmitsNumeralsOnly request)
    (locals : PostLocals) :
    ∃ numeral : Numeral, cstr request.payload = numeral.text ∧
      (readNumber locals request).toRat = some numeral.value := by
  rcases (submits 0 locals).1 _ rfl with ⟨numeral, isNumeral, whole, -⟩
  exact ⟨numeral, isNumeral, whole⟩

theorem submitsNumeralsOnly_of_survives {request : PostRequest}
    (survives : NumeralSurvivesCopy request.payload) : SubmitsNumeralsOnly request := by
  rcases survives with ⟨present, numeral, isNumeral, whole⟩
  intro uptime locals
  refine ⟨?_, fun garbage => absurd isNumeral (garbage numeral)⟩
  intro msg submitted
  cases submitted
  refine ⟨numeral, isNumeral, ?_, rfl⟩
  rw [readNumber_copied present, isNumeral]
  exact whole

/-- Without a payload `atof` reads what `payload_str` held before. -/
theorem survives_of_submitsNumeralsOnly {request : PostRequest}
    (submits : SubmitsNumeralsOnly request) : NumeralSurvivesCopy request.payload := by
  have present : 0 < payloadLen request.payload := by
    by_contra absent
    rcases numeral_of_submits submits (localsWith 0 (leftoverText infWord)) with
      ⟨numeral, -, whole⟩
    rw [readNumber_eq, postedText, if_neg absent] at whole
    have infinite : strtod (cstr (leftoverText infWord).toList) = .infinite false := rfl
    change (strtod (cstr (leftoverText infWord).toList)).toRat = _ at whole
    rw [infinite] at whole
    cases whole
  rcases numeral_of_submits submits (localsWith 0 (Buffer.zero payloadStrSize)) with
    ⟨numeral, isNumeral, whole⟩
  rw [readNumber_copied present, isNumeral] at whole
  exact ⟨present, numeral, isNumeral, whole⟩

/-- A request submits numerals only exactly when its payload is a numeral whose
copied bytes denote the same number. A numeral of at most 63 bytes always does. -/
theorem submitsNumeralsOnly_iff (request : PostRequest) :
    (SubmitsNumeralsOnly request ↔ NumeralSurvivesCopy request.payload) ∧
      (request.payload.length < uint16Modulus →
        (cstr request.payload).length < payloadStrSize →
        (SubmitsNumeralsOnly request ↔
          ∃ numeral : Numeral, cstr request.payload = numeral.text)) := by
  have general : SubmitsNumeralsOnly request ↔ NumeralSurvivesCopy request.payload :=
    ⟨survives_of_submitsNumeralsOnly, submitsNumeralsOnly_of_survives⟩
  refine ⟨general, fun received short => general.trans ⟨?_, ?_⟩⟩
  · rintro ⟨-, numeral, isNumeral, -⟩
    exact ⟨numeral, isNumeral⟩
  · rintro ⟨numeral, isNumeral⟩
    exact numeralSurvivesCopy_short received short isNumeral

/-- The payload of the README's example,
`{"node_id": "ABC123", "temp": 25.3, "hum": 67.8}` -/
def readmePayload : List UInt8 :=
  [123, 34, 110, 111, 100, 101, 95, 105, 100, 34, 58, 32, 34, 65, 66, 67, 49, 50, 51, 34, 44, 32,
    34, 116, 101, 109, 112, 34, 58, 32, 50, 53, 46, 51, 44, 32, 34, 104, 117, 109, 34, 58, 32, 54,
    55, 46, 56, 125]

def readmeRequest : PostRequest :=
  { uriQuery := [[105, 100, 61, 65, 66, 67, 49, 50, 51]], payload := readmePayload }

def readmeRun : List ClockedAction :=
  .thread .uiWorkQueueInit ::
    deliveryRun (localsWith 0 (Buffer.zero payloadStrSize)) readmeRequest ++
      [.msgqGet, .loopBody true true]

/-- The README's payload is no number, and zero degrees enter the node's history. -/
theorem readmeRequest_recorded_as_zero :
    ¬SubmitsNumeralsOnly readmeRequest ∧
      ∃ hub, clockedMachine.run ClockedHub.boot readmeRun = some hub ∧
        (hub.nodes ⟨0, by decide⟩).used = true ∧
        (hub.nodes ⟨0, by decide⟩).readHistory.map SensorData.temp = [.zero] := by
  constructor
  · intro submits
    rcases numeral_of_submits submits (localsWith 0 (Buffer.zero payloadStrSize)) with
      ⟨numeral, isNumeral, -⟩
    obtain ⟨byte, first, kind⟩ := numeral.starts
    rw [← isNumeral] at first
    cases first
    revert kind
    decide
  · refine ⟨_, rfl, rfl, ?_⟩
    change [(tempNodePost 0 (localsWith 0 (Buffer.zero payloadStrSize))
      readmeRequest).temperature] = [.zero]
    have garbage : strtod (postedText readmeRequest.payload (Buffer.zero payloadStrSize)) =
      .zero := rfl
    rw [tempNodePost_temperature]
    change [((strtod (postedText readmeRequest.payload (Buffer.zero payloadStrSize))).round
      binary64).round binary32] = _
    rw [garbage, Number.round_zero, Number.round_zero]

end ZephyrHomeHub.Hub
