import ZephyrHomeHub.Foundation.NumeralText
import ZephyrHomeHub.Hub.PostedMessage

/-! Whether the message of a request depends on what the stack held before the
call. `query_opt.value` is read past the bytes of an option shorter than three,
and `payload_str` is read although no payload was copied into it. -/

namespace ZephyrHomeHub.Hub

open Foundation.BinaryFloat Foundation.CString Foundation.DecimalNumeral Foundation.NumeralText

/-- Two calls that differ in their uninitialised locals only submit one message. -/
def DependsOnRequestOnly (request : PostRequest) : Prop :=
  ∀ (uptime : Int) (locals other : PostLocals),
    tempNodePost uptime locals request = tempNodePost uptime other request

/-- The option found first reaches the byte after `id=`, and there is a payload. -/
structure FillsLocals (request : PostRequest) : Prop where
  query : ∀ value ∈ request.uriQuery.head?, value.length ≤ optionValueSize → 3 ≤ value.length
  payload : 0 < payloadLen request.payload

theorem tempNodePost_temperature (uptime : Int) (locals : PostLocals) (request : PostRequest) :
    (tempNodePost uptime locals request).temperature =
      ((strtod (postedText request.payload locals.payloadStr)).round binary64).round binary32 := by
  rw [← cstr_payloadText, strtod_cstr]
  rfl

theorem tempNodePost_congr {uptime : Int} {locals other : PostLocals} {request : PostRequest}
    (sameId : postedId locals.queryOpt request.uriQuery =
      postedId other.queryOpt request.uriQuery)
    (sameText : postedText request.payload locals.payloadStr =
      postedText request.payload other.payloadStr) :
    tempNodePost uptime locals request = tempNodePost uptime other request := by
  have ids : cstr (queryNodeId (coapFindOptions request.uriQuery locals.queryOpt)).toList =
      cstr (queryNodeId (coapFindOptions request.uriQuery other.queryOpt)).toList := by
    rw [cstr_queryNodeId, cstr_queryNodeId, sameId]
  have temperatures : (tempNodePost uptime locals request).temperature =
      (tempNodePost uptime other request).temperature := by
    rw [tempNodePost_temperature, tempNodePost_temperature, sameText]
  unfold tempNodePost at temperatures ⊢
  rw [StringBuffer.strncpy_congr ids]
  simp only [TempDataMsg.mk.injEq, true_and, and_true]
  exact temperatures

theorem postedId_filled {value : List UInt8}
    (filled : value.length ≤ optionValueSize → 3 ≤ value.length) (others : List (List UInt8))
    (queryOpt : CoapOption) :
    postedId queryOpt (value :: others) =
      if value.length ≤ optionValueSize then cstr (value.drop 3) else [] := by
  rw [postedId]
  split
  · rename_i fits
    rw [if_neg (Nat.not_lt.2 (filled fits))]
  · rfl

def localsWith (byte : UInt8) (payloadStr : Buffer payloadStrSize) : PostLocals :=
  { queryOpt := { len := 0, value := List.Vector.replicate optionValueSize byte }
    payloadStr := payloadStr }

def leftoverText (text : List UInt8) : Buffer payloadStrSize :=
  (Buffer.zero payloadStrSize).memcpy text text.length

/-- An option too short for an id gives the nine bytes of the local's value. -/
theorem postedId_short {value : List UInt8} (short : value.length < 3)
    (others : List (List UInt8)) (byte : UInt8) (payloadStr : Buffer payloadStrSize) :
    postedId (localsWith byte payloadStr).queryOpt (value :: others) =
      cstr (List.replicate (nodeIdLen - 1) byte) := by
  have fits : value.length ≤ optionValueSize := Nat.le_trans (Nat.le_of_lt short) (by decide)
  rw [postedId, if_pos fits, if_pos short]
  rfl

theorem shortQuery_depends {request : PostRequest} {value : List UInt8}
    (first : value ∈ request.uriQuery.head?) (short : value.length < 3) :
    ¬DependsOnRequestOnly request := by
  intro independent
  rcases List.head?_eq_some_iff.1 first with ⟨others, uriQuery⟩
  have same := congrArg TempDataMsg.id (independent 0
    (localsWith 0 (Buffer.zero payloadStrSize)) (localsWith 65 (Buffer.zero payloadStrSize)))
  rw [tempNodePost_id, tempNodePost_id, uriQuery, postedId_short short, postedId_short short]
    at same
  exact absurd same (by decide)

theorem noPayload_depends {request : PostRequest} (absent : ¬0 < payloadLen request.payload) :
    ¬DependsOnRequestOnly request := by
  intro independent
  have same := congrArg TempDataMsg.temperature (independent 0
    (localsWith 0 (leftoverText infWord)) (localsWith 0 (leftoverText nanWord)))
  rw [tempNodePost_temperature, tempNodePost_temperature, postedText, postedText,
    if_neg absent, if_neg absent] at same
  have infinite : strtod (cstr (leftoverText infWord).toList) = .infinite false := rfl
  have notANumber : strtod (cstr (leftoverText nanWord).toList) = .nan false := rfl
  change ((strtod (cstr (leftoverText infWord).toList)).round binary64).round binary32 =
    ((strtod (cstr (leftoverText nanWord).toList)).round binary64).round binary32 at same
  rw [infinite, notANumber] at same
  cases same

/-- The message depends on the request and the clock alone exactly when the first
option found has at least three bytes and the payload is not empty. -/
theorem message_dependsOnRequestOnly_iff (request : PostRequest) :
    DependsOnRequestOnly request ↔ FillsLocals request := by
  constructor
  · intro independent
    refine ⟨?_, ?_⟩
    · intro value first _
      by_contra short
      exact shortQuery_depends first (Nat.not_le.1 short) independent
    · by_contra absent
      exact noPayload_depends absent independent
  · rintro ⟨query, payload⟩ uptime locals other
    apply tempNodePost_congr
    · cases uriQuery : request.uriQuery with
      | nil => rfl
      | cons value others =>
          rw [uriQuery] at query
          have filled := query value rfl
          rw [postedId_filled filled, postedId_filled filled]
    · rw [postedText, postedText, if_pos payload, if_pos payload]

/-- The query `id` with the payload `1`, and the query `id=A` without a payload. -/
theorem shortQuery_and_noPayload_depend :
    ¬DependsOnRequestOnly { uriQuery := [[105, 100]], payload := [49] } ∧
      ¬DependsOnRequestOnly { uriQuery := [[105, 100, 61, 65]], payload := [] } :=
  ⟨shortQuery_depends rfl (by decide), noPayload_depends (by decide)⟩

end ZephyrHomeHub.Hub
