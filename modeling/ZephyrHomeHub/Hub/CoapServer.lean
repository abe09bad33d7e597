import ZephyrHomeHub.Foundation.DecimalNumeral
import ZephyrHomeHub.Hub.DataModel

/-! `temp_node_post`, up to the message it submits. The locals it may read before
they are written are parameters. -/

namespace ZephyrHomeHub.Hub

open Foundation.BinaryFloat Foundation.CString Foundation.DecimalNumeral

def sizeTModulus : Nat := 2 ^ 32

def uint16Modulus : Nat := 2 ^ 16

def optionValueSize : Nat := 12

def payloadStrSize : Nat := 64

structure CoapOption where
  len : Nat
  value : Buffer optionValueSize

structure PostRequest where
  uriQuery : List (List UInt8)
  payload : List UInt8

/-- `query_opt` and `payload_str` as the function finds them. -/
structure PostLocals where
  queryOpt : CoapOption
  payloadStr : Buffer payloadStrSize

/-- `coap_find_options` with room for one option. It writes no byte of the value
after the option's length, and an option longer than the value is an error. -/
def coapFindOptions (options : List (List UInt8)) (queryOpt : CoapOption) : Int × CoapOption :=
  match options with
  | [] => (0, queryOpt)
  | value :: _ =>
      if value.length ≤ optionValueSize then
        (1, { len := value.length, value := queryOpt.value.memcpy value value.length })
      else (-22, queryOpt)

/-- `MIN(query_opt.len - 3, sizeof(node_id) - 1)`. The macro compares in `size_t`,
so a length below three wraps to a huge one. -/
def idCopyLength (optionLen : Nat) : Nat :=
  if (optionLen + sizeTModulus - 3) % sizeTModulus < nodeIdLen - 1 then
    (optionLen + sizeTModulus - 3) % sizeTModulus
  else nodeIdLen - 1

def queryNodeId (found : Int × CoapOption) : Buffer nodeIdLen :=
  if 0 < found.1 then
    ((Buffer.zero nodeIdLen).memcpy (found.2.value.toList.drop 3) (idCopyLength found.2.len)).assign
      (idCopyLength found.2.len) 0
  else Buffer.zero nodeIdLen

/-- `MIN(payload_len, sizeof(payload_str) - 1)` -/
def payloadCopyLength (payloadLen : Nat) : Nat :=
  if payloadLen < payloadStrSize - 1 then payloadLen else payloadStrSize - 1

/-- The local `payload_str` after the payload was copied; without a payload it is
left as it was. -/
def payloadText (payload : List UInt8) (payloadStr : Buffer payloadStrSize) :
    Buffer payloadStrSize :=
  let payloadLen := payload.length % uint16Modulus
  if 0 < payloadLen then
    (payloadStr.memcpy payload (payloadCopyLength payloadLen)).assign
      (payloadCopyLength payloadLen) 0
  else payloadStr

def atof (text : List UInt8) : Number := (strtod text).round binary64

/-- The message `temp_node_post` submits. The assignment to the float field
rounds once more, and the humidity is `-1.0f`. -/
def tempNodePost (uptime : Int) (locals : PostLocals) (request : PostRequest) : TempDataMsg :=
  { nodeId := StringBuffer.strncpy
      (queryNodeId (coapFindOptions request.uriQuery locals.queryOpt)).toList (nodeIdLen - 1)
      (by decide)
    temperature := (atof (payloadText request.payload locals.payloadStr).toList).round binary32
    humidity := .finite true 1
    timestamp := uptime }

theorem payloadCopyLength_lt (payloadLen : Nat) :
    payloadCopyLength payloadLen < payloadStrSize := by
  unfold payloadCopyLength payloadStrSize
  split <;> omega

theorem payloadCopyLength_le (payloadLen : Nat) : payloadCopyLength payloadLen ≤ payloadLen := by
  unfold payloadCopyLength
  split
  · exact Nat.le_refl _
  · omega

theorem payloadText_toList {payload : List UInt8} (payloadStr : Buffer payloadStrSize)
    (present : payload ≠ []) (short : payload.length < payloadStrSize) :
    (payloadText payload payloadStr).toList =
      payload ++ 0 :: payloadStr.toList.drop (payload.length + 1) := by
  have positive := List.length_pos_of_ne_nil present
  have lenEq : payload.length % uint16Modulus = payload.length :=
    Nat.mod_eq_of_lt (Nat.lt_trans short (by decide))
  have copyEq : payloadCopyLength payload.length = payload.length := by
    unfold payloadCopyLength
    unfold payloadStrSize at short ⊢
    split <;> omega
  unfold payloadText
  rw [lenEq, if_pos positive, copyEq, toList_memcpy_terminated _ _ (Nat.le_refl _) short,
    List.take_length]

def noLocals : PostLocals :=
  { queryOpt := { len := 0, value := Buffer.zero _ }, payloadStr := Buffer.zero _ }

/-- The query `id=K` with the payload `21.5`. -/
def kitchenRequest : PostRequest :=
  { uriQuery := [[105, 100, 61, 75]], payload := [50, 49, 46, 53] }

/-- The query `id=G` with the payload `7`. -/
def gardenRequest : PostRequest :=
  { uriQuery := [[105, 100, 61, 71]], payload := [55] }

end ZephyrHomeHub.Hub
