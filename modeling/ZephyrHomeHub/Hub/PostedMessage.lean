import ZephyrHomeHub.Hub.CoapServer

/-! What `temp_node_post` takes from a request: closed forms of the node id and of
the text it reads the temperature from, in the bytes of the request and in those
of the locals that the request did not overwrite. -/

namespace ZephyrHomeHub.Hub

open Foundation.BinaryFloat Foundation.CString Foundation.DecimalNumeral

/-- The id is what follows the third byte of the first option. In a shorter option
that is nothing the request sent, and the bytes are those of `query_opt`. -/
def postedId (queryOpt : CoapOption) : List (List UInt8) → List UInt8
  | [] => []
  | value :: _ =>
      if value.length ≤ optionValueSize then
        if value.length < 3 then cstr (queryOpt.value.toList.drop 3) else cstr (value.drop 3)
      else []

def payloadLen (payload : List UInt8) : Nat := payload.length % uint16Modulus

/-- The text `atof` reads: the bytes of the payload that were copied, up to a NUL. -/
def postedText (payload : List UInt8) (payloadStr : Buffer payloadStrSize) : List UInt8 :=
  if 0 < payloadLen payload then cstr (payload.take (payloadCopyLength (payloadLen payload)))
  else cstr payloadStr.toList

theorem idCopyLength_short {optionLen : Nat} (short : optionLen < 3) :
    idCopyLength optionLen = nodeIdLen - 1 := by
  unfold idCopyLength sizeTModulus nodeIdLen
  split <;> omega

theorem idCopyLength_long {optionLen : Nat} (long : 3 ≤ optionLen)
    (fits : optionLen ≤ optionValueSize) : idCopyLength optionLen = optionLen - 3 := by
  unfold optionValueSize at fits
  unfold idCopyLength sizeTModulus nodeIdLen
  split <;> omega

theorem idCopyLength_le (optionLen : Nat) : idCopyLength optionLen ≤ nodeIdLen - 1 := by
  unfold idCopyLength
  split
  · rename_i below
    exact Nat.le_of_lt below
  · exact Nat.le_refl _

theorem coapFindOptions_found {value : List UInt8} (fits : value.length ≤ optionValueSize)
    (others : List (List UInt8)) (queryOpt : CoapOption) :
    ∃ option, coapFindOptions (value :: others) queryOpt = (1, option) ∧
      option.len = value.length ∧
      option.value.toList = value ++ queryOpt.value.toList.drop value.length := by
  refine ⟨_, if_pos fits, rfl, ?_⟩
  have whole : value.take value.length = value := List.take_length
  rw [toList_memcpy _ _ _ (by rw [whole]; exact fits), whole]

theorem cstr_queryNodeId (options : List (List UInt8)) (queryOpt : CoapOption) :
    cstr (queryNodeId (coapFindOptions options queryOpt)).toList = postedId queryOpt options := by
  have nothing : cstr (Buffer.zero nodeIdLen).toList = [] := rfl
  cases options with
  | nil => exact nothing
  | cons value others =>
      by_cases fits : value.length ≤ optionValueSize
      · obtain ⟨option, found, lenEq, valueEq⟩ := coapFindOptions_found fits others queryOpt
        have available : idCopyLength option.len ≤ (option.value.toList.drop 3).length := by
          rw [List.length_drop, option.value.toList_length]
          exact idCopyLength_le option.len
        have room : idCopyLength option.len < nodeIdLen :=
          Nat.lt_of_le_of_lt (idCopyLength_le option.len) (by decide)
        rw [found, queryNodeId, if_pos Int.one_pos, toList_memcpy_terminated _ _ available room,
          cstr_terminated, postedId, if_pos fits, lenEq]
        split
        · rename_i short
          have dropEq : option.value.toList.drop 3 = queryOpt.value.toList.drop 3 := by
            rw [valueEq, List.drop_append, List.drop_eq_nil_of_le (Nat.le_of_lt short),
              List.drop_drop, List.nil_append]
            congr 1
            omega
          rw [idCopyLength_short short, List.take_of_length_le, dropEq]
          rw [List.length_drop, option.value.toList_length]
          exact Nat.le_refl _
        · rename_i long
          rw [idCopyLength_long (Nat.not_lt.1 long) fits, valueEq,
            List.drop_append_of_le_length (Nat.not_lt.1 long),
            List.take_append_of_le_length (by rw [List.length_drop]),
            List.take_of_length_le (by rw [List.length_drop])]
      · rw [postedId, if_neg fits, coapFindOptions, if_neg fits]
        exact nothing

theorem postedId_length_le (queryOpt : CoapOption) (options : List (List UInt8)) :
    (postedId queryOpt options).length ≤ nodeIdLen - 1 := by
  cases options with
  | nil => exact Nat.zero_le _
  | cons value others =>
      rw [postedId]
      split
      · rename_i fits
        split
        · refine Nat.le_trans (cstr_length_le _) ?_
          rw [List.length_drop, queryOpt.value.toList_length]
          exact Nat.le_refl _
        · refine Nat.le_trans (cstr_length_le _) ?_
          rw [List.length_drop]
          exact Nat.sub_le_sub_right fits 3
      · exact Nat.zero_le _

theorem tempNodePost_id (uptime : Int) (locals : PostLocals) (request : PostRequest) :
    (tempNodePost uptime locals request).id = postedId locals.queryOpt request.uriQuery := by
  rw [TempDataMsg.id, tempNodePost, StringBuffer.text_strncpy, cstr_queryNodeId]
  exact List.take_of_length_le (postedId_length_le _ _)

theorem cstr_payloadText (payload : List UInt8) (payloadStr : Buffer payloadStrSize) :
    cstr (payloadText payload payloadStr).toList = postedText payload payloadStr := by
  unfold postedText payloadLen
  by_cases present : 0 < payload.length % uint16Modulus
  · have available : payloadCopyLength (payload.length % uint16Modulus) ≤ payload.length := by
      refine Nat.le_trans ?_ (Nat.mod_le payload.length uint16Modulus)
      unfold payloadCopyLength
      split <;> omega
    simp only [payloadText, if_pos present,
      toList_memcpy_terminated _ _ available (payloadCopyLength_lt _), cstr_terminated]
  · simp only [payloadText, if_neg present]

end ZephyrHomeHub.Hub
