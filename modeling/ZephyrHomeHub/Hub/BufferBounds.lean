import ZephyrHomeHub.Hub.ClockedHub

/-! The fixed-size buffers between a request and the node table: the lengths of the
two copies in `temp_node_post`, and the NUL that ends every node id on its way and
in the table. -/

namespace ZephyrHomeHub.Hub

open Foundation.CString Foundation.LabelledMachine

/-- The string ends inside its buffer, so what `strcmp` reads of it and `strcpy`
copies of it, the NUL included, is at most the buffer. -/
structure EndsInside {size : Nat} (buffer : Buffer size) : Prop where
  nul : ∃ index < size, buffer.toList[index]? = some 0
  length : (cstr buffer.toList).length + 1 ≤ size

theorem endsInside_of_nul {size index : Nat} {buffer : Buffer size}
    (nul : buffer.toList[index]? = some 0) : EndsInside buffer := by
  rcases List.getElem?_eq_some_iff.1 nul with ⟨inside, here⟩
  have member : (0 : UInt8) ∈ buffer.toList := List.mem_of_getElem? nul
  have shorter := cstr_length_lt member
  rw [buffer.toList_length] at inside shorter
  exact ⟨⟨index, inside, nul⟩, shorter⟩

def TempDataMsg.LastByteFree (msg : TempDataMsg) : Prop :=
  msg.nodeId.buffer.toList[nodeIdLen - 1]? = some 0

theorem tempNodePost_lastByteFree (uptime : Int) (locals : PostLocals) (request : PostRequest) :
    (tempNodePost uptime locals request).LastByteFree :=
  getElem?_strncpy_zero _ (Nat.le_refl _) (by decide)

def ClockedHub.LastBytesFree (hub : ClockedHub) : Prop :=
  hub.pipeline.Carries TempDataMsg.LastByteFree

theorem lastBytesFree_boot : ClockedHub.boot.LastBytesFree :=
  { pool := fun _ => rfl
    queued := List.forall_mem_nil _
    received := List.forall_mem_nil _
    calling := List.forall_mem_nil _ }

theorem ClockedHub.LastBytesFree.step {hub next : ClockedHub} (free : hub.LastBytesFree)
    {action : ClockedAction} (stepped : hub.step action = some next) : next.LastBytesFree := by
  unfold ClockedHub.LastBytesFree
  rcases ClockedHub.pipeline_cases stepped with rests | ⟨inner, moved, -, called⟩
  · rw [rests]
    exact free
  · refine Pipeline.Carries.step free ?_ moved
    intro msg member
    rcases called msg member with ⟨locals, request, rfl⟩
    exact tempNodePost_lastByteFree hub.uptime locals request

theorem queryNodeId_copied (value : Buffer optionValueSize) (optionLen : Nat) {ret : Int}
    (present : 0 < ret) :
    CopiedInside (Buffer.zero nodeIdLen) (value.toList.drop 3) (idCopyLength optionLen)
      (queryNodeId (ret, { len := optionLen, value := value })) := by
  have copied := idCopyLength_le optionLen
  rw [queryNodeId, if_pos present]
  refine memcpy_copiedInside _ ?_ ?_
  · rw [List.length_drop, value.toList_length]
    exact copied
  · exact Nat.lt_of_le_pred (by decide) copied

theorem payloadText_copied {payload : List UInt8} (payloadStr : Buffer payloadStrSize)
    (present : 0 < payload.length) (short : payload.length < uint16Modulus) :
    CopiedInside payloadStr payload (payloadCopyLength payload.length)
      (payloadText payload payloadStr) := by
  unfold payloadText
  rw [Nat.mod_eq_of_lt short, if_pos present]
  exact memcpy_copiedInside _ (payloadCopyLength_le _) (payloadCopyLength_lt _)

/-- Whatever the lengths in a request, both copies read and write inside their buffers,
and in every reachable state every id on its way and in the table ends in its ten bytes. -/
theorem request_lengths_stay_inside :
    (∀ optionLen ≤ optionValueSize,
        idCopyLength optionLen ≤ nodeIdLen - 1 ∧
        (∀ offset < idCopyLength optionLen, 3 + offset < optionValueSize) ∧
        ∀ (value : Buffer optionValueSize) (ret : Int), 0 < ret →
          CopiedInside (Buffer.zero nodeIdLen) (value.toList.drop 3) (idCopyLength optionLen)
            (queryNodeId (ret, { len := optionLen, value := value }))) ∧
      (∀ payloadLen < uint16Modulus,
        payloadCopyLength payloadLen ≤ payloadStrSize - 1 ∧
        payloadCopyLength payloadLen ≤ payloadLen ∧
        ∀ (payload : List UInt8) (payloadStr : Buffer payloadStrSize),
          payload.length = payloadLen → 0 < payloadLen →
          CopiedInside payloadStr payload (payloadCopyLength payloadLen)
            (payloadText payload payloadStr)) ∧
      ∀ hub, clockedMachine.Reachable hub →
        (∀ msg ∈ hub.messages, EndsInside msg.nodeId.buffer) ∧
          ∀ slot, (hub.nodes slot).used = true → EndsInside (hub.nodes slot).nodeId.buffer := by
  refine ⟨?_, ?_, ?_⟩
  · intro optionLen _
    have copied := idCopyLength_le optionLen
    refine ⟨copied, fun offset inside => ?_, fun value ret present =>
      queryNodeId_copied value optionLen present⟩
    unfold nodeIdLen at copied
    unfold optionValueSize
    omega
  · intro payloadLen short
    refine ⟨Nat.le_sub_one_of_lt (payloadCopyLength_lt payloadLen),
      payloadCopyLength_le payloadLen, ?_⟩
    rintro payload payloadStr rfl present
    exact payloadText_copied payloadStr present short
  · intro hub reachable
    have free : hub.LastBytesFree := reachable.invariant ClockedHub.LastBytesFree
      lastBytesFree_boot (fun _ _ _ before stepped => before.step stepped)
    refine ⟨fun msg member => ?_, fun slot _ => ?_⟩
    · exact endsInside_of_nul ((clocked_reachable_sound reachable).messages free msg member)
    · rcases List.getElem?_of_mem (hub.nodes slot).nodeId.terminated with ⟨index, nul⟩
      exact endsInside_of_nul nul

end ZephyrHomeHub.Hub
