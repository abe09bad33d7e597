import ZephyrHomeHub.Foundation.FirstComeRegistry
import ZephyrHomeHub.Hub.MainLoop

/-! The node table against its purpose: a registry of the first six node ids,
each with its readings in order. The ring of a slot holds all readings of its
node, of which the last sixty are valid cells. -/

namespace ZephyrHomeHub.Hub

open Foundation.CString Foundation.FirstComeRegistry Foundation.RingBuffer

abbrev NodeRegistry := Registry (List UInt8) SensorData maxNodes

structure SlotHolds (node : NodeInfo) (id : List UInt8) (readings : List SensorData) : Prop where
  used : node.used = true
  id : node.id = id
  ring : node.ring.Holds readings
  last : readings.getLast? = some node.current

/-- Used slots are a prefix and stand for the registry's entries in order. -/
structure Refines (nodes : Nodes) (registry : NodeRegistry) : Prop where
  entry : ∀ (slot : Slot) id readings, registry.entries[slot.val]? = some (id, readings) →
    SlotHolds (nodes slot) id readings
  free : ∀ slot : Slot, registry.entries.length ≤ slot.val → (nodes slot).used = false

theorem refines_empty : Refines Nodes.zero Registry.empty :=
  { entry := by
      intro slot id readings present
      cases present
    free := fun _ _ => rfl }

/-! ### The lookup finds what the registry finds -/

private theorem entry_at (registry : NodeRegistry) (slot : Slot)
    (inside : slot.val < registry.entries.length) :
    ∃ id readings, registry.entries[slot.val]? = some (id, readings) ∧
      id ∈ registry.entries.map Prod.fst :=
  ⟨_, _, List.getElem?_eq_getElem inside, List.mem_map_of_mem (List.getElem_mem inside)⟩

private theorem registry_slot (registry : NodeRegistry) {id : List UInt8}
    (known : id ∈ registry.entries.map Prod.fst) :
    ∃ (slot : Slot) (readings : List SensorData),
      registry.entries[slot.val]? = some (id, readings) := by
  obtain ⟨⟨_, readings⟩, member, rfl⟩ := List.mem_map.1 known
  obtain ⟨index, inside, atIndex⟩ := List.getElem_of_mem member
  have bounded := registry.bounded
  exact ⟨⟨index, by omega⟩, readings, List.getElem?_eq_some_iff.2 ⟨inside, atIndex⟩⟩

theorem Refines.unknown {nodes : Nodes} {registry : NodeRegistry} (refines : Refines nodes registry)
    {nodeId : StringBuffer nodeIdLen} (absent : nodeId.text ∉ registry.entries.map Prod.fst)
    (slot : Slot) :
    ¬(nodes slot).matches nodeId := by
  rintro ⟨used, idEq⟩
  rcases Nat.lt_or_ge slot.val registry.entries.length with inside | outside
  · obtain ⟨id, readings, present, member⟩ := entry_at registry slot inside
    have holds := refines.entry slot id readings present
    rw [← holds.id, idEq] at member
    exact absent member
  · rw [refines.free slot outside] at used
    cases used

theorem Refines.lookup_known {nodes : Nodes} {registry : NodeRegistry}
    (refines : Refines nodes registry) {nodeId : StringBuffer nodeIdLen} {slot : Slot}
    {readings : List SensorData}
    (present : registry.entries[slot.val]? = some (nodeId.text, readings)) :
    getOrCreateNode nodes nodeId = some (slot, nodes) := by
  have holds := refines.entry slot _ _ present
  apply getOrCreateNode_known ⟨holds.used, holds.id⟩
  rintro earlier before ⟨_, idEq⟩
  obtain ⟨inside, _⟩ := List.getElem?_eq_some_iff.1 present
  obtain ⟨id, others, earlierPresent, _⟩ := entry_at registry earlier (Nat.lt_trans before inside)
  have earlierHolds := refines.entry earlier id others earlierPresent
  rw [earlierHolds.id] at idEq
  subst id
  have same := registry.index_unique earlierPresent present
  exact absurd same (Nat.ne_of_lt before)

theorem Refines.lookup_fresh {nodes : Nodes} {registry : NodeRegistry}
    (refines : Refines nodes registry) {nodeId : StringBuffer nodeIdLen}
    (absent : nodeId.text ∉ registry.entries.map Prod.fst) {slot : Slot}
    (next : slot.val = registry.entries.length) :
    getOrCreateNode nodes nodeId =
      some (slot, Function.update nodes slot ((nodes slot).create nodeId)) := by
  apply getOrCreateNode_fresh (refines.unknown absent) (refines.free slot (Nat.le_of_eq next.symm))
  intro earlier before
  have inside : earlier.val < registry.entries.length := next ▸ before
  obtain ⟨id, readings, present, _⟩ := entry_at registry earlier inside
  exact (refines.entry earlier id readings present).used

theorem Refines.lookup_full {nodes : Nodes} {registry : NodeRegistry}
    (refines : Refines nodes registry) {nodeId : StringBuffer nodeIdLen}
    (absent : nodeId.text ∉ registry.entries.map Prod.fst)
    (full : ¬registry.entries.length < maxNodes) : getOrCreateNode nodes nodeId = none := by
  apply getOrCreateNode_full (refines.unknown absent)
  intro slot
  have bounded := slot.isLt
  obtain ⟨id, readings, present, _⟩ := entry_at registry slot (by omega)
  exact (refines.entry slot id readings present).used

/-! ### One message -/

theorem Refines.update_known {nodes : Nodes} {registry : NodeRegistry}
    (refines : Refines nodes registry) {slot : Slot} {id : List UInt8}
    {readings : List SensorData} (present : registry.entries[slot.val]? = some (id, readings))
    {node : NodeInfo} {reading : SensorData} (holds : SlotHolds node id (readings ++ [reading])) :
    Refines (Function.update nodes slot node) (registry.record id reading) := by
  have known : id ∈ registry.entries.map Prod.fst :=
    List.mem_map.2 ⟨(id, readings), List.mem_of_getElem? present, rfl⟩
  have entriesEq := registry.record_known known reading
  refine { entry := ?_, free := ?_ }
  · intro other otherId others otherPresent
    rw [entriesEq, List.getElem?_map, Option.map_eq_some_iff] at otherPresent
    obtain ⟨⟨oldId, oldReadings⟩, oldPresent, changed⟩ := otherPresent
    by_cases same : other = slot
    · subst other
      rw [present] at oldPresent
      cases oldPresent
      simp only [appendReading, if_true, Prod.mk.injEq] at changed
      obtain ⟨rfl, rfl⟩ := changed
      rw [Function.update_self]
      exact holds
    · have otherKey : oldId ≠ id := by
        intro equal
        subst oldId
        exact same (Fin.ext (registry.index_unique oldPresent present))
      simp only [appendReading, if_neg otherKey, Prod.mk.injEq] at changed
      obtain ⟨rfl, rfl⟩ := changed
      rw [Function.update_of_ne same]
      exact refines.entry other oldId oldReadings oldPresent
  · intro other outside
    obtain ⟨inside, _⟩ := List.getElem?_eq_some_iff.1 present
    rw [entriesEq, List.length_map] at outside
    have different : other ≠ slot := by
      intro same
      subst other
      exact absurd inside (Nat.not_lt.2 outside)
    rw [Function.update_of_ne different]
    exact refines.free other outside

theorem Refines.update_fresh {nodes : Nodes} {registry : NodeRegistry}
    (refines : Refines nodes registry) {slot : Slot} (next : slot.val = registry.entries.length)
    {id : List UInt8} (absent : id ∉ registry.entries.map Prod.fst) {node : NodeInfo}
    {reading : SensorData} (holds : SlotHolds node id [reading]) :
    Refines (Function.update nodes slot node) (registry.record id reading) := by
  have room : registry.entries.length < maxNodes := next ▸ slot.isLt
  have entriesEq := registry.record_room absent room reading
  refine { entry := ?_, free := ?_ }
  · intro other otherId others otherPresent
    rw [entriesEq] at otherPresent
    by_cases same : other = slot
    · subst other
      rw [next, List.getElem?_concat_length] at otherPresent
      cases otherPresent
      rw [Function.update_self]
      exact holds
    · obtain ⟨inside, _⟩ := List.getElem?_eq_some_iff.1 otherPresent
      rw [List.length_append, List.length_singleton] at inside
      have different : other.val ≠ slot.val := fun equal => same (Fin.ext equal)
      rw [List.getElem?_append_left (by omega)] at otherPresent
      rw [Function.update_of_ne same]
      exact refines.entry other otherId others otherPresent
  · intro other outside
    rw [entriesEq, List.length_append, List.length_singleton] at outside
    have different : other ≠ slot := by
      intro same
      subst other
      omega
    rw [Function.update_of_ne different]
    exact refines.free other (by omega)

theorem SlotHolds.store {node : NodeInfo} {id : List UInt8} {readings : List SensorData}
    (holds : SlotHolds node id readings) (context : LoopContext) (msg : TempDataMsg) :
    SlotHolds (context.updateEntry node msg) id (readings ++ [msg.reading]) :=
  { used := (updateEntry_used context node msg).trans holds.used
    id := (updateEntry_id context node msg).trans holds.id
    ring := by
      rw [updateEntry_ring]
      exact holds.ring.push msg.reading
    last := by rw [List.getLast?_concat, updateEntry_current] }

theorem slotHolds_create (node : NodeInfo) (context : LoopContext) (msg : TempDataMsg) :
    SlotHolds (context.updateEntry (node.create msg.nodeId) msg) msg.id [msg.reading] :=
  { used := updateEntry_used context _ msg
    id := (updateEntry_id context _ msg).trans (NodeInfo.id_create node msg.nodeId)
    ring := by
      rw [updateEntry_ring]
      exact (NodeInfo.ring_create node msg.nodeId).push msg.reading
    last := by rw [List.getLast?_singleton, updateEntry_current] }

theorem drainBody_refines {nodes : Nodes} {registry : NodeRegistry}
    (refines : Refines nodes registry) (context : LoopContext) (msg : TempDataMsg) :
    Refines (drainBody context nodes msg).1 (registry.record msg.id msg.reading) := by
  by_cases known : msg.id ∈ registry.entries.map Prod.fst
  · obtain ⟨slot, readings, present⟩ := registry_slot registry known
    rw [drainBody_known (refines.lookup_known present)]
    exact refines.update_known present
      ((refines.entry slot msg.id readings present).store context msg)
  · by_cases room : registry.entries.length < maxNodes
    · have next : (⟨registry.entries.length, room⟩ : Slot).val = registry.entries.length := rfl
      rw [drainBody_fresh (refines.lookup_fresh known next)]
      exact refines.update_fresh next known (slotHolds_create _ context msg)
    · rw [drainBody_dropped (refines.lookup_full known room), registry.record_full known room]
      exact refines

theorem drainBody_frame {nodes : Nodes} {registry : NodeRegistry}
    (refines : Refines nodes registry) (context : LoopContext) (msg : TempDataMsg) (slot : Slot)
    (other : ((registry.record msg.id msg.reading).entries.map Prod.fst)[slot.val]? ≠ some msg.id) :
    (drainBody context nodes msg).1 slot = nodes slot := by
  by_cases known : msg.id ∈ registry.entries.map Prod.fst
  · obtain ⟨own, readings, present⟩ := registry_slot registry known
    rw [drainBody_known (refines.lookup_known present)]
    apply Function.update_of_ne
    intro same
    subst own
    apply other
    rw [registry.record_known known, List.getElem?_map, List.getElem?_map, present]
    simp [appendReading]
  · by_cases room : registry.entries.length < maxNodes
    · have next : (⟨registry.entries.length, room⟩ : Slot).val = registry.entries.length := rfl
      rw [drainBody_fresh (refines.lookup_fresh known next)]
      apply Function.update_of_ne
      intro same
      subst slot
      apply other
      rw [registry.record_room known room, List.map_append, List.getElem?_append_right (by simp)]
      simp
    · rw [drainBody_dropped (refines.lookup_full known room)]

/-- A slot is left alone by a message of another node, or its entry is the
message's node already, or it is free and taken for a node without a slot. -/
theorem drainBody_slot {nodes : Nodes} {registry : NodeRegistry} (refines : Refines nodes registry)
    (context : LoopContext) (msg : TempDataMsg) (slot : Slot) :
    ((drainBody context nodes msg).1 slot = nodes slot ∧
        ((nodes slot).used = true → msg.id ≠ (nodes slot).id)) ∨
      ((nodes slot).used = true ∧ (nodes slot).id = msg.id ∧
        (drainBody context nodes msg).1 slot = context.updateEntry (nodes slot) msg) ∨
      ((nodes slot).used = false ∧ (∀ other, ¬(nodes other).matches msg.nodeId) ∧
        (drainBody context nodes msg).1 slot =
          context.updateEntry ((nodes slot).create msg.nodeId) msg) := by
  by_cases known : msg.id ∈ registry.entries.map Prod.fst
  · obtain ⟨own, readings, present⟩ := registry_slot registry known
    have holds := refines.entry own _ _ present
    rw [drainBody_known (refines.lookup_known present)]
    by_cases same : slot = own
    · subst own
      exact Or.inr (Or.inl ⟨holds.used, holds.id, Function.update_self _ _ _⟩)
    · refine Or.inl ⟨Function.update_of_ne same _ _, fun used equal => same ?_⟩
      rcases Nat.lt_or_ge slot.val registry.entries.length with inside | outside
      · obtain ⟨id, others, otherPresent, _⟩ := entry_at registry slot inside
        rw [← (refines.entry slot id others otherPresent).id, ← equal] at otherPresent
        exact Fin.ext (registry.index_unique otherPresent present)
      · rw [refines.free slot outside] at used
        cases used
  · have foreign : (nodes slot).used = true → msg.id ≠ (nodes slot).id := fun used equal =>
      refines.unknown known slot ⟨used, equal.symm⟩
    by_cases room : registry.entries.length < maxNodes
    · have next : (⟨registry.entries.length, room⟩ : Slot).val = registry.entries.length := rfl
      rw [drainBody_fresh (refines.lookup_fresh known next)]
      by_cases same : slot = ⟨registry.entries.length, room⟩
      · subst slot
        exact Or.inr (Or.inr ⟨refines.free _ (Nat.le_refl _), refines.unknown known,
          Function.update_self _ _ _⟩)
      · exact Or.inl ⟨Function.update_of_ne same _ _, foreign⟩
    · rw [drainBody_dropped (refines.lookup_full known room)]
      exact Or.inl ⟨rfl, foreign⟩

/-- The history in the slot of an id, nothing where no slot has it. -/
def Nodes.historyOf (nodes : Nodes) (id : List UInt8) : List SensorData :=
  (Fin.find? fun slot => (nodes slot).used && (nodes slot).id = id).elim []
    fun slot => (nodes slot).readHistory

theorem Refines.historyOf {nodes : Nodes} {registry : NodeRegistry}
    (refines : Refines nodes registry) (id : List UInt8) :
    nodes.historyOf id = (registry.lookup id).rtake historySize := by
  unfold Nodes.historyOf
  cases search : Fin.find? fun slot => (nodes slot).used && (nodes slot).id = id with
  | none =>
      have unknown : id ∉ registry.entries.map Prod.fst := by
        intro known
        rcases registry_slot registry known with ⟨slot, readings, present⟩
        have holds := refines.entry slot id readings present
        have missed := Fin.find?_eq_none_iff.1 search slot
        simp [holds.used, holds.id] at missed
      rw [Registry.lookup_unknown unknown, List.rtake_nil]
      rfl
  | some slot =>
      have hit := (Fin.find?_eq_some_iff.1 search).1
      simp only [Bool.and_eq_true, decide_eq_true_eq] at hit
      rcases hit with ⟨used, same⟩
      rcases Nat.lt_or_ge slot.val registry.entries.length with inside | outside
      · obtain ⟨own, readings, present, -⟩ := entry_at registry slot inside
        have holds := refines.entry slot own readings present
        have ownEq : own = id := holds.id.symm.trans same
        subst ownEq
        rw [Registry.lookup_entry present, ← holds.ring.contents_eq, ← NodeInfo.readHistory_eq]
        rfl
      · rw [refines.free slot outside] at used
        cases used

theorem Refines.isSome_iff {nodes : Nodes} {registry : NodeRegistry}
    (refines : Refines nodes registry) (nodeId : StringBuffer nodeIdLen) :
    (getOrCreateNode nodes nodeId).isSome = true ↔ registry.Admits nodeId.text := by
  by_cases known : nodeId.text ∈ registry.entries.map Prod.fst
  · obtain ⟨slot, readings, present⟩ := registry_slot registry known
    rw [refines.lookup_known present]
    exact iff_of_true rfl (.inl known)
  · by_cases room : registry.entries.length < maxNodes
    · have next : (⟨registry.entries.length, room⟩ : Slot).val = registry.entries.length := rfl
      rw [refines.lookup_fresh known next]
      exact iff_of_true rfl (.inr room)
    · rw [refines.lookup_full known room]
      exact iff_of_false Bool.false_ne_true (not_or.2 ⟨known, room⟩)

theorem drainBody_historyOf_other {nodes : Nodes} {registry : NodeRegistry}
    (refines : Refines nodes registry) (context : LoopContext) (msg : TempDataMsg)
    {id : List UInt8} (other : id ≠ msg.id) :
    (drainBody context nodes msg).1.historyOf id = nodes.historyOf id := by
  rw [(drainBody_refines refines context msg).historyOf, refines.historyOf,
    registry.lookup_record_other msg.reading other]

/-- The reading ends the history of its node exactly where the lookup found a slot. -/
theorem drainBody_writes_iff {nodes : Nodes} {registry : NodeRegistry}
    (refines : Refines nodes registry) (context : LoopContext) (msg : TempDataMsg) :
    (drainBody context nodes msg).1.historyOf msg.id =
        (nodes.historyOf msg.id ++ [msg.reading]).rtake historySize ↔
      (getOrCreateNode nodes msg.nodeId).isSome = true := by
  rw [refines.isSome_iff]
  change _ ↔ registry.Admits msg.id
  constructor
  · intro written
    by_contra refused
    rcases not_or.1 refused with ⟨unknown, full⟩
    rw [drainBody_dropped (refines.lookup_full unknown full), refines.historyOf,
      Registry.lookup_unknown unknown, List.rtake_nil] at written
    have lengths := congrArg List.length written
    change 0 = 1 at lengths
    omega
  · intro admits
    rw [(drainBody_refines refines context msg).historyOf, refines.historyOf,
      registry.lookup_record msg.reading admits, rtake_append_singleton]

/-! ### One message and the cards -/

def creations (calls : List UiCall) : List Slot :=
  calls.filterMap fun call =>
    match call with
    | .createNodeWidgets slot => some slot
    | .updateNodeDisplay _ => none

def CardsComplete (nodes : Nodes) : Prop :=
  ∀ slot, (nodes slot).card.isSome = (nodes slot).used

theorem creations_entryCalls (context : LoopContext) (node : NodeInfo) (slot : Slot) :
    creations (context.entryCalls node slot) = if node.card.isNone then [slot] else [] := by
  cases cardEq : node.card <;> cases active : context.temperatureTabActive <;>
    simp [creations, LoopContext.entryCalls, active, cardEq]

theorem CardsComplete.update {nodes : Nodes} (cards : CardsComplete nodes) (context : LoopContext)
    (tab : context.tempTab = true) (slot : Slot) {node : NodeInfo} (used : node.used = true)
    (msg : TempDataMsg) :
    CardsComplete (Function.update nodes slot (context.updateEntry node msg)) := by
  intro other
  by_cases same : other = slot
  · subst other
    rw [Function.update_self, updateEntry_card_isSome _ _ _ tab, updateEntry_used, used]
  · rw [Function.update_of_ne same]
    exact cards other

theorem drainBody_creations {nodes : Nodes} {registry : NodeRegistry}
    (refines : Refines nodes registry) (cards : CardsComplete nodes) (context : LoopContext)
    (msg : TempDataMsg) (tab : context.tempTab = true) :
    CardsComplete (drainBody context nodes msg).1 ∧
      creations (drainBody context nodes msg).2 =
        ((List.finRange maxNodes).take (registry.record msg.id msg.reading).entries.length).drop
          registry.entries.length := by
  by_cases known : msg.id ∈ registry.entries.map Prod.fst
  · obtain ⟨slot, readings, present⟩ := registry_slot registry known
    have used := (refines.entry slot _ _ present).used
    have hasCard : (nodes slot).card.isNone = false := by
      rw [← Option.not_isSome, cards slot, used]
      rfl
    rw [drainBody_known (refines.lookup_known present), registry.record_known known,
      List.length_map, creations_entryCalls, hasCard]
    exact ⟨cards.update context tab slot used msg, by simp⟩
  · by_cases room : registry.entries.length < maxNodes
    · let slot : Slot := ⟨registry.entries.length, room⟩
      have next : slot.val = registry.entries.length := rfl
      have noCard : ((nodes slot).create msg.nodeId).card.isNone = true := by
        have absent := cards slot
        rw [refines.free slot (Nat.le_refl _)] at absent
        rw [← Option.not_isSome, Bool.not_eq_true']
        exact absent
      have slotEq : ((List.finRange maxNodes).take (registry.entries.length + 1)).drop
          registry.entries.length = [slot] := by
        rw [List.take_add_one, List.getElem?_eq_getElem (by simpa using room),
          List.drop_left' (by simpa using room.le)]
        simp [slot]
      rw [drainBody_fresh (refines.lookup_fresh known next), registry.record_room known room,
        List.length_append, List.length_singleton, creations_entryCalls, noCard, slotEq]
      exact ⟨cards.update context tab slot rfl msg, rfl⟩
    · rw [drainBody_dropped (refines.lookup_full known room), registry.record_full known room]
      exact ⟨cards, by simp [creations]⟩

/-! ### A whole sequence of messages from the zeroed table -/

abbrev MessageSequence := List (LoopContext × TempDataMsg)

/-- The first six distinct node ids, in order of first appearance. -/
def MessageSequence.ids (items : MessageSequence) : List (List UInt8) :=
  firstKeys maxNodes (items.map fun item => item.2.id)

def MessageSequence.readings (items : MessageSequence) (id : List UInt8) : List SensorData :=
  (items.filter fun item => item.2.id = id).map fun item => item.2.reading

def MessageSequence.log (items : MessageSequence) : List (List UInt8 × SensorData) :=
  items.map fun item => (item.2.id, item.2.reading)

def MessageSequence.registry (items : MessageSequence) : NodeRegistry :=
  Registry.empty.recordAll items.log

def MessageSequence.table (items : MessageSequence) : Nodes := (drainAll Nodes.zero items).1

def MessageSequence.calls (items : MessageSequence) : List UiCall := (drainAll Nodes.zero items).2

theorem MessageSequence.registry_append (items : MessageSequence)
    (item : LoopContext × TempDataMsg) :
    MessageSequence.registry (items ++ [item]) =
      items.registry.record item.2.id item.2.reading := by
  rw [MessageSequence.registry, MessageSequence.log, List.map_append, List.map_singleton,
    Registry.recordAll_append]
  rfl

theorem MessageSequence.ids_prefix (items after : MessageSequence) :
    items.ids <+: MessageSequence.ids (items ++ after) := by
  rw [MessageSequence.ids, MessageSequence.ids, List.map_append]
  exact firstKeys_prefix maxNodes _ _

theorem MessageSequence.keys_registry (items : MessageSequence) :
    items.registry.entries.map Prod.fst = items.ids := by
  rw [MessageSequence.registry, Registry.recordAll_entries, map_fst_closedForm,
    MessageSequence.log, List.map_map]
  rfl

theorem MessageSequence.readingsOf_log (items : MessageSequence) (id : List UInt8) :
    readingsOf id items.log = items.readings id := by
  rw [readingsOf, MessageSequence.log, List.filter_map, List.map_map]
  rfl

theorem MessageSequence.entry_registry (items : MessageSequence) {index : Nat} {id : List UInt8}
    (listed : items.ids[index]? = some id) :
    items.registry.entries[index]? = some (id, items.readings id) := by
  have keysEq : firstKeys maxNodes (items.log.map Prod.fst) = items.ids := by
    rw [MessageSequence.log, List.map_map]
    rfl
  rw [MessageSequence.registry, Registry.recordAll_entries, closedForm, keysEq, List.getElem?_map,
    listed, Option.map_some, MessageSequence.readingsOf_log]

theorem MessageSequence.length_registry (items : MessageSequence) :
    items.registry.entries.length = items.ids.length := by
  rw [← items.keys_registry, List.length_map]

theorem take_append_drop_take {less more : Nat} (slots : List Slot) (le : less ≤ more) :
    slots.take less ++ (slots.take more).drop less = slots.take more := by
  have shorter : slots.take less = (slots.take more).take less := by
    rw [List.take_take, Nat.min_eq_left le]
  rw [shorter, List.take_append_drop]

theorem drainAll_refines {nodes : Nodes} {registry : NodeRegistry}
    (refines : Refines nodes registry)
    (items : MessageSequence) :
    Refines (drainAll nodes items).1 (registry.recordAll items.log) := by
  induction items using List.reverseRecOn with
  | nil => exact refines
  | append_singleton items item ih =>
      rw [MessageSequence.log, List.map_append, List.map_singleton, Registry.recordAll_append,
        drainAll_append]
      exact drainBody_refines ih item.1 item.2

theorem MessageSequence.refines (items : MessageSequence) :
    Refines items.table items.registry :=
  drainAll_refines refines_empty items

theorem MessageSequence.holds_at (items : MessageSequence) {slot : Slot} {id : List UInt8}
    (listed : items.ids[slot.val]? = some id) :
    SlotHolds (items.table slot) id (items.readings id) :=
  items.refines.entry slot id _ (items.entry_registry listed)

theorem MessageSequence.used_iff (items : MessageSequence) (slot : Slot) :
    (items.table slot).used = true ↔ slot.val < items.ids.length := by
  constructor
  · intro used
    by_contra outside
    have free := items.refines.free slot (by rw [items.length_registry]; omega)
    rw [used] at free
    cases free
  · intro inside
    exact (items.holds_at (List.getElem?_eq_getElem inside)).used

theorem MessageSequence.listed_of_used (items : MessageSequence) {slot : Slot}
    (used : (items.table slot).used = true) : ∃ id, items.ids[slot.val]? = some id :=
  ⟨_, List.getElem?_eq_getElem ((items.used_iff slot).1 used)⟩

theorem MessageSequence.slot_of_listed (items : MessageSequence) {id : List UInt8}
    (listed : id ∈ items.ids) : ∃ slot : Slot, items.ids[slot.val]? = some id := by
  rcases List.getElem?_of_mem listed with ⟨index, atIndex⟩
  rcases List.getElem?_eq_some_iff.1 (items.entry_registry atIndex) with ⟨inside, _⟩
  have bounded := items.registry.bounded
  exact ⟨⟨index, by omega⟩, atIndex⟩

theorem MessageSequence.table_injective (items : MessageSequence) {left right : Slot}
    (leftUsed : (items.table left).used = true) (rightUsed : (items.table right).used = true)
    (same : (items.table left).id = (items.table right).id) : left = right := by
  rcases items.listed_of_used leftUsed with ⟨leftId, atLeft⟩
  rcases items.listed_of_used rightUsed with ⟨rightId, atRight⟩
  rw [(items.holds_at atLeft).id, (items.holds_at atRight).id] at same
  subst rightId
  exact Fin.ext (items.registry.index_unique (items.entry_registry atLeft)
    (items.entry_registry atRight))

theorem MessageSequence.table_frame {items before after : MessageSequence}
    {item : LoopContext × TempDataMsg} {slot : Slot} (split : items = before ++ item :: after)
    (other : items.ids[slot.val]? ≠ some item.2.id) :
    MessageSequence.table (before ++ [item]) slot = MessageSequence.table before slot := by
  rw [MessageSequence.table, drainAll_append]
  apply drainBody_frame (MessageSequence.refines before)
  rw [← MessageSequence.registry_append, MessageSequence.keys_registry]
  intro placed
  apply other
  rcases MessageSequence.ids_prefix (before ++ [item]) after with ⟨later, grown⟩
  rcases List.getElem?_eq_some_iff.1 placed with ⟨inside, _⟩
  rw [split, List.append_cons, ← grown, List.getElem?_append_left inside]
  exact placed

/-- After a batch a slot is as it was and no message of the batch was for its
node, or it is the updated entry of a message of the batch. -/
theorem drainAll_slot {nodes : Nodes} {registry : NodeRegistry} (refines : Refines nodes registry)
    (context : LoopContext) (batch : List TempDataMsg) (slot : Slot) :
    ((drainAll nodes (batch.map fun msg => (context, msg))).1 slot = nodes slot ∧
        ((nodes slot).used = true → ∀ msg ∈ batch, msg.id ≠ (nodes slot).id)) ∨
      ∃ node, ∃ msg ∈ batch,
        (drainAll nodes (batch.map fun msg => (context, msg))).1 slot =
          context.updateEntry node msg ∧
        node.used = true ∧ node.id = msg.id ∧
        ((nodes slot).used = true → node.id = (nodes slot).id) := by
  induction batch using List.reverseRecOn with
  | nil => exact Or.inl ⟨rfl, fun _ msg member => absurd member List.not_mem_nil⟩
  | append_singleton batch msg ih =>
      have middle := drainAll_refines refines (batch.map fun msg => (context, msg))
      have last : msg ∈ batch ++ [msg] := List.mem_append_right _ (List.mem_singleton_self msg)
      rw [List.map_append, List.map_singleton, drainAll_append]
      rcases drainBody_slot middle context msg slot with
        ⟨same, foreign⟩ | ⟨used, own, here⟩ | ⟨unused, _, here⟩
      · rcases ih with ⟨untouched, others⟩ | ⟨node, earlier, member, update, rest⟩
        · refine Or.inl ⟨same.trans untouched, fun inUse other otherMember => ?_⟩
          rw [untouched] at foreign
          rcases List.mem_append.1 otherMember with before | now
          · exact others inUse other before
          · rw [List.mem_singleton.1 now]
            exact foreign inUse
        · exact Or.inr ⟨node, earlier, List.mem_append_left _ member, same.trans update, rest⟩
      · refine Or.inr ⟨_, msg, last, here, used, own, fun inUse => ?_⟩
        rcases ih with ⟨untouched, _⟩ | ⟨before, earlier, _, update, _, _, kept⟩
        · rw [untouched]
        · rw [update, updateEntry_id]
          exact kept inUse
      · refine Or.inr ⟨_, msg, last, here, rfl, NodeInfo.id_create _ _, fun inUse => ?_⟩
        rcases ih with ⟨untouched, _⟩ | ⟨before, earlier, _, update, beforeUsed, _⟩
        · rw [untouched, inUse] at unused
          cases unused
        · rw [update, updateEntry_used, beforeUsed] at unused
          cases unused

/-- With the tab in place a slot has a card exactly when it is in use, and the
cards were created one by one, in the order of the slots. -/
theorem MessageSequence.creations_eq (items : MessageSequence)
    (tab : ∀ item ∈ items, item.1.tempTab = true) :
    CardsComplete items.table ∧
      creations items.calls = (List.finRange maxNodes).take items.ids.length := by
  rw [← MessageSequence.length_registry]
  induction items using List.reverseRecOn with
  | nil => exact ⟨fun _ => rfl, rfl⟩
  | append_singleton items item ih =>
      obtain ⟨cards, created⟩ := ih fun other member =>
        tab other (List.mem_append_left _ member)
      have tabHere := tab item (List.mem_append_right _ (List.mem_singleton_self item))
      obtain ⟨cardsAfter, createdHere⟩ :=
        drainBody_creations (MessageSequence.refines items) cards item.1 item.2 tabHere
      rw [MessageSequence.registry_append, MessageSequence.table, MessageSequence.calls,
        drainAll_append]
      refine ⟨cardsAfter, ?_⟩
      simp only [creations, List.filterMap_append]
      exact (congrArg₂ List.append created createdHere).trans
        (take_append_drop_take _ (Registry.length_le_record _ _ _))

/-- The drain loop keeps the first six node ids, each with its last sixty readings. -/
theorem drainLoop_keeps_first_six_nodes (items : MessageSequence) :
    (∀ slot, (items.table slot).used = true ↔ slot.val < items.ids.length) ∧
      (∀ (slot : Slot) id, items.ids[slot.val]? = some id →
        (items.table slot).id = id ∧
          (items.table slot).historyCount.val = min historySize (items.readings id).length ∧
          (items.table slot).historyHead.val = (items.readings id).length % historySize ∧
          (items.table slot).readHistory = (items.readings id).rtake historySize ∧
          (items.readings id).getLast? = some (items.table slot).current) ∧
      (∀ left right, (items.table left).used = true → (items.table right).used = true →
        (items.table left).id = (items.table right).id → left = right) ∧
      (∀ before item after, items = before ++ item :: after → item.2.id ∉ items.ids →
        MessageSequence.table (before ++ [item]) = MessageSequence.table before) ∧
      (∀ before item after (slot other : Slot), items = before ++ item :: after →
        items.ids[slot.val]? = some item.2.id → other ≠ slot →
        MessageSequence.table (before ++ [item]) other = MessageSequence.table before other) ∧
      ((∀ item ∈ items, item.1.tempTab = true) →
        creations items.calls = (List.finRange maxNodes).take items.ids.length) := by
  refine ⟨items.used_iff, ?_, fun left right => items.table_injective, ?_, ?_,
    fun tab => (items.creations_eq tab).2⟩
  · intro slot id atSlot
    have holds := items.holds_at atSlot
    have history := (items.table slot).readHistory_eq.trans holds.ring.contents_eq
    exact ⟨holds.id, holds.ring.count, holds.ring.head, history, holds.last⟩
  · intro before item after split unlisted
    funext slot
    apply MessageSequence.table_frame split
    intro placed
    exact unlisted (List.mem_of_getElem? placed)
  · intro before item after slot other split placed different
    apply MessageSequence.table_frame split
    intro again
    have keysNodup : items.ids.Nodup := firstKeys_nodup _ _
    rcases List.getElem?_eq_some_iff.1 again with ⟨inside, _⟩
    exact different (Fin.ext ((List.getElem?_inj inside keysNodup).1 (again.trans placed.symm)))

end ZephyrHomeHub.Hub
