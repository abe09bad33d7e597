import ZephyrHomeHub.Foundation.HexBytes
import ZephyrHomeHub.Hub.ClockedHub

/-! The identity of a node from its MAC to the hub's table: `get_node_id` prints
four bytes of it, the query carries them as `id=...`, `temp_node_post` takes them
out again, and `get_or_create_node` compares them. -/

namespace ZephyrHomeHub.Node

open Foundation.CString Foundation.HexBytes Foundation.LabelledMachine ZephyrHomeHub.Hub

abbrev Mac := List.Vector UInt8 6

def enodev : Int := -19

/-- `char node_id[9]` -/
def nodeIdBufSize : Nat := 9

def queryParamSize : Nat := 32

/-- Bytes 2 to 5 of the MAC, which the id is printed from. -/
def idBytes (mac : Mac) : List UInt8 := mac.toList.drop 2

/-- Without an interface or a link address the buffer is left as it was. -/
def getNodeId {size : Nat} (linkAddr : Option Mac) (nodeIdBuf : Buffer size) (bufLen : Nat) :
    Int × Buffer size :=
  match linkAddr with
  | none => (enodev, nodeIdBuf)
  | some mac => (0, nodeIdBuf.snprintf bufLen (printHex (idBytes mac)))

/-- The text `id=` -/
def idPrefix : List UInt8 := [105, 100, 61]

/-- The buffers of the sender as it finds them. -/
structure QueryLocals where
  nodeId : Buffer nodeIdBufSize
  queryParam : Buffer queryParamSize

/-- The Uri-Query option `send_sensor_value_and_wait_for_reply` appends: the
`strlen(query_param)` bytes of the formatted text. -/
def sentQuery (linkAddr : Option Mac) (locals : QueryLocals) : Option (List UInt8) :=
  let identified := getNodeId linkAddr locals.nodeId nodeIdBufSize
  if identified.1 < 0 then none
  else some (cstr (locals.queryParam.snprintf queryParamSize
    (idPrefix ++ cstr identified.2.toList)).toList)

structure NodePost where
  mac : Mac
  query : QueryLocals
  uptime : Int
  locals : PostLocals
  payload : List UInt8

def NodePost.message (post : NodePost) : TempDataMsg :=
  tempNodePost post.uptime post.locals
    { uriQuery := (sentQuery (some post.mac) post.query).toList, payload := post.payload }

theorem length_idBytes (mac : Mac) : (idBytes mac).length = 4 := by
  rw [idBytes, List.length_drop, mac.toList_length]

theorem length_printHex_idBytes (mac : Mac) : (printHex (idBytes mac)).length = 8 := by
  rw [length_printHex, length_idBytes]

theorem sentQuery_eq (mac : Mac) (locals : QueryLocals) :
    sentQuery (some mac) locals = some (idPrefix ++ printHex (idBytes mac)) := by
  have clean := zero_not_mem_printHex (idBytes mac)
  have lengthEq := length_printHex_idBytes mac
  have nodeId : cstr (locals.nodeId.snprintf nodeIdBufSize (printHex (idBytes mac))).toList =
      printHex (idBytes mac) := by
    rw [cstr_snprintf _ _ (by decide), cstr_of_clean clean]
    exact List.take_of_length_le (Nat.le_of_eq lengthEq)
  have queryClean : (0 : UInt8) ∉ idPrefix ++ printHex (idBytes mac) := by
    rw [List.mem_append, not_or]
    exact ⟨by decide, clean⟩
  have short : (idPrefix ++ printHex (idBytes mac)).length ≤ queryParamSize - 1 := by
    rw [List.length_append, lengthEq]
    decide
  change (if (0 : Int) < 0 then none else some _) = _
  rw [if_neg (by decide)]
  change some (cstr (locals.queryParam.snprintf queryParamSize (idPrefix ++ cstr
    (locals.nodeId.snprintf nodeIdBufSize (printHex (idBytes mac))).toList)).toList) = _
  rw [nodeId, cstr_snprintf _ _ (by decide), cstr_of_clean queryClean,
    List.take_of_length_le short]

theorem NodePost.message_id (post : NodePost) : post.message.id = printHex (idBytes post.mac) := by
  have lengthEq := length_printHex_idBytes post.mac
  have queryLength : (idPrefix ++ printHex (idBytes post.mac)).length = 11 := by
    rw [List.length_append, lengthEq]
    rfl
  rw [NodePost.message, tempNodePost_id, sentQuery_eq]
  change postedId _ [idPrefix ++ printHex (idBytes post.mac)] = _
  rw [postedId, queryLength, if_pos (by decide), if_neg (by decide)]
  exact cstr_of_clean (zero_not_mem_printHex _)

/-- `main` passes the message it holds to `get_or_create_node`, and a slot has its
id or is free. -/
structure ReachesTable (hub next : ClockedHub) (msg : TempDataMsg) : Prop where
  held : hub.held = some msg
  room : ∃ slot, (hub.nodes slot).matches msg.nodeId ∨ (hub.nodes slot).used = false
  stepped : ∃ temperatureTabActive tempTab,
    hub.step (.loopBody temperatureTabActive tempTab) = some next

def StoredIn (hub next : ClockedHub) (msg : TempDataMsg) (slot : Slot) : Prop :=
  ∃ table, getOrCreateNode hub.nodes msg.nodeId = some (slot, table) ∧
    (next.nodes slot).ring = (table slot).ring.push msg.reading

def StandsFor (nodes : Nodes) (slot : Slot) (id : List UInt8) : Prop :=
  (nodes slot).used = true ∧ (nodes slot).id = id

theorem ReachesTable.stored {hub next : ClockedHub} {msg : TempDataMsg}
    (reaches : ReachesTable hub next msg) :
    ∃ slot, StoredIn hub next msg slot ∧ StandsFor next.nodes slot msg.id := by
  rcases reaches with ⟨held, room, temperatureTabActive, tempTab, stepped⟩
  rcases Option.isSome_iff_exists.1 (getOrCreateNode_isSome room) with ⟨⟨slot, table⟩, found⟩
  rcases ClockedHub.loopBody_cases stepped with ⟨other, context, same, -, rfl⟩
  rw [held] at same
  cases same
  have entry : (drainBody context hub.nodes msg).1 slot = context.updateEntry (table slot) msg := by
    rw [drainBody, found]
    exact Function.update_self _ _ _
  have identity := getOrCreateNode_found found
  refine ⟨slot, ⟨table, found, ?_⟩, ?_⟩
  · change ((drainBody context hub.nodes msg).1 slot).ring = _
    rw [entry, updateEntry_ring]
  · change StandsFor (drainBody context hub.nodes msg).1 slot msg.id
    unfold StandsFor
    rw [entry, updateEntry_used, updateEntry_id]
    exact identity

theorem standsFor_step {hub next : ClockedHub} {slot : Slot} {id : List UInt8}
    (sound : hub.Sound) (stands : StandsFor hub.nodes slot id) {action : ClockedAction}
    (stepped : hub.step action = some next) : StandsFor next.nodes slot id := by
  cases action with
  | tick elapsed =>
      cases stepped
      exact stands
  | post locals request =>
      rcases ClockedHub.within_cases stepped with ⟨pipeline, -, rfl⟩
      exact stands
  | thread step =>
      rcases ClockedHub.within_cases stepped with ⟨pipeline, -, rfl⟩
      exact stands
  | msgqGet =>
      rcases ClockedHub.msgqGet_cases stepped with ⟨msg, pipeline, -, -, -, -, rfl⟩
      exact stands
  | loopBody temperatureTabActive tempTab =>
      rcases ClockedHub.loopBody_cases stepped with ⟨msg, context, -, -, rfl⟩
      rcases sound.table with ⟨items, table, -⟩
      have refines := items.refines
      rw [← table] at refines
      change StandsFor (drainBody context hub.nodes msg).1 slot id
      unfold StandsFor
      rcases drainBody_slot refines context msg slot with ⟨same, -⟩ | ⟨-, -, here⟩ | ⟨free, -⟩
      · rw [same]
        exact stands
      · rw [here, updateEntry_used, updateEntry_id]
        exact stands
      · rw [stands.1] at free
        cases free

theorem standsFor_run {hub later : ClockedHub} {actions : List ClockedAction} {slot : Slot}
    {id : List UInt8} (sound : hub.Sound) (stands : StandsFor hub.nodes slot id)
    (ran : clockedMachine.run hub actions = some later) : StandsFor later.nodes slot id := by
  have both := clockedMachine.run_preserves
    (fun state => state.Sound ∧ StandsFor state.nodes slot id)
    (fun _ _ _ before stepped => ⟨before.1.step stepped, standsFor_step before.1 before.2 stepped⟩)
    hub later actions ⟨sound, stands⟩ ran
  exact both.2

theorem standsFor_unique {hub : ClockedHub} {left right : Slot} {leftId rightId : List UInt8}
    (sound : hub.Sound) (atLeft : StandsFor hub.nodes left leftId)
    (atRight : StandsFor hub.nodes right rightId) : left = right ↔ leftId = rightId := by
  rcases sound.table with ⟨items, table, -⟩
  rw [table] at atLeft atRight
  constructor
  · intro same
    rw [← atLeft.2, ← atRight.2, same]
  · intro same
    refine items.table_injective atLeft.1 atRight.1 ?_
    rw [atLeft.2, atRight.2, same]

/-- Byte 2, 3, 4 or 5 -/
def Mac.idByte (mac : Mac) (position : Fin 4) : UInt8 := mac.get (position.natAdd 2)

/-- The id is the two upper-case digits of each of these bytes in turn, the high half
first. -/
structure SpellsMac (mac : Mac) (id : List UInt8) : Prop where
  length : id.length = 8
  digits : ∀ position : Fin 4,
    id[2 * position.val]? = upperHexDigits[(Mac.idByte mac position).toNat / 16]? ∧
      id[2 * position.val + 1]? = upperHexDigits[(Mac.idByte mac position).toNat % 16]?

theorem idBytes_getElem? (mac : Mac) (position : Fin 4) :
    (idBytes mac)[position.val]? = some (Mac.idByte mac position) := by
  rw [idBytes, List.getElem?_drop, Mac.idByte, List.Vector.get_eq_get_toList,
    List.getElem?_eq_getElem]
  rfl

theorem printHex_spells (mac : Mac) : SpellsMac mac (printHex (idBytes mac)) :=
  { length := length_printHex_idBytes mac
    digits := fun position => getElem?_printHex (idBytes_getElem? mac position) }

theorem idBytes_eq_iff (left right : Mac) :
    idBytes left = idBytes right ↔
      ∀ position, Mac.idByte left position = Mac.idByte right position := by
  constructor
  · intro same position
    have here := idBytes_getElem? left position
    rw [same, idBytes_getElem?] at here
    exact (Option.some.inj here).symm
  · intro agree
    apply List.ext_getElem?
    intro position
    by_cases inside : position < 4
    · have atLeft := idBytes_getElem? left ⟨position, inside⟩
      have atRight := idBytes_getElem? right ⟨position, inside⟩
      rw [agree] at atLeft
      exact atLeft.trans atRight.symm
    · rw [List.getElem?_eq_none, List.getElem?_eq_none]
      · rw [length_idBytes]
        exact Nat.le_of_not_lt inside
      · rw [length_idBytes]
        exact Nat.le_of_not_lt inside

/-- The hub takes the eight hexadecimal digits out of the query as the node printed
them. Of two readings that reach the table in one run, whatever happens between
them, both go to the same slot exactly when the two MACs agree on the printed bytes. -/
theorem nodeId_decides_slot (earlier later : NodePost) :
    SpellsMac earlier.mac earlier.message.id ∧ SpellsMac later.mac later.message.id ∧
      ∀ (hub stored found final : ClockedHub) (between : List ClockedAction),
        clockedMachine.Reachable hub → ReachesTable hub stored earlier.message →
        clockedMachine.run stored between = some found →
        ReachesTable found final later.message →
        ∃ earlierSlot laterSlot, StoredIn hub stored earlier.message earlierSlot ∧
          StoredIn found final later.message laterSlot ∧
          (earlierSlot = laterSlot ↔
            ∀ position, Mac.idByte earlier.mac position = Mac.idByte later.mac position) := by
  refine ⟨earlier.message_id ▸ printHex_spells _, later.message_id ▸ printHex_spells _, ?_⟩
  intro hub stored found final between reachable first ran second
  have sound := clocked_reachable_sound reachable
  rcases first.stored with ⟨earlierSlot, atEarlier, earlierId⟩
  rcases second.stored with ⟨laterSlot, atLater, laterId⟩
  refine ⟨earlierSlot, laterSlot, atEarlier, atLater, ?_⟩
  rcases first.stepped with ⟨_, _, firstStep⟩
  rcases second.stepped with ⟨_, _, secondStep⟩
  have soundStored := sound.step firstStep
  have soundFound : found.Sound := clockedMachine.run_preserves ClockedHub.Sound
    (fun _ _ _ before stepped => before.step stepped) stored found between soundStored ran
  have kept := standsFor_step soundFound (standsFor_run soundStored earlierId ran) secondStep
  rw [standsFor_unique (soundFound.step secondStep) kept laterId, earlier.message_id,
    later.message_id, ← idBytes_eq_iff]
  exact ⟨printHex_injective, congrArg printHex⟩

def postOf (mac : Mac) : NodePost :=
  { mac := mac
    query := { nodeId := Buffer.zero _, queryParam := Buffer.zero _ }
    uptime := 0
    locals :=
      { queryOpt := { len := 0, value := Buffer.zero _ }, payloadStr := Buffer.zero _ }
    payload := [] }

def NodePost.delivery (post : NodePost) : List ClockedAction :=
  deliveryRun post.locals
    { uriQuery := (sentQuery (some post.mac) post.query).toList, payload := post.payload } ++
    [.msgqGet]

def kitchenPost : NodePost := postOf ⟨[2, 0, 94, 16, 0, 1], rfl⟩

def gardenPost : NodePost := postOf ⟨[2, 0, 94, 16, 0, 2], rfl⟩

theorem kitchen_and_garden_apart :
    SpellsMac kitchenPost.mac kitchenPost.message.id ∧
      SpellsMac gardenPost.mac gardenPost.message.id ∧
      ∃ hub stored found final : ClockedHub,
        clockedMachine.run ClockedHub.boot (.thread .uiWorkQueueInit :: kitchenPost.delivery) =
          some hub ∧
        ReachesTable hub stored kitchenPost.message ∧
        clockedMachine.run stored gardenPost.delivery = some found ∧
        ReachesTable found final gardenPost.message ∧
        ∃ kitchenSlot gardenSlot, StoredIn hub stored kitchenPost.message kitchenSlot ∧
          StoredIn found final gardenPost.message gardenSlot ∧ kitchenSlot ≠ gardenSlot := by
  have reached : ∃ hub stored,
      clockedMachine.run ClockedHub.boot (.thread .uiWorkQueueInit :: kitchenPost.delivery) =
          some hub ∧ ReachesTable hub stored kitchenPost.message ∧
        ∃ found final, clockedMachine.run stored gardenPost.delivery = some found ∧
          ReachesTable found final gardenPost.message :=
    ⟨_, _, rfl, ⟨rfl, ⟨⟨0, by decide⟩, .inr rfl⟩, true, true, rfl⟩, _, _, rfl,
      ⟨rfl, ⟨⟨1, by decide⟩, .inr rfl⟩, true, true, rfl⟩⟩
  rcases reached with ⟨hub, stored, ran, kitchen, found, final, continued, garden⟩
  rcases nodeId_decides_slot kitchenPost gardenPost with ⟨kitchenId, gardenId, decides⟩
  rcases decides hub stored found final gardenPost.delivery ⟨_, ran⟩ kitchen continued garden with
    ⟨kitchenSlot, gardenSlot, atKitchen, atGarden, apart⟩
  refine ⟨kitchenId, gardenId, hub, stored, found, final, ran, kitchen, continued, garden,
    kitchenSlot, gardenSlot, atKitchen, atGarden, ?_⟩
  rw [ne_eq, apart]
  decide

end ZephyrHomeHub.Node
