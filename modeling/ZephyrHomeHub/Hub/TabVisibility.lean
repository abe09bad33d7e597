import ZephyrHomeHub.Hub.NodeTableRefinement

/-! What someone sees who looks at the Temperature tab. A card shows the last
reading that was drained while the tab was active, and switching to the tab
draws nothing anew, so the labels are current exactly for the nodes whose last
reading looks like that one. -/

namespace ZephyrHomeHub.Hub

open Foundation.BinaryFloat Foundation.CString Foundation.DecimalNumeral
  Foundation.FirstComeRegistry

def Card.labels (card : Card) : List UInt8 × List UInt8 := (card.labelTemp, card.labelHum)

def SensorData.labels (reading : SensorData) : List UInt8 × List UInt8 :=
  (temperatureText reading.temp, humidityText reading.hum)

def placeholderLabels : List UInt8 × List UInt8 :=
  (noValue ++ degreeCelsius, noValue ++ [percent, percent])

/-- The labels of a card that was last updated with the last of the readings. -/
def lastLabels (readings : List SensorData) : List UInt8 × List UInt8 :=
  match readings.getLast? with
  | none => placeholderLabels
  | some reading => reading.labels

def MessageSequence.shown (items : MessageSequence) (id : List UInt8) : List SensorData :=
  MessageSequence.readings (items.filter fun item => item.1.temperatureTabActive) id

/-- For every node of the table, the last reading drained with the tab active is
formatted as the last reading of all. -/
def MessageSequence.ShownCurrent (items : MessageSequence) : Prop :=
  ∀ id ∈ items.ids,
    (items.shown id).getLast?.map SensorData.labels =
      (items.readings id).getLast?.map SensorData.labels

def LabelsCurrent (nodes : Nodes) : Prop :=
  ∀ slot card, (nodes slot).used = true → (nodes slot).card = some card →
    card.labels = (nodes slot).current.labels

def SameLabels (nodes others : Nodes) : Prop :=
  ∀ slot, (nodes slot).used = true →
    (nodes slot).card.map Card.labels = (others slot).card.map Card.labels

/-! ### No reading looks like the placeholder -/

private theorem digitByte_ne_minus {digit : Nat} (small : digit < 10) :
    digitByte digit ≠ minus := by
  interval_cases digit <;> decide

theorem printTenths_last (value : Number) : (printTenths value).getLast? ≠ some minus := by
  cases value with
  | finite negative magnitude =>
      have last : (printTenths (.finite negative magnitude)).getLast? =
          some (digitByte (roundHalfEven (10 * magnitude) % 10)) := by
        unfold printTenths
        rw [List.getLast?_append]
        rfl
      rw [last]
      intro same
      exact digitByte_ne_minus (Nat.mod_lt _ (by decide)) (Option.some.inj same)
  | infinite negative => cases negative <;> decide
  | nan negative => cases negative <;> decide

theorem SensorData.labels_ne_placeholder (reading : SensorData) :
    reading.labels ≠ placeholderLabels := by
  intro same
  have textEq : printTenths reading.temp = noValue :=
    List.append_cancel_right (congrArg Prod.fst same)
  apply printTenths_last reading.temp
  rw [textEq]
  rfl

theorem lastLabels_eq_iff (readings : List SensorData) (reading : SensorData) :
    lastLabels readings = reading.labels ↔
      readings.getLast?.map SensorData.labels = some reading.labels := by
  unfold lastLabels
  cases readings.getLast? with
  | none =>
      constructor
      · intro same
        exact absurd same.symm reading.labels_ne_placeholder
      · intro impossible
        cases impossible
  | some last => exact Option.some_inj.symm

/-! ### What a card shows -/

theorem updateEntry_labels {context : LoopContext} (tab : context.tempTab = true)
    (node : NodeInfo) (msg : TempDataMsg) :
    ∃ card, (context.updateEntry node msg).card = some card ∧
      card.labels =
        if context.temperatureTabActive then msg.reading.labels
        else (node.card.map Card.labels).getD placeholderLabels := by
  obtain ⟨carded, cardedEq, data, labels⟩ : ∃ carded : NodeInfo,
      (if (node.storeReading msg).card.isNone then
        createNodeWidgets context.tempTab (node.storeReading msg)
        else node.storeReading msg) = carded ∧
      carded.current = msg.reading ∧
      ∃ card, carded.card = some card ∧
        card.labels = (node.card.map Card.labels).getD placeholderLabels := by
    refine ⟨_, rfl, ?_⟩
    rw [tab]
    cases hasCard : node.card with
    | none =>
        have absent : (node.storeReading msg).card.isNone = true := by
          rw [Option.isNone_iff_eq_none]
          exact hasCard
        rw [if_pos absent]
        exact ⟨rfl, _, rfl, rfl⟩
    | some card =>
        have present : ¬(node.storeReading msg).card.isNone = true := by
          rw [Option.isNone_iff_eq_none]
          exact fun absent => Option.some_ne_none card (hasCard.symm.trans absent)
        rw [if_neg present]
        exact ⟨rfl, card, hasCard, rfl⟩
  obtain ⟨card, hasCard, labels⟩ := labels
  unfold LoopContext.updateEntry
  simp only [cardedEq]
  cases context.temperatureTabActive with
  | false => exact ⟨card, hasCard, labels⟩
  | true =>
      refine ⟨_, updateNodeDisplay_some context.uptime hasCard, ?_⟩
      rw [if_pos rfl, ← data]
      rfl

theorem MessageSequence.shown_append (items : MessageSequence) (item : LoopContext × TempDataMsg)
    (id : List UInt8) :
    MessageSequence.shown (items ++ [item]) id =
      items.shown id ++
        if item.1.temperatureTabActive = true ∧ item.2.id = id then [item.2.reading] else [] := by
  unfold MessageSequence.shown MessageSequence.readings
  rw [List.filter_append, List.filter_append, List.map_append]
  cases active : item.1.temperatureTabActive with
  | false => simp [active]
  | true => by_cases own : item.2.id = id <;> simp [active, own]

theorem MessageSequence.first_reading (items : MessageSequence) {slot : Slot}
    (unused : (items.table slot).used = false) {msg : TempDataMsg}
    (unknown : ∀ other, ¬(items.table other).matches msg.nodeId) :
    msg.id ∉ items.map fun item => item.2.id := by
  intro present
  have unlisted : msg.id ∉ items.ids := by
    intro listed
    obtain ⟨other, atOther⟩ := items.slot_of_listed listed
    have holds := items.holds_at atOther
    exact unknown other ⟨holds.used, holds.id⟩
  have full := firstKeys_full_of_not_mem present unlisted
  have inside : slot.val < items.ids.length := by
    rw [MessageSequence.ids, full]
    exact slot.isLt
  rw [(items.used_iff slot).2 inside] at unused
  cases unused

def MessageSequence.CardsShow (items : MessageSequence) : Prop :=
  ∀ slot, (items.table slot).used = true →
    ∃ card, (items.table slot).card = some card ∧
      card.labels = lastLabels (items.shown (items.table slot).id)

private theorem cardsShow_append (items : MessageSequence) (item : LoopContext × TempDataMsg)
    (tab : ∀ other ∈ items ++ [item], other.1.tempTab = true) (before : items.CardsShow) :
    MessageSequence.CardsShow (items ++ [item]) := by
  intro slot used
  have tabBefore : ∀ other ∈ items, other.1.tempTab = true :=
    fun other member => tab other (List.mem_append_left _ member)
  have tabHere := tab item (List.mem_append_right _ (List.mem_singleton_self item))
  have tableEq : MessageSequence.table (items ++ [item]) =
      (drainBody item.1 items.table item.2).1 := by
    rw [MessageSequence.table, drainAll_append]
    rfl
  rw [tableEq] at used ⊢
  rcases drainBody_slot items.refines item.1 item.2 slot with
    ⟨same, foreign⟩ | ⟨known, own, updated⟩ | ⟨unused, unknown, updated⟩
  · rw [same] at used ⊢
    have other : ¬(item.1.temperatureTabActive = true ∧
        item.2.id = (items.table slot).id) := fun both => foreign used both.2
    rw [MessageSequence.shown_append, if_neg other, List.append_nil]
    exact before slot used
  · obtain ⟨old, hasCard, labels⟩ := before slot known
    obtain ⟨card, shown, cardLabels⟩ := updateEntry_labels tabHere (items.table slot) item.2
    rw [updated, updateEntry_id]
    refine ⟨card, shown, ?_⟩
    rw [cardLabels, hasCard, Option.map_some, Option.getD_some, labels,
      MessageSequence.shown_append]
    cases active : item.1.temperatureTabActive with
    | false => simp
    | true => simp [own, lastLabels]
  · obtain ⟨card, shown, cardLabels⟩ :=
      updateEntry_labels tabHere ((items.table slot).create item.2.nodeId) item.2
    rw [updated, updateEntry_id, NodeInfo.id_create]
    refine ⟨card, shown, ?_⟩
    have noCard : ((items.table slot).create item.2.nodeId).card = none := by
      have complete := (items.creations_eq tabBefore).1 slot
      rw [unused] at complete
      exact Option.isNone_iff_eq_none.1 (Option.isSome_eq_false_iff.1 complete)
    have nothing : items.shown item.2.nodeId.text = [] := by
      have first := items.first_reading unused unknown
      unfold MessageSequence.shown MessageSequence.readings
      rw [List.map_eq_nil_iff, List.filter_eq_nil_iff]
      intro other member own
      have inItems := List.mem_of_mem_filter member
      exact first (List.mem_map.2 ⟨other, inItems, of_decide_eq_true own⟩)
    rw [cardLabels, noCard, Option.map_none, Option.getD_none, MessageSequence.shown_append,
      nothing]
    cases active : item.1.temperatureTabActive with
    | false => simp [lastLabels]
    | true => simp [lastLabels, TempDataMsg.id]

theorem MessageSequence.cardsShow (items : MessageSequence)
    (tab : ∀ item ∈ items, item.1.tempTab = true) : items.CardsShow := by
  induction items using List.reverseRecOn with
  | nil =>
      intro slot used
      cases used
  | append_singleton items item ih =>
      exact cardsShow_append items item tab
        (ih fun other member => tab other (List.mem_append_left _ member))

theorem MessageSequence.slot_listed (items : MessageSequence) {slot : Slot}
    (used : (items.table slot).used = true) :
    (items.table slot).id ∈ items.ids ∧
      (items.readings (items.table slot).id).getLast? = some (items.table slot).current := by
  obtain ⟨id, listed⟩ := items.listed_of_used used
  have holds := items.holds_at listed
  rw [holds.id]
  exact ⟨List.mem_of_getElem? listed, holds.last⟩

theorem MessageSequence.labelsCurrent_iff (items : MessageSequence)
    (tab : ∀ item ∈ items, item.1.tempTab = true) :
    LabelsCurrent items.table ↔ items.ShownCurrent := by
  constructor
  · intro current id listed
    obtain ⟨slot, atSlot⟩ := items.slot_of_listed listed
    have holds := items.holds_at atSlot
    have used := holds.used
    obtain ⟨card, hasCard, labels⟩ := items.cardsShow tab slot used
    have latest := (items.slot_listed used).2
    rw [holds.id] at labels latest
    rw [current slot card used hasCard] at labels
    rw [latest, Option.map_some]
    exact (lastLabels_eq_iff _ _).1 labels.symm
  · intro shown slot card used hasCard
    obtain ⟨other, hasOther, labels⟩ := items.cardsShow tab slot used
    obtain ⟨listed, latest⟩ := items.slot_listed used
    rw [hasCard] at hasOther
    cases hasOther
    have same := shown _ listed
    rw [latest, Option.map_some] at same
    exact labels.trans ((lastLabels_eq_iff _ _).2 same)

/-! ### The loop that updates the display after every message -/

def MessageSequence.eager (items : MessageSequence) : MessageSequence :=
  items.map fun item => ({ item.1 with temperatureTabActive := true }, item.2)

theorem MessageSequence.eager_readings (items : MessageSequence) (id : List UInt8) :
    items.eager.readings id = items.readings id := by
  unfold MessageSequence.eager MessageSequence.readings
  rw [List.filter_map, List.map_map]
  rfl

theorem MessageSequence.eager_ids (items : MessageSequence) : items.eager.ids = items.ids := by
  unfold MessageSequence.eager MessageSequence.ids
  rw [List.map_map]
  rfl

theorem MessageSequence.eager_labelsCurrent (items : MessageSequence)
    (tab : ∀ item ∈ items, item.1.tempTab = true) : LabelsCurrent items.eager.table := by
  apply (items.eager.labelsCurrent_iff ?_).2
  · intro id _
    have always : ∀ item ∈ items.eager, item.1.temperatureTabActive = true := by
      intro item member
      obtain ⟨_, _, rfl⟩ := List.mem_map.1 member
      rfl
    unfold MessageSequence.shown
    rw [List.filter_eq_self.2 always]
  · intro item member
    obtain ⟨other, inItems, rfl⟩ := List.mem_map.1 member
    exact tab other inItems

/-- Both loops keep the same data, so the labels agree exactly where they are current. -/
theorem MessageSequence.sameLabels_iff (items : MessageSequence)
    (tab : ∀ item ∈ items, item.1.tempTab = true) :
    SameLabels items.table items.eager.table ↔ items.ShownCurrent := by
  rw [← items.labelsCurrent_iff tab]
  have tabEager : ∀ item ∈ items.eager, item.1.tempTab = true := by
    intro item member
    obtain ⟨other, inItems, rfl⟩ := List.mem_map.1 member
    exact tab other inItems
  have paired : ∀ slot, (items.table slot).used = true →
      ∃ card, (items.eager.table slot).card = some card ∧
        card.labels = (items.table slot).current.labels := by
    intro slot used
    obtain ⟨id, listed⟩ := items.listed_of_used used
    have holds := items.holds_at listed
    have eagerHolds := items.eager.holds_at (items.eager_ids.symm ▸ listed)
    obtain ⟨card, hasCard, _⟩ := items.eager.cardsShow tabEager slot eagerHolds.used
    refine ⟨card, hasCard, ?_⟩
    rw [items.eager_labelsCurrent tab slot card eagerHolds.used hasCard]
    have last := eagerHolds.last
    rw [items.eager_readings, holds.last] at last
    rw [Option.some.inj last]
  constructor
  · intro same slot card used hasCard
    obtain ⟨other, hasOther, labels⟩ := paired slot used
    have equal := same slot used
    rw [hasCard, hasOther, Option.map_some, Option.map_some] at equal
    exact (Option.some.inj equal).trans labels
  · intro current slot used
    obtain ⟨other, hasOther, labels⟩ := paired slot used
    obtain ⟨card, hasCard, _⟩ := items.cardsShow tab slot used
    rw [hasCard, hasOther, Option.map_some, Option.map_some, labels,
      current slot card used hasCard]

def MainLoop.after (loop : MainLoop) (run : List Iteration) : MainLoop :=
  run.foldl MainLoop.iterate loop

def MainLoop.drained (loop : MainLoop) : List Iteration → MessageSequence
  | [] => []
  | iteration :: rest =>
      iteration.batch.map (fun msg => (loop.contextAt iteration, msg)) ++
        MainLoop.drained (loop.iterate iteration) rest

/-- An iteration of the loop without the test of `temperature_tab_active`. -/
def MainLoop.iterateEager (loop : MainLoop) (iteration : Iteration) : MainLoop :=
  { loop.iterate iteration with
    nodes := (drainAll loop.nodes (MessageSequence.eager
      (iteration.batch.map fun msg => (loop.contextAt iteration, msg)))).1 }

def MainLoop.afterEager (loop : MainLoop) (run : List Iteration) : MainLoop :=
  run.foldl MainLoop.iterateEager loop

private theorem drainAll_concat (nodes : Nodes) (first second : MessageSequence) :
    (drainAll nodes (first ++ second)).1 = (drainAll (drainAll nodes first).1 second).1 := by
  induction second using List.reverseRecOn with
  | nil =>
      rw [List.append_nil]
      rfl
  | append_singleton second item ih =>
      rw [← List.append_assoc, drainAll_append, drainAll_append, ih]

theorem MainLoop.after_nodes (loop : MainLoop) (run : List Iteration) :
    (loop.after run).nodes = (drainAll loop.nodes (loop.drained run)).1 := by
  induction run generalizing loop with
  | nil => rfl
  | cons iteration rest ih =>
      rw [MainLoop.drained, drainAll_concat, ← iterate_nodes]
      exact ih (loop.iterate iteration)

theorem MainLoop.drained_tempTab (loop : MainLoop) (run : List Iteration)
    (tab : loop.tempTab = true) : ∀ item ∈ loop.drained run, item.1.tempTab = true := by
  induction run generalizing loop with
  | nil =>
      intro item member
      cases member
  | cons iteration rest ih =>
      intro item member
      rcases List.mem_append.1 member with here | later
      · obtain ⟨_, _, rfl⟩ := List.mem_map.1 here
        exact tab
      · exact ih (loop.iterate iteration) ((iterate_tempTab loop iteration).trans tab) item later

theorem MainLoop.afterEager_nodes (loop eager : MainLoop) (run : List Iteration)
    (uptime : eager.uptime = loop.uptime) (tab : eager.tempTab = loop.tempTab)
    (active : eager.temperatureTabActive = loop.temperatureTabActive) :
    (eager.afterEager run).nodes =
      (drainAll eager.nodes (loop.drained run).eager).1 := by
  induction run generalizing loop eager with
  | nil => rfl
  | cons iteration rest ih =>
      have context : eager.contextAt iteration = loop.contextAt iteration := by
        unfold MainLoop.contextAt
        rw [uptime, tab, active]
      have split : (loop.drained (iteration :: rest)).eager =
          MessageSequence.eager
              (iteration.batch.map fun msg => (loop.contextAt iteration, msg)) ++
            (MainLoop.drained (loop.iterate iteration) rest).eager :=
        List.map_append
      rw [split, drainAll_concat, ← context]
      apply ih (loop.iterate iteration) (eager.iterateEager iteration)
      · change (eager.iterate iteration).uptime = _
        rw [iterate_uptime, iterate_uptime, uptime]
      · change (eager.iterate iteration).tempTab = _
        rw [iterate_tempTab, iterate_tempTab, tab]
      · change (eager.iterate iteration).temperatureTabActive = _
        rw [iterate_temperatureTabActive, iterate_temperatureTabActive, active]

theorem after_labelsCurrent_iff (run : List Iteration) :
    LabelsCurrent (MainLoop.start.after run).nodes ↔ (MainLoop.start.drained run).ShownCurrent := by
  rw [MainLoop.after_nodes]
  exact MessageSequence.labelsCurrent_iff _ (MainLoop.start.drained_tempTab run rfl)

theorem after_sameLabels_iff (run : List Iteration) :
    SameLabels (MainLoop.start.after run).nodes (MainLoop.start.afterEager run).nodes ↔
      (MainLoop.start.drained run).ShownCurrent := by
  rw [MainLoop.after_nodes, MainLoop.afterEager_nodes MainLoop.start _ _ rfl rfl rfl]
  exact MessageSequence.sameLabels_iff _ (MainLoop.start.drained_tempTab run rfl)

def EveryVisible (run : List Iteration) (good : List Iteration → Prop) : Prop :=
  ∀ before, before <+: run → (MainLoop.start.after before).temperatureTabActive = true →
    good before

/-- Whenever the Temperature tab is visible its labels are current, and the same
as with an update after every message, exactly when each node's last reading
drained with the tab active looks like its last reading. -/
theorem visible_labels_current_iff (run : List Iteration) :
    (EveryVisible run (fun before => LabelsCurrent (MainLoop.start.after before).nodes) ↔
        EveryVisible run (fun before => (MainLoop.start.drained before).ShownCurrent)) ∧
      (EveryVisible run (fun before =>
          SameLabels (MainLoop.start.after before).nodes
            (MainLoop.start.afterEager before).nodes) ↔
        EveryVisible run (fun before => (MainLoop.start.drained before).ShownCurrent)) := by
  constructor
  · constructor
    · intro current before within active
      exact (after_labelsCurrent_iff before).1 (current before within active)
    · intro shown before within active
      exact (after_labelsCurrent_iff before).2 (shown before within active)
  · constructor
    · intro same before within active
      exact (after_sameLabels_iff before).1 (same before within active)
    · intro shown before within active
      exact (after_sameLabels_iff before).2 (shown before within active)

/-- A reading arrives while the Welcome tab is active, then the Temperature tab
is selected. -/
def hiddenReadingRun : List Iteration :=
  [{ elapsed := 0
     batch := [{ nodeId := StringBuffer.zero nodeIdLen nodeIdLen_pos
                 temperature := .zero
                 humidity := .zero
                 timestamp := 0 }]
     tabs := [tabTemperature] }]

theorem hiddenReadingRun_not_current :
    ¬EveryVisible hiddenReadingRun
      (fun before => LabelsCurrent (MainLoop.start.after before).nodes) := by
  intro current
  have labels := current hiddenReadingRun (List.prefix_refl _) rfl ⟨0, by decide⟩ _ rfl rfl
  exact SensorData.labels_ne_placeholder _ labels.symm

end ZephyrHomeHub.Hub
