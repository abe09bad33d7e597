import ZephyrHomeHub.Hub.ClockedHub

/-! The timestamps on their way from `temp_node_post` into the histories. All
messages, from the received ones to the one the CoAP thread holds, are in the order
of their stamps, and none is stamped later than now. -/

namespace ZephyrHomeHub.Hub

open Foundation.CString Foundation.LabelledMachine

def InTimeOrder (msgs : List TempDataMsg) : Prop :=
  msgs.Pairwise fun earlier later => earlier.timestamp ≤ later.timestamp

structure ClockedHub.Timely (hub : ClockedHub) : Prop where
  sound : hub.Sound
  ordered : InTimeOrder hub.pipeline.stream
  past : hub.pipeline.Carries fun msg => msg.timestamp ≤ hub.uptime

theorem timely_boot : ClockedHub.boot.Timely :=
  { sound := clocked_sound_boot
    ordered := List.Pairwise.nil
    past :=
      { pool := fun _ => Int.le_refl 0
        queued := List.forall_mem_nil _
        received := List.forall_mem_nil _
        calling := List.forall_mem_nil _ } }

private theorem ordered_step {hub : ClockedHub} (timely : hub.Timely) {next : Pipeline Unit}
    {action : PipelineAction Unit} (stepped : hub.pipeline.step action = some next)
    (now : ∀ msg ∈ action.called, msg.timestamp = hub.uptime) : InTimeOrder next.stream := by
  have sublist := Pipeline.stream_step timely.sound.inOrder timely.sound.slotFree stepped
  refine List.Pairwise.sublist sublist (List.pairwise_append.2 ⟨timely.ordered, ?_, ?_⟩)
  · cases action with
    | call caller msg => exact List.pairwise_singleton _ _
    | _ => exact List.Pairwise.nil
  · intro earlier before later called
    rw [now later called]
    exact timely.past.stream earlier before

theorem ClockedHub.uptime_le_step {hub next : ClockedHub} {action : ClockedAction}
    (stepped : hub.step action = some next) : hub.uptime ≤ next.uptime := by
  cases action with
  | tick elapsed =>
      cases stepped
      exact Int.le_add_of_nonneg_right (Int.natCast_nonneg elapsed)
  | post locals request =>
      rcases ClockedHub.within_cases stepped with ⟨pipeline, -, rfl⟩
      exact Int.le_refl _
  | thread step =>
      rcases ClockedHub.within_cases stepped with ⟨pipeline, -, rfl⟩
      exact Int.le_refl _
  | msgqGet =>
      rcases ClockedHub.msgqGet_cases stepped with ⟨msg, pipeline, -, -, -, -, rfl⟩
      exact Int.le_refl _
  | loopBody temperatureTabActive tempTab =>
      rcases ClockedHub.loopBody_cases stepped with ⟨msg, context, -, -, rfl⟩
      exact Int.le_refl _

theorem ClockedHub.Timely.step {hub next : ClockedHub} (timely : hub.Timely)
    {action : ClockedAction} (stepped : hub.step action = some next) : next.Timely := by
  have sound := timely.sound.step stepped
  rcases ClockedHub.pipeline_cases stepped with rests | ⟨inner, moved, uptime, called⟩
  · have later := ClockedHub.uptime_le_step stepped
    refine ⟨sound, ?_, ?_⟩
    · rw [rests]
      exact timely.ordered
    · rw [rests]
      exact timely.past.mono (fun _ before => Int.le_trans before later)
  · have now : ∀ msg ∈ inner.called, msg.timestamp = hub.uptime := by
      intro msg member
      rcases called msg member with ⟨locals, request, rfl⟩
      rfl
    refine ⟨sound, ordered_step timely moved now, ?_⟩
    rw [uptime]
    exact timely.past.step (fun msg member => Int.le_of_eq (now msg member)) moved

theorem MessageSequence.readings_ordered {items : MessageSequence}
    (ordered : InTimeOrder (items.map Prod.snd)) (id : List UInt8) :
    (items.readings id).Pairwise fun earlier later => earlier.timestamp ≤ later.timestamp := by
  have pairs := List.pairwise_map.1 ordered
  exact List.pairwise_map.2 (pairs.sublist List.filter_sublist)

theorem MessageSequence.readings_past {items : MessageSequence} {now : Int}
    (past : ∀ msg ∈ items.map Prod.snd, msg.timestamp ≤ now) {id : List UInt8}
    {reading : SensorData} (member : reading ∈ items.readings id) : reading.timestamp ≤ now := by
  rcases List.mem_map.1 member with ⟨item, kept, rfl⟩
  exact past item.2 (List.mem_map_of_mem (List.mem_of_mem_filter kept))

theorem SlotHolds.history {node : NodeInfo} {id : List UInt8} {readings : List SensorData}
    (holds : SlotHolds node id readings) :
    node.readHistory = readings.rtake historySize ∧
      node.readHistory.getLast? = some node.current := by
  have history : node.readHistory = readings.rtake historySize :=
    node.readHistory_eq.trans holds.ring.contents_eq
  refine ⟨history, ?_⟩
  have nonempty : readings ≠ [] := by
    intro empty
    have last := holds.last
    rw [empty] at last
    cases last
  have positive := List.length_pos_of_ne_nil nonempty
  have size : 0 < historySize := by decide
  rw [history, List.rtake, List.getLast?_drop, if_neg (by omega)]
  exact holds.last

/-- In every reachable state each history is in time order, ends in the reading of
`last_update_time`, and nothing stored or on its way is stamped later than now, so
the age that `update_node_display` computes is not negative. -/
theorem reachable_timestamps_ordered {hub : ClockedHub}
    (reachable : clockedMachine.Reachable hub) :
    (∀ slot, (hub.nodes slot).used = true →
      (hub.nodes slot).readHistory.Pairwise
          (fun earlier later => earlier.timestamp ≤ later.timestamp) ∧
        (hub.nodes slot).readHistory.getLast?.map SensorData.timestamp =
          some (hub.nodes slot).lastUpdateTime ∧
        (∀ reading ∈ (hub.nodes slot).readHistory, reading.timestamp ≤ hub.uptime) ∧
        0 ≤ hub.uptime - (hub.nodes slot).lastUpdateTime) ∧
      ∀ msg ∈ hub.messages, msg.timestamp ≤ hub.uptime := by
  have timely : hub.Timely := reachable.invariant ClockedHub.Timely timely_boot
    (fun _ _ _ before stepped => before.step stepped)
  refine ⟨?_, timely.sound.messages timely.past⟩
  rcases timely.sound.table with ⟨items, table, received⟩
  have ordered : InTimeOrder (items.map Prod.snd) := by
    refine List.Pairwise.sublist ?_ timely.ordered
    unfold Pipeline.stream
    rw [← received, List.append_assoc]
    exact List.sublist_append_left _ _
  have past : ∀ msg ∈ items.map Prod.snd, msg.timestamp ≤ hub.uptime := by
    intro msg member
    refine timely.past.received msg ?_
    rw [← received]
    exact List.mem_append_left _ member
  intro slot used
  rw [table] at used ⊢
  rcases items.listed_of_used used with ⟨id, listed⟩
  rcases (items.holds_at listed).history with ⟨history, last⟩
  have kept : ((items.table slot).readHistory).Sublist (items.readings id) := by
    rw [history]
    exact List.drop_sublist _ _
  have stored : ∀ reading ∈ (items.table slot).readHistory, reading.timestamp ≤ hub.uptime :=
    fun reading member => items.readings_past past (kept.subset member)
  refine ⟨(items.readings_ordered ordered id).sublist kept, ?_, stored, ?_⟩
  · rw [last]
    rfl
  · have newest := stored _ (List.mem_of_getLast? last)
    change (items.table slot).lastUpdateTime ≤ hub.uptime at newest
    omega

def stampedRun : List ClockedAction :=
  [.thread .uiWorkQueueInit, .tick 7] ++ deliveryRun noLocals kitchenRequest ++ [.tick 5] ++
    deliveryRun noLocals gardenRequest ++
    [.msgqGet, .loopBody true true, .tick 8, .msgqGet, .loopBody true true] ++
    deliveryRun noLocals kitchenRequest ++ [.tick 3, .msgqGet, .loopBody true true]

theorem stampedRun_ordered :
    ∃ hub, clockedMachine.run ClockedHub.boot stampedRun = some hub ∧
      (hub.nodes ⟨0, by decide⟩).readHistory.map SensorData.timestamp = [7, 20] ∧
      (hub.nodes ⟨1, by decide⟩).readHistory.map SensorData.timestamp = [12] ∧
      (∀ slot, (hub.nodes slot).used = true →
        (hub.nodes slot).readHistory.Pairwise
            (fun earlier later => earlier.timestamp ≤ later.timestamp) ∧
          (hub.nodes slot).readHistory.getLast?.map SensorData.timestamp =
            some (hub.nodes slot).lastUpdateTime ∧
          (∀ reading ∈ (hub.nodes slot).readHistory, reading.timestamp ≤ hub.uptime) ∧
          0 ≤ hub.uptime - (hub.nodes slot).lastUpdateTime) ∧
        ∀ msg ∈ hub.messages, msg.timestamp ≤ hub.uptime := by
  have computed : (clockedMachine.run ClockedHub.boot stampedRun).map
      (fun hub => ((hub.nodes ⟨0, by decide⟩).readHistory.map SensorData.timestamp,
        (hub.nodes ⟨1, by decide⟩).readHistory.map SensorData.timestamp)) =
        some ([7, 20], [12]) := by
    decide +kernel
  rcases Option.map_eq_some_iff.1 computed with ⟨hub, ran, equal⟩
  rcases Prod.mk.inj equal with ⟨kitchen, garden⟩
  exact ⟨hub, ran, kitchen, garden, reachable_timestamps_ordered ⟨stampedRun, ran⟩⟩

end ZephyrHomeHub.Hub
