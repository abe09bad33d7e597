import ZephyrHomeHub.Hub.NodeTableRefinement

/-! Stale data while the Temperature tab is watched. A card is painted only when
a message of its node is drained, so it shows the age its data had then. Its
colour is right at the end of every iteration exactly as long as no card that is
not red passes the threshold in an iteration that drains nothing for its node. -/

namespace ZephyrHomeHub.Hub

open Foundation.CString Foundation.LabelledMachine

def MainLoop.watching : MainLoop := { MainLoop.start with temperatureTabActive := true }

def StaysOnTemperatureTab (iteration : Iteration) : Prop :=
  ∀ tabIdx ∈ iteration.tabs, tabIdx = tabTemperature

/-- Every card of a used node is red exactly when its data is stale. -/
def MainLoop.StaleShown (loop : MainLoop) : Prop :=
  ∀ slot card, (loop.nodes slot).used = true → (loop.nodes slot).card = some card →
    (card.red ↔ loop.uptime - (loop.nodes slot).lastUpdateTime > staleDataThresholdMs)

/-- A node whose card is not red yet and for which the iteration drains nothing
has data that is still fresh in this iteration. -/
def SilentNodesFresh (loop : MainLoop) (iteration : Iteration) : Prop :=
  ∀ slot card, (loop.nodes slot).used = true → (loop.nodes slot).card = some card → ¬card.red →
    (∀ msg ∈ iteration.batch, msg.id ≠ (loop.nodes slot).id) →
    loop.uptime + iteration.elapsed - (loop.nodes slot).lastUpdateTime ≤ staleDataThresholdMs

theorem Card.paint_red (card : Card) (stale : Bool) (labelTemp labelHum : List UInt8) :
    Card.red { card.paint stale with labelTemp := labelTemp, labelHum := labelHum } ↔
      stale = true := by
  cases stale with
  | false => exact iff_of_false (fun red => by cases red.1) Bool.false_ne_true
  | true => exact iff_of_true ⟨rfl, rfl, rfl⟩ rfl

theorem updateEntry_red {context : LoopContext} (active : context.temperatureTabActive = true)
    (node : NodeInfo) (msg : TempDataMsg) {card : Card}
    (shown : (context.updateEntry node msg).card = some card) :
    card.red ↔ context.uptime - (context.updateEntry node msg).lastUpdateTime >
      staleDataThresholdMs := by
  have lastUpdate : (context.updateEntry node msg).lastUpdateTime = msg.timestamp :=
    congrArg SensorData.timestamp (updateEntry_current context node msg)
  rw [lastUpdate]
  simp only [LoopContext.updateEntry, active, if_true] at shown
  generalize cardedEq : (if (node.storeReading msg).card.isNone then
    createNodeWidgets context.tempTab (node.storeReading msg)
    else node.storeReading msg) = carded at shown
  have stamp : carded.lastUpdateTime = msg.timestamp := by
    rw [← cardedEq]
    split
    · obtain ⟨other, equal⟩ := createNodeWidgets_frame context.tempTab (node.storeReading msg)
      rw [equal]
      rfl
    · rfl
  cases hasCard : carded.card with
  | none =>
      rw [updateNodeDisplay_none _ hasCard, hasCard] at shown
      cases shown
  | some before =>
      rw [updateNodeDisplay_some _ hasCard] at shown
      cases shown
      rw [Card.paint_red, isStale, stamp]
      exact decide_eq_true_iff

/-- What every iteration keeps: the tab, the shape of the table, and that a red
card is rightly red, since the clock does not run backwards. -/
structure MainLoop.Watched (loop : MainLoop) : Prop where
  active : loop.temperatureTabActive = true
  refines : ∃ registry, Refines loop.nodes registry
  redStale : ∀ slot card, (loop.nodes slot).used = true → (loop.nodes slot).card = some card →
    card.red → loop.uptime - (loop.nodes slot).lastUpdateTime > staleDataThresholdMs

theorem watching_watched : MainLoop.watching.Watched :=
  { active := rfl
    refines := ⟨_, refines_empty⟩
    redStale := by
      intro slot card used
      cases used }

theorem watching_staleShown : MainLoop.watching.StaleShown := by
  intro slot card used
  cases used

private theorem stays_active {tabs : List Nat} (stays : ∀ tabIdx ∈ tabs, tabIdx = tabTemperature)
    {active : Bool} (before : active = true) :
    tabs.foldl (fun _ tabIdx => eventTabviewCb tabIdx) active = true := by
  induction tabs generalizing active with
  | nil => exact before
  | cons tabIdx rest ih =>
      obtain ⟨here, later⟩ := List.forall_mem_cons.1 stays
      exact ih later (decide_eq_true here)

/-- A slot after the iteration: updated, and then painted rightly, or left alone
with nothing drained for its node. -/
theorem watched_slot {loop : MainLoop} (watched : loop.Watched) (iteration : Iteration)
    (slot : Slot) :
    ((loop.iterate iteration).nodes slot = loop.nodes slot ∧
        ((loop.nodes slot).used = true →
          ∀ msg ∈ iteration.batch, msg.id ≠ (loop.nodes slot).id)) ∨
      ((∀ card, ((loop.iterate iteration).nodes slot).card = some card →
          (card.red ↔ loop.uptime + iteration.elapsed -
            ((loop.iterate iteration).nodes slot).lastUpdateTime > staleDataThresholdMs)) ∧
        ((loop.nodes slot).used = true →
          ∃ msg ∈ iteration.batch, msg.id = (loop.nodes slot).id)) := by
  obtain ⟨registry, refines⟩ := watched.refines
  rw [iterate_nodes]
  rcases drainAll_slot refines (loop.contextAt iteration) iteration.batch slot with
    untouched | ⟨node, msg, member, update, _, own, kept⟩
  · exact Or.inl untouched
  · refine Or.inr ⟨fun card shown => ?_, fun inUse => ⟨msg, member, own.symm.trans (kept inUse)⟩⟩
    rw [update] at shown ⊢
    exact updateEntry_red watched.active node msg shown

theorem MainLoop.Watched.iterate {loop : MainLoop} (watched : loop.Watched) {iteration : Iteration}
    (stays : StaysOnTemperatureTab iteration) : (loop.iterate iteration).Watched := by
  obtain ⟨registry, refines⟩ := watched.refines
  refine { active := ?_, refines := ?_, redStale := ?_ }
  · rw [iterate_temperatureTabActive]
    exact stays_active stays watched.active
  · rw [iterate_nodes]
    exact ⟨_, drainAll_refines refines _⟩
  · intro slot card used shown red
    rw [iterate_uptime]
    rcases watched_slot watched iteration slot with ⟨same, _⟩ | ⟨painted, _⟩
    · rw [same] at used shown ⊢
      have before := watched.redStale slot card used shown red
      omega
    · exact (painted card shown).1 red

theorem staleShown_iterate_iff {loop : MainLoop} (watched : loop.Watched) (iteration : Iteration) :
    (loop.iterate iteration).StaleShown ↔ SilentNodesFresh loop iteration := by
  constructor
  · intro right slot card used shown notRed silent
    rcases watched_slot watched iteration slot with ⟨same, _⟩ | ⟨_, heard⟩
    · have colour := right slot card (same ▸ used) (same ▸ shown)
      rw [iterate_uptime, same] at colour
      exact Int.not_lt.1 fun stale => notRed (colour.2 stale)
    · obtain ⟨msg, member, own⟩ := heard used
      exact absurd own (silent msg member)
  · intro fresh slot card used shown
    rw [iterate_uptime]
    rcases watched_slot watched iteration slot with ⟨same, silent⟩ | ⟨painted, _⟩
    · rw [same] at used shown ⊢
      constructor
      · intro red
        have before := watched.redStale slot card used shown red
        omega
      · intro stale
        by_contra notRed
        have young := fresh slot card used shown notRed (silent used)
        omega
    · exact painted card shown

/-- In a run on the Temperature tab every state shows staleness rightly exactly
when in every iteration the silent nodes that are not red are still fresh. -/
theorem watched_run_staleShown_iff (run : List Iteration)
    (stays : ∀ iteration ∈ run, StaysOnTemperatureTab iteration) :
    (mainMachine MainLoop.watching).Always MainLoop.StaleShown MainLoop.watching run ↔
      (mainMachine MainLoop.watching).Guarded SilentNodesFresh MainLoop.watching run := by
  apply Machine.always_iff_guarded _ StaysOnTemperatureTab MainLoop.Watched
  · intro loop iteration next allowed watched stepped
    cases stepped
    exact watched.iterate allowed
  · intro loop iteration next _ watched _ stepped
    cases stepped
    exact staleShown_iterate_iff watched iteration
  · exact stays
  · exact watching_watched
  · exact watching_staleShown

def silentNodeRun : List Iteration :=
  [{ elapsed := 0
     batch := [{ nodeId := StringBuffer.zero nodeIdLen nodeIdLen_pos
                 temperature := .zero
                 humidity := .zero
                 timestamp := 0 }]
     tabs := [] },
   { elapsed := 120001, batch := [], tabs := [] }]

theorem silentNodeRun_stays : ∀ iteration ∈ silentNodeRun, StaysOnTemperatureTab iteration := by
  intro iteration member
  rcases List.mem_pair.1 member with rfl | rfl <;> exact List.forall_mem_nil _

theorem silentNodeRun_not_staleShown :
    ¬(mainMachine MainLoop.watching).Always MainLoop.StaleShown MainLoop.watching
      silentNodeRun := by
  rintro ⟨_, along⟩
  obtain ⟨_, last⟩ := along _ rfl
  have shown := last _ rfl ⟨0, by decide⟩ _ rfl rfl
  have red := shown.2 (by decide)
  exact absurd red.1 (by decide)

theorem silentNodeRun_staleShown_iff :
    (mainMachine MainLoop.watching).Always MainLoop.StaleShown MainLoop.watching silentNodeRun ↔
      (mainMachine MainLoop.watching).Guarded SilentNodesFresh MainLoop.watching silentNodeRun :=
  watched_run_staleShown_iff silentNodeRun silentNodeRun_stays

end ZephyrHomeHub.Hub
