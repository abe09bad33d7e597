import ZephyrHomeHub.Foundation.LabelledMachine
import ZephyrHomeHub.Hub.NodeTable
import ZephyrHomeHub.Hub.TemperatureTab

/-! The loop of `main`. One iteration reads the clock, drains the message queue
and runs the LVGL tasks, which deliver tab switches to `event_tabview_cb`. -/

namespace ZephyrHomeHub.Hub

open Foundation.DecimalNumeral Foundation.LabelledMachine

structure LoopContext where
  uptime : Int
  temperatureTabActive : Bool
  tempTab : Bool

inductive UiCall where
  | createNodeWidgets (slot : Slot)
  | updateNodeDisplay (slot : Slot)
deriving DecidableEq

def LoopContext.updateEntry (context : LoopContext) (node : NodeInfo) (msg : TempDataMsg) :
    NodeInfo :=
  let stored := node.storeReading msg
  let carded := if stored.card.isNone then createNodeWidgets context.tempTab stored else stored
  if context.temperatureTabActive then updateNodeDisplay context.uptime carded else carded

def LoopContext.entryCalls (context : LoopContext) (node : NodeInfo) (slot : Slot) : List UiCall :=
  (if node.card.isNone then [.createNodeWidgets slot] else []) ++
    if context.temperatureTabActive then [.updateNodeDisplay slot] else []

/-- The body of the drain loop: the table after it and the display functions it
called. A message without a slot is dropped. -/
def drainBody (context : LoopContext) (nodes : Nodes) (msg : TempDataMsg) : Nodes × List UiCall :=
  match getOrCreateNode nodes msg.nodeId with
  | none => (nodes, [])
  | some (slot, found) =>
      (Function.update found slot (context.updateEntry (found slot) msg),
        context.entryCalls (found slot) slot)

def drainAll (nodes : Nodes) (items : List (LoopContext × TempDataMsg)) : Nodes × List UiCall :=
  items.foldl (fun state item =>
    ((drainBody item.1 state.1 item.2).1, state.2 ++ (drainBody item.1 state.1 item.2).2))
    (nodes, [])

def tabTemperature : Nat := 1

def eventTabviewCb (tabIdx : Nat) : Bool := tabIdx = tabTemperature

structure MainLoop where
  uptime : Int
  lastSecond : Int
  countLabel : List UInt8
  nodes : Nodes
  temperatureTabActive : Bool
  tempTab : Bool

/-- After `init_gui` the temperature tab exists and is not the active one. -/
def MainLoop.start : MainLoop :=
  { uptime := 0
    lastSecond := -1
    countLabel := []
    nodes := Nodes.zero
    temperatureTabActive := false
    tempTab := true }

/-- What happens to one iteration: the time since the last one, the messages its
drain loop finds and the active tab at each tab event. -/
structure Iteration where
  elapsed : Nat
  batch : List TempDataMsg
  tabs : List Nat

def colon : UInt8 := 58

def intRange : Nat := 2 ^ 32

/-- `printf("%02d")` of an `int`. -/
def printTwoDigitsInt (value : Int) : List UInt8 :=
  if value < 0 then minus :: printNat value.natAbs else printTwoDigits value.toNat

/-- The three `int`s that `sprintf` prints into `count_str`. -/
def countStr (currentSec : Int) : List UInt8 :=
  printTwoDigitsInt ((currentSec / 3600).bmod intRange) ++
    colon :: printTwoDigitsInt ((currentSec % 3600 / 60).bmod intRange) ++
      colon :: printTwoDigitsInt ((currentSec % 60).bmod intRange)

def MainLoop.updateClock (loop : MainLoop) (currentMs : Int) : MainLoop :=
  let currentSec := currentMs / 1000
  if currentSec ≠ loop.lastSecond then
    { loop with
      uptime := currentMs
      countLabel := countStr currentSec
      lastSecond := currentSec }
  else { loop with uptime := currentMs }

def MainLoop.context (loop : MainLoop) : LoopContext :=
  { uptime := loop.uptime
    temperatureTabActive := loop.temperatureTabActive
    tempTab := loop.tempTab }

def MainLoop.drain (loop : MainLoop) (batch : List TempDataMsg) : MainLoop :=
  { loop with
    nodes := (drainAll loop.nodes (batch.map fun msg => (loop.context, msg))).1 }

def MainLoop.lvTaskHandler (loop : MainLoop) (tabs : List Nat) : MainLoop :=
  { loop with
    temperatureTabActive := tabs.foldl (fun _ tabIdx => eventTabviewCb tabIdx)
      loop.temperatureTabActive }

def MainLoop.iterate (loop : MainLoop) (iteration : Iteration) : MainLoop :=
  ((loop.updateClock (loop.uptime + iteration.elapsed)).drain iteration.batch).lvTaskHandler
    iteration.tabs

def MainLoop.contextAt (loop : MainLoop) (iteration : Iteration) : LoopContext :=
  { uptime := loop.uptime + iteration.elapsed
    temperatureTabActive := loop.temperatureTabActive
    tempTab := loop.tempTab }

def mainMachine (start : MainLoop) : Machine MainLoop Iteration :=
  { initial := start
    step := fun loop iteration => some (loop.iterate iteration) }

private theorem updateClock_frame (loop : MainLoop) (currentMs : Int) :
    ∃ lastSecond countLabel, loop.updateClock currentMs =
      { loop with uptime := currentMs, lastSecond := lastSecond, countLabel := countLabel } := by
  unfold MainLoop.updateClock
  by_cases changed : currentMs / 1000 ≠ loop.lastSecond
  · exact ⟨_, _, if_pos changed⟩
  · exact ⟨_, _, if_neg changed⟩

theorem iterate_uptime (loop : MainLoop) (iteration : Iteration) :
    (loop.iterate iteration).uptime = loop.uptime + iteration.elapsed := by
  obtain ⟨lastSecond, countLabel, clock⟩ :=
    updateClock_frame loop (loop.uptime + iteration.elapsed)
  rw [MainLoop.iterate, clock]
  rfl

theorem iterate_nodes (loop : MainLoop) (iteration : Iteration) :
    (loop.iterate iteration).nodes =
      (drainAll loop.nodes (iteration.batch.map fun msg => (loop.contextAt iteration, msg))).1 := by
  obtain ⟨lastSecond, countLabel, clock⟩ :=
    updateClock_frame loop (loop.uptime + iteration.elapsed)
  rw [MainLoop.iterate, clock]
  rfl

theorem iterate_temperatureTabActive (loop : MainLoop) (iteration : Iteration) :
    (loop.iterate iteration).temperatureTabActive =
      iteration.tabs.foldl (fun _ tabIdx => eventTabviewCb tabIdx) loop.temperatureTabActive := by
  obtain ⟨lastSecond, countLabel, clock⟩ :=
    updateClock_frame loop (loop.uptime + iteration.elapsed)
  rw [MainLoop.iterate, clock]
  rfl

theorem iterate_tempTab (loop : MainLoop) (iteration : Iteration) :
    (loop.iterate iteration).tempTab = loop.tempTab := by
  obtain ⟨lastSecond, countLabel, clock⟩ :=
    updateClock_frame loop (loop.uptime + iteration.elapsed)
  rw [MainLoop.iterate, clock]
  rfl

theorem drainBody_dropped {context : LoopContext} {nodes : Nodes} {msg : TempDataMsg}
    (full : getOrCreateNode nodes msg.nodeId = none) :
    drainBody context nodes msg = (nodes, []) := by
  rw [drainBody, full]

theorem drainBody_known {context : LoopContext} {nodes : Nodes} {msg : TempDataMsg} {slot : Slot}
    (known : getOrCreateNode nodes msg.nodeId = some (slot, nodes)) :
    drainBody context nodes msg =
      (Function.update nodes slot (context.updateEntry (nodes slot) msg),
        context.entryCalls (nodes slot) slot) := by
  rw [drainBody, known]

theorem drainBody_fresh {context : LoopContext} {nodes : Nodes} {msg : TempDataMsg} {slot : Slot}
    (fresh : getOrCreateNode nodes msg.nodeId =
      some (slot, Function.update nodes slot ((nodes slot).create msg.nodeId))) :
    drainBody context nodes msg =
      (Function.update nodes slot
          (context.updateEntry ((nodes slot).create msg.nodeId) msg),
        context.entryCalls ((nodes slot).create msg.nodeId) slot) := by
  rw [drainBody, fresh]
  simp only [Function.update_self, Function.update_idem]

theorem drainAll_append (nodes : Nodes) (items : List (LoopContext × TempDataMsg))
    (item : LoopContext × TempDataMsg) :
    drainAll nodes (items ++ [item]) =
      ((drainBody item.1 (drainAll nodes items).1 item.2).1,
        (drainAll nodes items).2 ++ (drainBody item.1 (drainAll nodes items).1 item.2).2) := by
  rw [drainAll, List.foldl_append]
  rfl

theorem updateEntry_frame (context : LoopContext) (node : NodeInfo) (msg : TempDataMsg) :
    ∃ card, context.updateEntry node msg = { node.storeReading msg with card := card } := by
  have carded : ∃ card, (if (node.storeReading msg).card.isNone then
      createNodeWidgets context.tempTab (node.storeReading msg) else node.storeReading msg) =
      { node.storeReading msg with card := card } := by
    split
    · exact createNodeWidgets_frame context.tempTab _
    · exact ⟨_, rfl⟩
  obtain ⟨card, cardedEq⟩ := carded
  simp only [LoopContext.updateEntry, cardedEq]
  split
  · obtain ⟨shown, shownEq⟩ := updateNodeDisplay_frame context.uptime
      { node.storeReading msg with card := card }
    exact ⟨shown, shownEq⟩
  · exact ⟨card, rfl⟩

theorem updateEntry_used (context : LoopContext) (node : NodeInfo) (msg : TempDataMsg) :
    (context.updateEntry node msg).used = node.used := by
  obtain ⟨card, equal⟩ := updateEntry_frame context node msg
  rw [equal]
  rfl

theorem updateEntry_id (context : LoopContext) (node : NodeInfo) (msg : TempDataMsg) :
    (context.updateEntry node msg).id = node.id := by
  obtain ⟨card, equal⟩ := updateEntry_frame context node msg
  rw [equal]
  rfl

theorem updateEntry_current (context : LoopContext) (node : NodeInfo) (msg : TempDataMsg) :
    (context.updateEntry node msg).current = msg.reading := by
  obtain ⟨card, equal⟩ := updateEntry_frame context node msg
  rw [equal]
  rfl

theorem updateEntry_ring (context : LoopContext) (node : NodeInfo) (msg : TempDataMsg) :
    (context.updateEntry node msg).ring = node.ring.push msg.reading := by
  obtain ⟨card, equal⟩ := updateEntry_frame context node msg
  rw [equal, ← NodeInfo.ring_storeReading]
  rfl

theorem updateEntry_card_isSome (context : LoopContext) (node : NodeInfo) (msg : TempDataMsg)
    (tab : context.tempTab = true) : (context.updateEntry node msg).card.isSome = true := by
  have carded : (if (node.storeReading msg).card.isNone then
      createNodeWidgets context.tempTab (node.storeReading msg)
      else node.storeReading msg).card.isSome = true := by
    split
    · rw [tab]
      rfl
    · rename_i present
      rw [Option.isNone_iff_eq_none] at present
      exact Option.isSome_iff_ne_none.2 present
  simp only [LoopContext.updateEntry]
  split
  · rw [updateNodeDisplay_card_isSome]
    exact carded
  · exact carded

end ZephyrHomeHub.Hub
