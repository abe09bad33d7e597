import Mathlib.Logic.Function.Basic
import ZephyrHomeHub.Hub.DataModel

/-! `get_or_create_node` and the update of an entry by the drain loop of `main`. -/

namespace ZephyrHomeHub.Hub

open Foundation.CString Foundation.RingBuffer

/-- A fresh entry keeps its old readings; only the ring is emptied. -/
def NodeInfo.create (node : NodeInfo) (nodeId : StringBuffer nodeIdLen) : NodeInfo :=
  { node with
    nodeId := node.nodeId.strcpy nodeId
    used := true
    historyHead := ⟨0, historySize_pos⟩
    historyCount := ⟨0, emptyCount_lt⟩ }

/-- The slot of the id and the table with that slot in use, or `none` when every
slot is taken by another id. Both loops return at their first hit. -/
def getOrCreateNode (nodes : Nodes) (nodeId : StringBuffer nodeIdLen) : Option (Slot × Nodes) :=
  match Fin.find? fun slot => (nodes slot).used &&
      strcmp (nodes slot).nodeId.buffer.toList nodeId.buffer.toList = 0 with
  | some slot => some (slot, nodes)
  | none =>
      match Fin.find? fun slot => !(nodes slot).used with
      | some slot => some (slot, Function.update nodes slot ((nodes slot).create nodeId))
      | none => none

def NodeInfo.storeReading (node : NodeInfo) (msg : TempDataMsg) : NodeInfo :=
  { node with
    currentTemp := msg.temperature
    currentHum := msg.humidity
    lastUpdateTime := msg.timestamp
    history := Function.update node.history node.historyHead
      { temp := msg.temperature, hum := msg.humidity, timestamp := msg.timestamp }
    historyHead := ⟨(node.historyHead.val + 1) % historySize, Nat.mod_lt _ historySize_pos⟩
    historyCount :=
      if below : node.historyCount.val < historySize then
        ⟨node.historyCount.val + 1, Nat.succ_lt_succ below⟩
      else node.historyCount }

theorem NodeInfo.ring_storeReading (node : NodeInfo) (msg : TempDataMsg) :
    (node.storeReading msg).ring = node.ring.push msg.reading := by
  by_cases below : node.historyCount.val < historySize <;>
    simp [NodeInfo.ring, NodeInfo.storeReading, Ring.push, Ring.wrap, TempDataMsg.reading, below]

theorem NodeInfo.ring_create (node : NodeInfo) (nodeId : StringBuffer nodeIdLen) :
    (node.create nodeId).ring.Holds [] :=
  Ring.holds_nil _ rfl rfl

theorem NodeInfo.id_create (node : NodeInfo) (nodeId : StringBuffer nodeIdLen) :
    (node.create nodeId).id = nodeId.text :=
  node.nodeId.text_strcpy nodeId

def NodeInfo.matches (node : NodeInfo) (nodeId : StringBuffer nodeIdLen) : Prop :=
  node.used = true ∧ node.id = nodeId.text

theorem getOrCreateNode_known {nodes : Nodes} {nodeId : StringBuffer nodeIdLen} {slot : Slot}
    (hit : (nodes slot).matches nodeId)
    (first : ∀ earlier < slot, ¬(nodes earlier).matches nodeId) :
    getOrCreateNode nodes nodeId = some (slot, nodes) := by
  have found : (Fin.find? fun slot => (nodes slot).used &&
      strcmp (nodes slot).nodeId.buffer.toList nodeId.buffer.toList = 0) = some slot := by
    apply Fin.find?_eq_some_iff.2
    simp only [Bool.and_eq_true, decide_eq_true_eq, strcmp_eq_zero_iff, Bool.eq_false_iff, ne_eq]
    exact ⟨hit, first⟩
  rw [getOrCreateNode, found]

private theorem search_none {nodes : Nodes} {nodeId : StringBuffer nodeIdLen}
    (unknown : ∀ slot, ¬(nodes slot).matches nodeId) :
    (Fin.find? fun slot => (nodes slot).used &&
      strcmp (nodes slot).nodeId.buffer.toList nodeId.buffer.toList = 0) = none := by
  apply Fin.find?_eq_none_iff.2
  intro slot
  simp only [Bool.eq_false_iff, ne_eq, Bool.and_eq_true, decide_eq_true_eq, strcmp_eq_zero_iff]
  exact unknown slot

theorem getOrCreateNode_fresh {nodes : Nodes} {nodeId : StringBuffer nodeIdLen} {slot : Slot}
    (unknown : ∀ slot, ¬(nodes slot).matches nodeId) (free : (nodes slot).used = false)
    (first : ∀ earlier < slot, (nodes earlier).used = true) :
    getOrCreateNode nodes nodeId =
      some (slot, Function.update nodes slot ((nodes slot).create nodeId)) := by
  have found : (Fin.find? fun slot => !(nodes slot).used) = some slot := by
    apply Fin.find?_eq_some_iff.2
    simp only [Bool.not_eq_true', Bool.not_eq_false']
    exact ⟨free, first⟩
  rw [getOrCreateNode, search_none unknown, found]

theorem getOrCreateNode_full {nodes : Nodes} {nodeId : StringBuffer nodeIdLen}
    (unknown : ∀ slot, ¬(nodes slot).matches nodeId) (full : ∀ slot, (nodes slot).used = true) :
    getOrCreateNode nodes nodeId = none := by
  have noneFree : (Fin.find? fun slot => !(nodes slot).used) = none := by
    apply Fin.find?_eq_none_iff.2
    simp only [Bool.not_eq_false']
    exact full
  rw [getOrCreateNode, search_none unknown, noneFree]

theorem getOrCreateNode_found {nodes table : Nodes} {nodeId : StringBuffer nodeIdLen} {slot : Slot}
    (found : getOrCreateNode nodes nodeId = some (slot, table)) :
    (table slot).matches nodeId := by
  unfold getOrCreateNode at found
  split at found
  · rename_i hit search
    cases found
    have same := (Fin.find?_eq_some_iff.1 search).1
    simp only [Bool.and_eq_true, decide_eq_true_eq, strcmp_eq_zero_iff] at same
    exact same
  · split at found
    · rename_i free search
      cases found
      rw [Function.update_self]
      exact ⟨rfl, NodeInfo.id_create _ _⟩
    · cases found

theorem getOrCreateNode_isSome {nodes : Nodes} {nodeId : StringBuffer nodeIdLen}
    (room : ∃ slot, (nodes slot).matches nodeId ∨ (nodes slot).used = false) :
    (getOrCreateNode nodes nodeId).isSome = true := by
  rcases room with ⟨slot, hit | free⟩
  · unfold getOrCreateNode
    split
    · rfl
    · rename_i search
      have missed := Fin.find?_eq_none_iff.1 search slot
      simp only [Bool.eq_false_iff, ne_eq, Bool.and_eq_true, decide_eq_true_eq,
        strcmp_eq_zero_iff] at missed
      exact absurd hit missed
  · unfold getOrCreateNode
    split
    · rfl
    · split
      · rfl
      · rename_i search
        have missed := Fin.find?_eq_none_iff.1 search slot
        rw [free] at missed
        cases missed

theorem getOrCreateNode_room {nodes : Nodes} {nodeId : StringBuffer nodeIdLen}
    (found : (getOrCreateNode nodes nodeId).isSome = true) :
    ∃ slot, (nodes slot).matches nodeId ∨ (nodes slot).used = false := by
  by_contra nowhere
  simp only [not_exists, not_or, Bool.not_eq_false] at nowhere
  rw [getOrCreateNode_full (fun slot => (nowhere slot).1) fun slot => (nowhere slot).2] at found
  cases found

end ZephyrHomeHub.Hub
