import Mathlib.Data.Fintype.Defs
import ZephyrHomeHub.Foundation.BinaryFloat
import ZephyrHomeHub.Foundation.CString
import ZephyrHomeHub.Foundation.RingBuffer

/-! The hub's data: the queue message, one history sample, the LVGL objects of a
node's card and the node table entry. Floats are exact signed magnitudes, times
are milliseconds of uptime. -/

namespace ZephyrHomeHub.Hub

open Foundation.BinaryFloat Foundation.CString Foundation.RingBuffer

def tempMsgQueueSize : Nat := 30

def nodeIdLen : Nat := 10

def maxNodes : Nat := 6

def historySize : Nat := 60

theorem nodeIdLen_pos : 0 < nodeIdLen := by decide

theorem historySize_pos : 0 < historySize := by decide

theorem emptyCount_lt : 0 < historySize + 1 := by decide

structure TempDataMsg where
  nodeId : StringBuffer nodeIdLen
  temperature : Number
  humidity : Number
  timestamp : Int
deriving DecidableEq

structure SensorData where
  temp : Number
  hum : Number
  timestamp : Int
deriving DecidableEq

def TempDataMsg.reading (msg : TempDataMsg) : SensorData :=
  { temp := msg.temperature, hum := msg.humidity, timestamp := msg.timestamp }

def TempDataMsg.id (msg : TempDataMsg) : List UInt8 := msg.nodeId.text

inductive Color where
  | white
  | grey
  | red
deriving DecidableEq

inductive Opacity where
  | opa30
  | cover
deriving DecidableEq

/-- `card` with the labels created on it. No background of its own is the
theme's background. -/
structure Card where
  bgColor : Option Color
  bgOpa : Option Opacity
  borderColor : Color
  labelId : List UInt8
  labelTemp : List UInt8
  labelHum : List UInt8
deriving DecidableEq

/-- A table entry. The head is a valid index and the count at most the capacity
by their types; `none` for the card is the null pointer. -/
structure NodeInfo where
  nodeId : StringBuffer nodeIdLen
  currentTemp : Number
  currentHum : Number
  lastUpdateTime : Int
  history : Fin historySize → SensorData
  historyHead : Fin historySize
  historyCount : Fin (historySize + 1)
  card : Option Card
  used : Bool

abbrev Slot := Fin maxNodes

abbrev Nodes := Slot → NodeInfo

def NodeInfo.zero : NodeInfo :=
  { nodeId := StringBuffer.zero nodeIdLen nodeIdLen_pos
    currentTemp := .zero
    currentHum := .zero
    lastUpdateTime := 0
    history := fun _ => { temp := .zero, hum := .zero, timestamp := 0 }
    historyHead := ⟨0, historySize_pos⟩
    historyCount := ⟨0, emptyCount_lt⟩
    card := none
    used := false }

def Nodes.zero : Nodes := fun _ => NodeInfo.zero

def NodeInfo.id (node : NodeInfo) : List UInt8 := node.nodeId.text

def NodeInfo.current (node : NodeInfo) : SensorData :=
  { temp := node.currentTemp, hum := node.currentHum, timestamp := node.lastUpdateTime }

def NodeInfo.ring (node : NodeInfo) : Ring SensorData historySize :=
  { cells := node.history
    head := node.historyHead
    count := node.historyCount.val
    countLe := Nat.le_of_lt_succ node.historyCount.isLt }

/-- The valid cells, forward from `history_head - history_count` modulo the size. -/
def NodeInfo.readHistory (node : NodeInfo) : List SensorData :=
  (List.range node.historyCount.val).map fun offset =>
    node.history ⟨(node.historyHead.val + (historySize - node.historyCount.val) + offset) %
      historySize, Nat.mod_lt _ historySize_pos⟩

theorem NodeInfo.readHistory_eq (node : NodeInfo) : node.readHistory = node.ring.contents := rfl

end ZephyrHomeHub.Hub
