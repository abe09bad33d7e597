import ZephyrHomeHub.Foundation.DecimalNumeral
import ZephyrHomeHub.Hub.DataModel

/-! `create_node_widgets` and `update_node_display`. Both write the card and
nothing else of the entry. -/

namespace ZephyrHomeHub.Hub

open Foundation.BinaryFloat Foundation.DecimalNumeral

def staleDataThresholdMs : Int := 2 * 60 * 1000

/-- `"°C"` in UTF-8 -/
def degreeCelsius : List UInt8 := [0xC2, 0xB0, 0x43]

/-- `"--.-"` -/
def noValue : List UInt8 := [45, 45, 46, 45]

def percent : UInt8 := 37

/-- Without the tab there is nothing to create on. The humidity label is not a
format, so both of its percent signs are shown. -/
def createNodeWidgets (tempTab : Bool) (node : NodeInfo) : NodeInfo :=
  if tempTab then
    { node with
      card := some
        { bgColor := none
          bgOpa := none
          borderColor := .grey
          labelId := node.id
          labelTemp := noValue ++ degreeCelsius
          labelHum := noValue ++ [percent, percent] } }
  else node

/-- `sprintf(buffer, "%.1f°C", ...)` -/
def temperatureText (currentTemp : Number) : List UInt8 :=
  printTenths currentTemp ++ degreeCelsius

/-- `sprintf(buffer, "%.1f%%", ...)`, or the placeholder for a negative humidity. -/
def humidityText (currentHum : Number) : List UInt8 :=
  if currentHum.nonneg then printTenths currentHum ++ [percent] else noValue ++ [percent]

def isStale (uptime : Int) (node : NodeInfo) : Bool :=
  uptime - node.lastUpdateTime > staleDataThresholdMs

def Card.paint (card : Card) (stale : Bool) : Card :=
  if stale then
    { card with bgColor := some .red, bgOpa := some .opa30, borderColor := .red }
  else
    { card with bgColor := some .white, bgOpa := some .cover, borderColor := .grey }

def updateNodeDisplay (uptime : Int) (node : NodeInfo) : NodeInfo :=
  match node.card with
  | none => node
  | some card =>
      { node with
        card := some
          { card.paint (isStale uptime node) with
            labelTemp := temperatureText node.currentTemp
            labelHum := humidityText node.currentHum } }

def Card.red (card : Card) : Prop :=
  card.bgColor = some .red ∧ card.bgOpa = some .opa30 ∧ card.borderColor = .red

theorem createNodeWidgets_frame (tempTab : Bool) (node : NodeInfo) :
    ∃ card, createNodeWidgets tempTab node = { node with card := card } := by
  cases tempTab with
  | false => exact ⟨node.card, rfl⟩
  | true => exact ⟨_, rfl⟩

theorem updateNodeDisplay_none {node : NodeInfo} (uptime : Int) (noCard : node.card = none) :
    updateNodeDisplay uptime node = node := by
  rw [updateNodeDisplay, noCard]

theorem updateNodeDisplay_some {node : NodeInfo} {card : Card} (uptime : Int)
    (hasCard : node.card = some card) :
    (updateNodeDisplay uptime node).card =
      some { card.paint (isStale uptime node) with
        labelTemp := temperatureText node.currentTemp
        labelHum := humidityText node.currentHum } := by
  rw [updateNodeDisplay, hasCard]

theorem updateNodeDisplay_frame (uptime : Int) (node : NodeInfo) :
    ∃ card, updateNodeDisplay uptime node = { node with card := card } := by
  cases cardEq : node.card with
  | none => exact ⟨node.card, updateNodeDisplay_none uptime cardEq⟩
  | some card => exact ⟨_, by rw [updateNodeDisplay, cardEq]⟩

theorem updateNodeDisplay_card_isSome (uptime : Int) (node : NodeInfo) :
    (updateNodeDisplay uptime node).card.isSome = node.card.isSome := by
  cases cardEq : node.card with
  | none => rw [updateNodeDisplay_none uptime cardEq, cardEq]
  | some card =>
      rw [updateNodeDisplay_some uptime cardEq]
      rfl

end ZephyrHomeHub.Hub
