import Mathlib.Tactic.Linarith
import ZephyrHomeHub.Foundation.DecimalPlaces
import ZephyrHomeHub.Hub.ShownCards
import ZephyrHomeHub.System.HouseholdTable

/-! From the sensor to the card. The node prints two decimals, the hub rounds to a
double and to a float, and the card shows one decimal. -/

namespace ZephyrHomeHub.System

open Foundation.BinaryFloat Foundation.CString Foundation.DecimalNumeral
open Foundation.LabelledMachine Foundation.NumeralText ZephyrHomeHub.Hub ZephyrHomeHub.Node

/-- The text has room in the payload and its two decimals need no leading zero. -/
structure Printable (reading : Q31Reading) : Prop where
  range : |reading.exact| < 100000
  hundredths : PrintsHundredths reading.exact

/-- The number in front of `°C` on the card of a reading. -/
def shownTemperature (reading : Q31Reading) : Option ℚ :=
  (strtod (printTenths (reportedTemperature reading))).toRat

def shownMagnitude (magnitude : ℚ≥0) : ℚ≥0 :=
  nearestTenth (binary32.roundMagnitude (binary64.roundMagnitude magnitude))

private theorem below_of_lt {magnitude : ℚ≥0} (small : (magnitude : ℚ) < 131072) :
    magnitude < 2 ^ (17 : Int) := by
  have power : ((2 ^ (17 : Int) : ℚ≥0) : ℚ) = 131072 := by norm_num
  rw [← NNRat.coe_lt_coe, power]
  exact small

theorem doubleRounded_near {magnitude : ℚ≥0} (small : (magnitude : ℚ) < 131072) :
    |(binary64.roundMagnitude magnitude : ℚ) - magnitude| ≤ 1 / 1000000 := by
  have error : |(binary64.roundMagnitude magnitude : ℚ) - magnitude| ≤
      2 ^ ((17 : Int) - 53) / 2 :=
    Format.roundMagnitude_error (by decide) (by decide) (below_of_lt small)
  refine error.trans ?_
  norm_num

theorem floatRounded_near {magnitude : ℚ≥0} (small : (magnitude : ℚ) < 131072) :
    |(binary32.roundMagnitude magnitude : ℚ) - magnitude| ≤ 1 / 256 := by
  have error : |(binary32.roundMagnitude magnitude : ℚ) - magnitude| ≤
      2 ^ ((17 : Int) - 24) / 2 :=
    Format.roundMagnitude_error (by decide) (by decide) (below_of_lt small)
  refine error.trans ?_
  norm_num

theorem doubleRounded_lt {magnitude : ℚ≥0} (small : (magnitude : ℚ) < 100001) :
    (binary64.roundMagnitude magnitude : ℚ) < 131072 := by
  have double := abs_le.1 (doubleRounded_near (small.trans (by norm_num)))
  linarith

theorem reported_finite {magnitude : ℚ≥0} (small : (magnitude : ℚ) < 100001) (negative : Bool) :
    ((Number.finite negative magnitude).round binary64).round binary32 =
      .finite negative (binary32.roundMagnitude (binary64.roundMagnitude magnitude)) := by
  have double := below_of_lt (small.trans (by norm_num))
  have single := below_of_lt (doubleRounded_lt small)
  rw [Number.round_of_lt (by decide) (by decide) (by decide) (by decide) double,
    Number.round_of_lt (by decide) (by decide) (by decide) (by decide) single]

theorem shownMagnitude_near {magnitude : ℚ≥0} (small : (magnitude : ℚ) < 100001) :
    |(shownMagnitude magnitude : ℚ) - magnitude| < 11 / 200 := by
  have double := abs_le.1 (doubleRounded_near (small.trans (by norm_num)))
  have single := abs_le.1 (floatRounded_near (doubleRounded_lt small))
  have tenths := abs_le.1 (nearestTenth_near
    (binary32.roundMagnitude (binary64.roundMagnitude magnitude)))
  unfold shownMagnitude
  rw [abs_lt]
  constructor <;> linarith

theorem shownMagnitude_mono {low high : ℚ≥0} (le : low ≤ high) :
    shownMagnitude low ≤ shownMagnitude high := by
  apply nearestTenth_mono
  apply binary32.roundMagnitude_mono (by decide)
  exact binary64.roundMagnitude_mono (by decide) le

/-- The payload denotes the reading truncated to two decimals. -/
theorem Printable.payload {reading : Q31Reading} (printable : Printable reading) :
    ∃ magnitude : ℚ≥0,
      strtod ((getLatestSensorValueChar reading).take (payloadSize - 1)) =
        .finite (reading.value < 0) magnitude ∧
      (if reading.value < 0 then -(magnitude : ℚ) else magnitude) =
        truncateHundredths reading.exact := by
  have fits := getLatestSensorValueChar_fits reading printable.range
  have received := receivedDecimal_some (Buffer.zero _) printable.range
  rw [(lostZeroExcess_eq_zero_iff _).2 printable.hundredths, neg_zero, ite_self, add_zero,
    receivedDecimal, receivedDecimal_eq _ fits] at received
  have ends : EndsNumeral [] := by
    intro byte member
    cases member
  have text := strtod_print (reading.value < 0) reading.priqArg.2.1 reading.priqArg.2.2 ends
  rw [List.append_nil, ← getLatestSensorValueChar_eq_text] at text
  have whole := List.take_of_length_le (Nat.le_sub_one_of_lt fits)
  have decimal := Option.some.inj received
  simp only [decide_eq_true_eq] at decimal
  exact ⟨_, (congrArg strtod whole).trans text, decimal⟩

/-- The card shows the payload's magnitude, three times rounded, with its sign. -/
theorem Printable.shown {reading : Q31Reading} (printable : Printable reading) :
    ∃ magnitude : ℚ≥0, (magnitude : ℚ) < 100001 ∧
      (if reading.value < 0 then -(magnitude : ℚ) else magnitude) =
        truncateHundredths reading.exact ∧
      shownTemperature reading = some (if reading.value < 0 then -(shownMagnitude magnitude : ℚ)
        else shownMagnitude magnitude) := by
  rcases printable.payload with ⟨magnitude, text, decimal⟩
  have size : (magnitude : ℚ) = |truncateHundredths reading.exact| := by
    have nonneg : (0 : ℚ) ≤ magnitude := NNRat.coe_nonneg magnitude
    rw [← decimal]
    split
    · rw [abs_neg, abs_of_nonneg nonneg]
    · rw [abs_of_nonneg nonneg]
  have small : (magnitude : ℚ) < 100001 := by
    have range := abs_lt.1 printable.range
    have truncated := abs_lt.1 (abs_truncateHundredths_sub reading.exact)
    rw [size, abs_lt]
    constructor <;> linarith
  refine ⟨magnitude, small, decimal, ?_⟩
  rw [shownTemperature, reportedTemperature, text, reported_finite small, strtod_printTenths]
  unfold Number.toRat
  simp only [decide_eq_true_eq]
  rfl

theorem Printable.shown_near {reading : Q31Reading} (printable : Printable reading) :
    ∃ shown, shownTemperature reading = some shown ∧ |shown - reading.exact| < 13 / 200 := by
  rcases printable.shown with ⟨magnitude, small, decimal, shown⟩
  refine ⟨_, shown, ?_⟩
  have rounded := abs_lt.1 (shownMagnitude_near small)
  have truncated := abs_lt.1 (abs_truncateHundredths_sub reading.exact)
  rw [← decimal] at truncated
  rw [abs_lt]
  split at truncated
  · rename_i negative
    simp only [if_pos negative]
    constructor <;> linarith
  · rename_i nonneg
    simp only [if_neg nonneg]
    constructor <;> linarith

theorem printable_zero : Printable Q31Reading.zero := by
  constructor
  · rw [Q31Reading.exact_zero]
    norm_num
  · left
    rw [hundredths, Q31Reading.exact_zero]
    norm_num

/-- Of two temperatures that print their hundredths, the card never shows the higher
one as the lower, through truncation and all roundings. -/
theorem shown_keeps_order {low high : Q31Reading} (lowPrintable : Printable low)
    (highPrintable : Printable high) (le : low.exact ≤ high.exact) :
    ∃ lowShown highShown, shownTemperature low = some lowShown ∧
      shownTemperature high = some highShown ∧ lowShown ≤ highShown := by
  rcases lowPrintable.shown with ⟨lowMagnitude, -, lowDecimal, lowShown⟩
  rcases highPrintable.shown with ⟨highMagnitude, -, highDecimal, highShown⟩
  refine ⟨_, _, lowShown, highShown, ?_⟩
  have truncated := truncateHundredths_mono le
  rw [← lowDecimal, ← highDecimal] at truncated
  have lowNonneg : (0 : ℚ) ≤ shownMagnitude lowMagnitude := NNRat.coe_nonneg _
  have highNonneg : (0 : ℚ) ≤ shownMagnitude highMagnitude := NNRat.coe_nonneg _
  by_cases lowNegative : low.value < 0
  · by_cases highNegative : high.value < 0
    · rw [if_pos lowNegative, if_pos highNegative] at truncated ⊢
      have magnitudes : highMagnitude ≤ lowMagnitude := by exact_mod_cast neg_le_neg_iff.1 truncated
      exact neg_le_neg (by exact_mod_cast shownMagnitude_mono magnitudes)
    · rw [if_pos lowNegative, if_neg highNegative]
      linarith
  · have highNegative : ¬high.value < 0 := by
      intro negative
      have below := high.exact_neg_iff.2 negative
      exact lowNegative (low.exact_neg_iff.1 (lt_of_le_of_lt le below))
    rw [if_neg lowNegative, if_neg highNegative] at truncated ⊢
    have magnitudes : lowMagnitude ≤ highMagnitude := by exact_mod_cast truncated
    exact_mod_cast shownMagnitude_mono magnitudes

theorem printable_of_exact {reading : Q31Reading} (exactValue : reading.exact = 43 / 2) :
    Printable reading := by
  constructor
  · rw [exactValue]
    norm_num
  · right
    rw [hundredths, exactValue, abs_of_pos (by norm_num), show (100 * (43 / 2) : ℚ) = (2150 : Nat) by
      norm_num, Nat.floor_natCast]
    decide

theorem zero_and_warm_keep_order :
    ∃ lowShown highShown, shownTemperature Q31Reading.zero = some lowShown ∧
      shownTemperature warmReading = some highShown ∧ lowShown ≤ highShown := by
  apply shown_keeps_order printable_zero (printable_of_exact warmReading_exact)
  rw [Q31Reading.exact_zero, warmReading_exact]
  norm_num

variable {Name : Type} {household : Household Name} {home : HomeNetwork Name}

theorem Measured.printable {node : StartedNode} {reading : Q31Reading}
    (measured : Measured node reading)
    (printable : ∀ delivered ∈ node.node.delivered, Printable delivered) : Printable reading := by
  rcases measured with rfl | delivered
  · exact printable_zero
  · exact printable reading delivered

variable [DecidableEq Name]

theorem reachable_card_source (reachable : (homeMachine household).Reachable home) {slot : Slot}
    {card : Card} (has : (home.hub.clocked.nodes slot).card = some card) :
    card.labels = placeholderLabels ∨
      ∃ entry ∈ home.handled, household.id entry.node = (home.hub.clocked.nodes slot).id ∧
        card.labels = entry.msg.reading.labels := by
  rcases reachable_drawn ((hubView household).reachable reachable) with
    ⟨items, table, tab, received⟩
  change home.hub.clocked.nodes = items.table at table
  rcases sources_of_received reachable received with ⟨sources, same, within⟩
  rw [table] at has ⊢
  rcases (items.card_labels tab has).2 with blank | ⟨item, member, own, labels⟩
  · exact .inl blank
  · have posted : item.2 ∈ sources.map Handled.msg := same ▸ List.mem_map_of_mem member
    rcases List.mem_map.1 posted with ⟨entry, source, message⟩
    have handled := within.subset source
    rw [← message] at own labels
    exact .inr ⟨entry, handled,
      (reachable_identified reachable entry handled).symm.trans own, labels⟩

/-- Where every temperature that the decoders delivered prints its hundredths, in every
state of the network: a card is blank, or in front of `°C` stands a number within 0.065
of a temperature that a node with the card's id has measured (or the zeros it starts
with), and no humidity. -/
theorem reachable_cards_near_measured (reachable : (homeMachine household).Reachable home)
    (printable : ∀ name, ∀ reading ∈ (home.node name).node.delivered, Printable reading)
    {slot : Slot} {card : Card} (has : (home.hub.clocked.nodes slot).card = some card) :
    card.labels = placeholderLabels ∨
      ∃ name reading text shown, household.id name = (home.hub.clocked.nodes slot).id ∧
        Measured (home.node name) reading ∧
        card.labels = (text ++ degreeCelsius, noValue ++ [percent]) ∧
        (strtod text).toRat = some shown ∧ |shown - reading.exact| < 13 / 200 := by
  rcases reachable_card_source reachable has with blank | ⟨entry, handled, own, labels⟩
  · exact .inl blank
  · rcases (reachable_authentic reachable).handled entry handled with
      ⟨sent, uptime, locals, message⟩
    rcases (sent.message uptime locals).2 with ⟨reading, measured, temperature⟩
    rcases (measured.printable (printable entry.node)).shown_near with ⟨shown, shows, near⟩
    refine .inr ⟨entry.node, reading, printTenths (reportedTemperature reading), shown, own,
      measured, ?_, shows, near⟩
    rw [labels, message]
    unfold SensorData.labels TempDataMsg.reading temperatureText
    rw [temperature]
    rfl

def watchedReadingRun : List (HomeAction Unit) :=
  (loopingRun ++ [StartedAction.tabEvent tabTemperature]).map HomeAction.hub ++
    (sampledRun.map (HomeAction.node ()) ++
      (requestingRun ++ (submittingRun.map HomeAction.hub ++ answeringRun)))

theorem watchedReadingRun_delivers :
    (((homeMachine oneNodeHousehold).run HomeNetwork.powerOn watchedReadingRun).map fun final =>
      ((final.node ()).node.delivered.map fun reading => (reading.value, reading.shift),
        (final.hub.clocked.nodes ⟨0, by decide⟩).card.isSome)) =
      some ([(warmReading.value, warmReading.shift)], true) := by
  decide +kernel

theorem watchedReadingRun_near_measured :
    ∃ final card, (homeMachine oneNodeHousehold).run HomeNetwork.powerOn watchedReadingRun =
        some final ∧ (final.hub.clocked.nodes ⟨0, by decide⟩).card = some card ∧
      (card.labels = placeholderLabels ∨
        ∃ name reading text shown,
          oneNodeHousehold.id name = (final.hub.clocked.nodes ⟨0, by decide⟩).id ∧
          Measured (final.node name) reading ∧
          card.labels = (text ++ degreeCelsius, noValue ++ [percent]) ∧
          (strtod text).toRat = some shown ∧ |shown - reading.exact| < 13 / 200) := by
  rcases Option.map_eq_some_iff.1 watchedReadingRun_delivers with ⟨final, ran, ends⟩
  simp only [Prod.mk.injEq] at ends
  rcases ends with ⟨delivered, shows⟩
  rcases Option.isSome_iff_exists.1 shows with ⟨card, has⟩
  refine ⟨final, card, ran, has,
    reachable_cards_near_measured ⟨watchedReadingRun, ran⟩ ?_ has⟩
  intro name reading member
  apply printable_of_exact
  have values : (reading.value, reading.shift) ∈ [(warmReading.value, warmReading.shift)] :=
    delivered ▸ List.mem_map_of_mem member
  rcases Prod.mk.inj (List.mem_singleton.1 values) with ⟨value, shift⟩
  rw [Q31Reading.exact, value, shift]
  exact warmReading_exact

end ZephyrHomeHub.System
