import ZephyrHomeHub.Foundation.DecimalPlaces
import ZephyrHomeHub.Hub.MainLoop

/-! The uptime clock. The label is rewritten only when the second changes, and always
shows the second of the last iteration. -/

namespace ZephyrHomeHub.Hub

open Foundation.DecimalNumeral Foundation.LabelledMachine Foundation.NumeralText

/-- `sizeof(count_str)` -/
def countStrSize : Nat := 16

/-- Hours, minutes and seconds, the hours however many. -/
def uptimeText (second : Nat) : List UInt8 :=
  printTwoDigits (second / 3600) ++ colon :: printTwoDigits (second % 3600 / 60) ++
    colon :: printTwoDigits (second % 60)

def readUptime (text : List UInt8) : Option Nat :=
  match text.splitOn colon with
  | [hours, minutes, seconds] =>
      some (readDigits 10 hours * 3600 + readDigits 10 minutes * 60 + readDigits 10 seconds)
  | _ => none

theorem printTwoDigitsInt_bmod {value : Int} (nonneg : 0 ≤ value) (small : value < 2 ^ 31) :
    printTwoDigitsInt (value.bmod intRange) = printTwoDigits value.toNat := by
  have same : value.bmod intRange = value := by
    apply Int.bmod_eq_of_le
    · unfold intRange
      omega
    · unfold intRange
      omega
  rw [same, printTwoDigitsInt, if_neg (Int.not_lt.2 nonneg)]

theorem countStr_eq {currentSec : Int} (nonneg : 0 ≤ currentSec)
    (hours : currentSec / 3600 < 2 ^ 31) : countStr currentSec = uptimeText currentSec.toNat := by
  unfold countStr
  rw [printTwoDigitsInt_bmod (by omega) hours, printTwoDigitsInt_bmod (by omega) (by omega),
    printTwoDigitsInt_bmod (by omega) (by omega)]
  rcases Int.eq_ofNat_of_zero_le nonneg with ⟨second, rfl⟩
  rfl

theorem colon_not_mem_printTwoDigits (value : Nat) : colon ∉ printTwoDigits value := by
  intro member
  have digit := isDigit_of_mem_printTwoDigits member
  cases digit

theorem readUptime_uptimeText (second : Nat) : readUptime (uptimeText second) = some second := by
  have fields : (uptimeText second).splitOn colon =
      [printTwoDigits (second / 3600), printTwoDigits (second % 3600 / 60),
        printTwoDigits (second % 60)] := by
    unfold uptimeText
    rw [List.append_assoc]
    change (printTwoDigits (second / 3600) ++ colon :: (printTwoDigits (second % 3600 / 60) ++
      colon :: printTwoDigits (second % 60))).splitOn colon = _
    rw [List.splitOn_append_cons_self_of_not_mem (colon_not_mem_printTwoDigits _),
      List.splitOn_append_cons_self_of_not_mem (colon_not_mem_printTwoDigits _),
      List.splitOn_eq_singleton (colon_not_mem_printTwoDigits _)]
  unfold readUptime
  rw [fields]
  simp only [readDigits_printTwoDigits, Option.some.injEq]
  omega

theorem uptimeText_fits_iff (second : Nat) :
    (uptimeText second).length + 1 ≤ countStrSize ↔ second / 3600 < 10 ^ 9 := by
  have minutes := printNat_length_le_iff (by decide : 0 < 2) (second % 3600 / 60)
  have seconds := printNat_length_le_iff (by decide : 0 < 2) (second % 60)
  have shortMinutes := minutes.2 (by omega)
  have shortSeconds := seconds.2 (by omega)
  rw [← printNat_length_le_iff (by decide : 0 < 9)]
  unfold uptimeText countStrSize
  simp only [List.length_append, List.length_cons, length_printTwoDigits]
  omega

structure MainLoop.ClockShown (loop : MainLoop) : Prop where
  nonneg : 0 ≤ loop.uptime
  second : loop.lastSecond = loop.uptime / 1000
  label : loop.countLabel = countStr (loop.uptime / 1000)

/-- Before the first iteration the clock was never written. -/
structure MainLoop.ClockReady (loop : MainLoop) : Prop where
  nonneg : 0 ≤ loop.uptime
  written : 0 ≤ loop.lastSecond → loop.countLabel = countStr loop.lastSecond

theorem MainLoop.ClockShown.ready {loop : MainLoop} (shown : loop.ClockShown) :
    loop.ClockReady := by
  refine ⟨shown.nonneg, fun _ => ?_⟩
  rw [shown.second]
  exact shown.label

theorem clockReady_start : MainLoop.start.ClockReady :=
  { nonneg := Int.le_refl 0
    written := fun impossible => absurd impossible (by decide) }

/-- Skipping the update in an unchanged second leaves what it would write. -/
theorem MainLoop.ClockReady.updateClock {loop : MainLoop} (ready : loop.ClockReady)
    {currentMs : Int} (later : 0 ≤ currentMs) : (loop.updateClock currentMs).ClockShown := by
  unfold MainLoop.updateClock
  by_cases changed : currentMs / 1000 ≠ loop.lastSecond
  · simp only [if_pos changed]
    exact ⟨later, rfl, rfl⟩
  · simp only [if_neg changed]
    have same : loop.lastSecond = currentMs / 1000 := (not_not.1 changed).symm
    refine ⟨later, same, ?_⟩
    have label := ready.written (by omega)
    rw [same] at label
    exact label

theorem MainLoop.ClockReady.iterate {loop : MainLoop} (ready : loop.ClockReady)
    (iteration : Iteration) : (loop.iterate iteration).ClockShown := by
  have nonneg := ready.nonneg
  rcases ready.updateClock (by omega : 0 ≤ loop.uptime + iteration.elapsed) with
    ⟨uptime, second, label⟩
  exact ⟨uptime, second, label⟩

theorem clockShown_run {loop final : MainLoop} {start : MainLoop} {iterations : List Iteration}
    (shown : loop.ClockShown) (ran : (mainMachine start).run loop iterations = some final) :
    final.ClockShown :=
  (mainMachine start).run_preserves MainLoop.ClockShown
    (fun loop iteration next before stepped => by
      cases stepped
      exact before.ready.iterate iteration) loop final iterations shown ran

/-- After every run of one iteration or more, while the hours fit in an `int`: the label
is what an update in each iteration would have written, the second of the uptime can be
read back from it, and it fits in `count_str` exactly below a thousand million hours. -/
theorem run_clock_label {first : Iteration} {rest : List Iteration} {final : MainLoop}
    (ran : (mainMachine MainLoop.start).run MainLoop.start (first :: rest) = some final)
    (hours : final.uptime / 1000 / 3600 < 2 ^ 31) :
    final.countLabel = countStr (final.uptime / 1000) ∧
      readUptime final.countLabel = some (final.uptime / 1000).toNat ∧
      (final.countLabel.length + 1 ≤ countStrSize ↔ final.uptime / 1000 / 3600 < 10 ^ 9) := by
  rcases ((mainMachine _).run_cons_eq_some _ _ _ _).1 ran with ⟨next, stepped, continued⟩
  cases stepped
  have shown := clockShown_run (clockReady_start.iterate first) continued
  have nonneg := shown.nonneg
  have text := countStr_eq (by omega) hours
  refine ⟨shown.label, ?_, ?_⟩
  · rw [shown.label, text, readUptime_uptimeText]
  · rw [shown.label, text, uptimeText_fits_iff]
    omega

def hourRun : List Iteration :=
  [{ elapsed := 10, batch := [], tabs := [] }, { elapsed := 10, batch := [], tabs := [] },
    { elapsed := 3600000, batch := [], tabs := [] }]

theorem hourRun_clock_label :
    ∃ final, (mainMachine MainLoop.start).run MainLoop.start hourRun = some final ∧
      final.countLabel = countStr 3600 ∧ readUptime final.countLabel = some 3600 ∧
      final.countLabel.length + 1 ≤ countStrSize := by
  obtain ⟨final, ran⟩ : ∃ final, (mainMachine MainLoop.start).run MainLoop.start hourRun =
      some final := ⟨_, rfl⟩
  have uptime : final.uptime = 3600020 := by
    cases ran
    rfl
  have hours : final.uptime / 1000 / 3600 < 2 ^ 31 := by
    rw [uptime]
    decide
  rcases run_clock_label ran hours with ⟨label, second, fits⟩
  rw [uptime] at label second fits
  exact ⟨final, ran, label, second, fits.2 (by decide)⟩

end ZephyrHomeHub.Hub
