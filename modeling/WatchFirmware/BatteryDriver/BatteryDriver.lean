import WatchFirmware.Shared.CheckedInt
import WatchFirmware.Shared.Loop
import WatchFirmware.Shared.OrderStatistics
import WatchFirmware.Shared.PiecewiseLinear
import WatchFirmware.Shared.Transition

set_option autoImplicit false

namespace WatchFirmware.BatteryDriver

open CheckedInt (Fits checked checkedSum)

def lipoCurveMv : List Int := [3270, 3610, 3690, 3710, 3730, 3770, 3790, 3820, 3870, 3950, 4200]
def lipoCurvePct : List Int := [0, 10, 20, 30, 40, 50, 60, 70, 80, 90, 100]

def lipoCurve : List PiecewiseLinear.Knot := lipoCurveMv.zip lipoCurvePct

abbrev burstReadSampleCount : Nat := 10
abbrev olympicDropCount : Nat := 3
abbrev recoveryThreshold : Nat := 3
abbrev batteryVoltageDivMultiplier : Int := 2

-- What the ADC and its calibration answer to one read.
inductive AdcOutcome where
  | readError
  | calibrationError
  | voltage (mv : Int)
  deriving DecidableEq, Repr

structure Gpio where
  initialized : Bool
  adc : Fin burstReadSampleCount → AdcOutcome
  pgLevel : Bool

/-- `gpio_manager_read_battery_mv`; `none` where the product overflows. -/
def gpioManagerReadBatteryMv (initialized : Bool) (outcome : AdcOutcome) : Option Int :=
  if initialized then
    match outcome with
    | .readError | .calibrationError => some (-1)
    | .voltage mv => checked 32 (mv * batteryVoltageDivMultiplier)
  else some (-1)

def gpioManagerIsCharging (gpio : Gpio) : Bool := gpio.initialized && !gpio.pgLevel

def compareInts (a b : Int) : Int := (if a > b then 1 else 0) - (if a < b then 1 else 0)

def qsort (samples : List Int) : List Int := samples.insertionSort fun a b => compareInts a b ≤ 0

def averageMv (samples : List Int) : Option Int :=
  let sorted := qsort samples
  let validSampleCount := burstReadSampleCount - olympicDropCount * 2
  (checkedSum 32 ((sorted.drop olympicDropCount).take validSampleCount) 0).map fun sum =>
    sum.tdiv validSampleCount

def calculatedPct (finalSmoothedMv : Int) : Nat :=
  if finalSmoothedMv ≤ lipoCurveMv.headD 0 then 0
  else if finalSmoothedMv ≥ lipoCurveMv.getLastD 0 then 100
  else
    match PiecewiseLinear.eval lipoCurve finalSmoothedMv with
    | some pct => (pct % 2 ^ 8).toNat
    | none => 0

structure KalmanFilter (K : Type) where
  init : K
  update : K → Int → Int × K
  clearSampleCount : K → K

structure Battery (K : Type) where
  battKalmanState : K
  reportedPct : Nat
  firstRun : Bool

structure Reading where
  averageMv : Int
  finalSmoothedMv : Int
  calculatedPct : Nat
  isCharging : Bool
  reportedPct : Nat
  deriving DecidableEq, Repr

section Driver

variable {K : Type} (kalman : KalmanFilter K)

def hysteresis (firstRun : Bool) (reportedPct calculatedPct : Nat) (isCharging : Bool) : Nat :=
  if firstRun then calculatedPct
  else if isCharging then calculatedPct
  else if calculatedPct < reportedPct then calculatedPct
  else if calculatedPct ≥ reportedPct + recoveryThreshold then calculatedPct
  else reportedPct

def burst (gpio : Gpio) : Option (List Int) :=
  (List.ofFn gpio.adc).mapM (gpioManagerReadBatteryMv gpio.initialized)

def percentageOf (battery : Battery K) (isCharging : Bool) (averageMv : Int) : Reading × Battery K :=
  let (finalSmoothedMv, battKalmanState) := kalman.update battery.battKalmanState averageMv
  let calculatedPct := calculatedPct finalSmoothedMv
  let reportedPct := hysteresis battery.firstRun battery.reportedPct calculatedPct isCharging
  (⟨averageMv, finalSmoothedMv, calculatedPct, isCharging, reportedPct⟩, ⟨battKalmanState, reportedPct, false⟩)

def batteryDriverReadBatteryPercentage (battery : Battery K) (gpio : Gpio) : Option (Reading × Battery K) :=
  (burst gpio).bind fun samples =>
    (averageMv samples).map (percentageOf kalman battery (gpioManagerIsCharging gpio))

def batteryDriverInit : Battery K := ⟨kalman.init, 100, true⟩

def batteryDriverDeinit (battery : Battery K) : Battery K :=
  { battery with battKalmanState := kalman.clearSampleCount battery.battKalmanState }

inductive Action where
  | init
  | deinit
  | read (gpio : Gpio)

def step : Transition.Step (Battery K) Action
  | _, .init => some (batteryDriverInit kalman)
  | battery, .deinit => some (batteryDriverDeinit kalman battery)
  | battery, .read gpio => (batteryDriverReadBatteryPercentage kalman battery gpio).map Prod.snd

-- The static variables before any call.
def Initial (battery : Battery K) : Prop := battery.reportedPct = 100 ∧ battery.firstRun = true

/-- A calibrated voltage in millivolts: four of them, doubled, are far from what an int holds. -/
def Gpio.AdcInRange (gpio : Gpio) : Prop := ∀ i mv, gpio.adc i = .voltage mv → -2 ^ 28 ≤ mv ∧ mv < 2 ^ 28

end Driver

section Trimming

theorem compareInts_le (a b : Int) : compareInts a b ≤ 0 ↔ a ≤ b := by
  unfold compareInts
  split <;> split <;> omega

theorem qsort_eq (samples : List Int) : qsort samples = samples.insertionSort (· ≤ ·) := by
  unfold qsort
  simp only [compareInts_le]

theorem qsort_perm (samples : List Int) : (qsort samples).Perm samples := List.perm_insertionSort _ samples

theorem qsort_ordered (samples : List Int) : (qsort samples).Pairwise (· ≤ ·) := by
  rw [qsort_eq]
  exact List.pairwise_insertionSort _ samples

/-- Whichever three samples or fewer are left out, the average is among the others. -/
def TrimmedBetween (samples : List Int) (average : Int) : Prop :=
  ∀ outliers others : List Int, (outliers ++ others).Perm samples → outliers.length ≤ olympicDropCount →
    ∀ low high, IsLeast {sample | sample ∈ others} low → IsGreatest {sample | sample ∈ others} high →
      low ≤ average ∧ average ≤ high

theorem average_within {middle : List Int} {low high : Int} (count : middle.length = 4)
    (within : ∀ sample ∈ middle, low ≤ sample ∧ sample ≤ high) :
    low ≤ middle.sum.tdiv 4 ∧ middle.sum.tdiv 4 ≤ high := by
  have least := List.card_nsmul_le_sum middle low fun sample member => (within sample member).1
  have greatest := List.sum_le_card_nsmul middle high fun sample member => (within sample member).2
  rw [count, nsmul_eq_mul, Int.mul_comm] at least greatest
  rw [show ((4 : Nat) : Int) = 4 from rfl] at least greatest
  have atLow := Int.tdiv_le_tdiv (by decide : (0 : Int) < 4) least
  have atHigh := Int.tdiv_le_tdiv (by decide : (0 : Int) < 4) greatest
  rw [Int.mul_tdiv_cancel low (by decide)] at atLow
  rw [Int.mul_tdiv_cancel high (by decide)] at atHigh
  exact ⟨atLow, atHigh⟩

theorem averageMv_trimmed {samples : List Int} (count : samples.length = burstReadSampleCount)
    (range : ∀ sample ∈ samples, -2 ^ 29 ≤ sample ∧ sample ≤ 2 ^ 29 - 2) :
    ∃ average, averageMv samples = some average ∧ TrimmedBetween samples average := by
  have sortedCount : (qsort samples).length = 10 := (qsort_perm samples).length_eq.trans count
  have middleCount : (((qsort samples).drop olympicDropCount).take 4).length = 4 := by
    rw [List.length_take, List.length_drop, sortedCount]
    rfl
  have summed : checkedSum 32 (((qsort samples).drop olympicDropCount).take 4) 0 =
      some (0 + (((qsort samples).drop olympicDropCount).take 4).sum) := by
    apply @CheckedInt.checkedSum_fits _ _ (-2 ^ 29) (2 ^ 29 - 2)
    next =>
      intro sample member
      have inside := List.mem_of_mem_drop (List.mem_of_mem_take member)
      exact range sample ((qsort_perm samples).mem_iff.mp inside)
    next => decide
    next => decide
    next =>
      rw [middleCount]
      decide
    next =>
      rw [middleCount]
      decide
  refine ⟨(((qsort samples).drop olympicDropCount).take 4).sum.tdiv 4, ?_, ?_⟩
  · have four : burstReadSampleCount - olympicDropCount * 2 = 4 := rfl
    simp only [averageMv, four, summed, Option.map_some, Int.zero_add]
    rfl
  · intro outliers others split few low high least greatest
    apply average_within middleCount
    intro sample member
    obtain ⟨k, inside, rfl⟩ := List.mem_iff_getElem.mp member
    rw [middleCount] at inside
    rw [List.getElem_take, List.getElem_drop]
    have drop : olympicDropCount = 3 := rfl
    have within : ∀ value ∈ others, low ≤ value ∧ value ≤ high :=
      fun value member => ⟨least.2 member, greatest.2 member⟩
    exact OrderStatistics.middle_within (qsort_ordered samples) (split.trans (qsort_perm samples).symm) within
      (by omega) (by omega)

theorem burst_total {gpio : Gpio} (inRange : gpio.AdcInRange) :
    ∃ samples, burst gpio = some samples ∧ samples.length = burstReadSampleCount ∧
      ∀ sample ∈ samples, -2 ^ 29 ≤ sample ∧ sample ≤ 2 ^ 29 - 2 := by
  have each : ∀ outcome ∈ List.ofFn gpio.adc,
      ∃ sample, gpioManagerReadBatteryMv gpio.initialized outcome = some sample ∧
        -2 ^ 29 ≤ sample ∧ sample ≤ 2 ^ 29 - 2 := by
    intro outcome member
    obtain ⟨i, rfl⟩ := List.mem_ofFn.mp member
    have failed : (-2 : Int) ^ 29 ≤ -1 ∧ (-1 : Int) ≤ 2 ^ 29 - 2 := by decide
    unfold gpioManagerReadBatteryMv
    split
    next =>
      split
      next => exact ⟨-1, rfl, failed⟩
      next => exact ⟨-1, rfl, failed⟩
      next mv answered =>
        have range := inRange i mv answered
        have multiplier : batteryVoltageDivMultiplier = 2 := rfl
        have fits : Fits 32 (mv * batteryVoltageDivMultiplier) := by
          rw [multiplier]
          constructor
          all_goals omega
        refine ⟨_, CheckedInt.checked_fits fits, ?_⟩
        rw [multiplier]
        omega
    next => exact ⟨-1, rfl, failed⟩
  obtain ⟨samples, taken, length, range⟩ := Loop.mapM_total each
  exact ⟨samples, taken, length.trans List.length_ofFn, range⟩

end Trimming

section Curve

theorem lipoCurve_ascending : PiecewiseLinear.Ascending lipoCurve := by
  unfold PiecewiseLinear.Ascending
  decide

theorem lipoCurve_percentages : ∀ knot ∈ lipoCurve, knot.2 ≤ 100 := by decide

theorem calculatedPct_inside {mv : Int} (above : 3270 < mv) (below : mv < 4200) :
    ∃ pct : Int, PiecewiseLinear.eval lipoCurve mv = some pct ∧ (calculatedPct mv : Int) = pct ∧
      0 ≤ pct ∧ pct ≤ 100 := by
  obtain ⟨pct, found⟩ : ∃ pct, PiecewiseLinear.eval lipoCurve mv = some pct :=
    PiecewiseLinear.eval_total (Int.le_of_lt above) (Int.le_of_lt below)
  have lower := (PiecewiseLinear.eval_lower lipoCurve_ascending found).2
  have upper := PiecewiseLinear.eval_upper lipoCurve_ascending lipoCurve_percentages found
  have first : lipoCurveMv.headD 0 = 3270 := rfl
  have last : lipoCurveMv.getLastD 0 = 4200 := rfl
  refine ⟨pct, found, ?_, lower, upper⟩
  rw [calculatedPct, first, last, if_neg (by omega), if_neg (by omega), found]
  change ((pct % 2 ^ 8).toNat : Int) = pct
  omega

theorem calculatedPct_low {mv : Int} (low : mv ≤ 3270) : calculatedPct mv = 0 := if_pos low

theorem calculatedPct_high {mv : Int} (high : 4200 ≤ mv) : calculatedPct mv = 100 := by
  have first : lipoCurveMv.headD 0 = 3270 := rfl
  have last : lipoCurveMv.getLastD 0 = 4200 := rfl
  rw [calculatedPct, first, last, if_neg (by omega), if_pos high]

theorem calculatedPct_le (mv : Int) : calculatedPct mv ≤ 100 := by
  by_cases low : mv ≤ 3270
  · rw [calculatedPct_low low]
    decide
  by_cases high : 4200 ≤ mv
  · rw [calculatedPct_high high]
  obtain ⟨pct, -, same, -, upper⟩ := calculatedPct_inside (not_le.mp low) (not_le.mp high)
  omega

theorem calculatedPct_mono {mv other : Int} (le : mv ≤ other) : calculatedPct mv ≤ calculatedPct other := by
  by_cases low : mv ≤ 3270
  · rw [calculatedPct_low low]
    exact Nat.zero_le _
  by_cases high : 4200 ≤ other
  · rw [calculatedPct_high high]
    exact calculatedPct_le mv
  obtain ⟨pct, atFirst, first, -⟩ := @calculatedPct_inside mv (by omega) (by omega)
  obtain ⟨otherPct, atSecond, second, -⟩ := @calculatedPct_inside other (by omega) (by omega)
  have ordered := PiecewiseLinear.eval_mono lipoCurve_ascending le atFirst atSecond
  omega

end Curve

section Runs

variable {K : Type}

/-- The first run starts from a full battery, which no reading exceeds. -/
def FirstRunFull (battery : Battery K) : Prop := battery.firstRun = true → battery.reportedPct = 100

theorem step_firstRunFull (kalman : KalmanFilter K) {battery after : Battery K} {action : Action}
    (full : FirstRunFull battery) (taken : step kalman battery action = some after) : FirstRunFull after := by
  cases action with
  | init =>
      cases taken
      exact fun _ => rfl
  | deinit =>
      cases taken
      exact full
  | read gpio =>
      obtain ⟨outcome, ran, rfl⟩ := Option.map_eq_some_iff.mp taken
      obtain ⟨samples, -, measured⟩ := Option.bind_eq_some_iff.mp ran
      obtain ⟨average, -, rfl⟩ := Option.map_eq_some_iff.mp measured
      intro first
      contradiction

theorem reach_firstRunFull (kalman : KalmanFilter K) {guard : Battery K → Action → Prop} {battery : Battery K}
    (reached : Transition.Reach (step kalman) Initial guard battery) : FirstRunFull battery :=
  reached.invariant (fun _ initial _ => initial.1) fun _ _ _ full _ taken => step_firstRunFull kalman full taken

theorem hysteresis_bounded (firstRun isCharging : Bool) (reported calculated : Nat) :
    hysteresis firstRun reported calculated isCharging = calculated ∨
      isCharging = false ∧ (hysteresis firstRun reported calculated isCharging + 1 = calculated ∨
        hysteresis firstRun reported calculated isCharging + 2 = calculated) := by
  have threshold : recoveryThreshold = 3 := rfl
  unfold hysteresis
  split
  next => exact .inl rfl
  next =>
    split
    next => exact .inl rfl
    next discharging =>
      split
      next => exact .inl rfl
      next =>
        split
        next => exact .inl rfl
        next =>
          have few : reported = calculated ∨ reported + 1 = calculated ∨ reported + 2 = calculated := by omega
          exact few.imp_right fun less => ⟨Bool.eq_false_iff.mpr discharging, less⟩

theorem hysteresis_rises {firstRun : Bool} {reported calculated : Nat} (percentage : calculated ≤ 100)
    (full : firstRun = true → reported = 100)
    (rises : reported < hysteresis firstRun reported calculated false) :
    reported + recoveryThreshold ≤ hysteresis firstRun reported calculated false := by
  have threshold : recoveryThreshold = 3 := rfl
  unfold hysteresis at rises ⊢
  cases firstRun with
  | true =>
      have start := full rfl
      simp only [if_true] at rises
      omega
  | false =>
      simp only [Bool.false_eq_true, if_false] at rises ⊢
      split at rises
      next => omega
      next small =>
        rw [if_neg small]
        split at rises
        next enough =>
          rw [if_pos enough]
          exact enough
        next => omega

structure Sound (battery : Battery K) (gpio : Gpio) (reading : Reading) : Prop where
  trimmed : ∃ samples, burst gpio = some samples ∧ samples.length = burstReadSampleCount ∧
    TrimmedBetween samples reading.averageMv
  calculated : reading.calculatedPct = calculatedPct reading.finalSmoothedMv
  percentage : reading.calculatedPct ≤ 100
  charging : reading.isCharging = gpioManagerIsCharging gpio
  bounded : reading.reportedPct = reading.calculatedPct ∨
    reading.isCharging = false ∧
      (reading.reportedPct + 1 = reading.calculatedPct ∨ reading.reportedPct + 2 = reading.calculatedPct)
  rises : reading.isCharging = false → battery.reportedPct < reading.reportedPct →
    battery.reportedPct + recoveryThreshold ≤ reading.reportedPct

theorem percentageOf_sound {kalman : KalmanFilter K} {battery : Battery K} (full : FirstRunFull battery)
    {gpio : Gpio} {samples : List Int} (taken : burst gpio = some samples)
    (length : samples.length = burstReadSampleCount) {average : Int} (trimmed : TrimmedBetween samples average) :
    Sound battery gpio (percentageOf kalman battery (gpioManagerIsCharging gpio) average).1 := by
  constructor
  case trimmed => exact ⟨samples, taken, length, trimmed⟩
  case calculated => rfl
  case percentage => exact calculatedPct_le _
  case charging => rfl
  case bounded => exact hysteresis_bounded _ _ _ _
  case rises =>
    intro discharging rises
    dsimp only [percentageOf] at discharging rises ⊢
    rw [discharging] at rises ⊢
    exact hysteresis_rises (calculatedPct_le _) full rises

/-- Every call in every run returns, with a trimmed average, a percentage on the curve, and a reported value
that lags behind it by less than the threshold. -/
theorem batteryPercentage_sound (kalman : KalmanFilter K) (battery : Battery K)
    (reached : Transition.Reach (step kalman) Initial Transition.Unguarded battery) (gpio : Gpio)
    (inRange : gpio.AdcInRange) :
    (∃ reading after, batteryDriverReadBatteryPercentage kalman battery gpio = some (reading, after) ∧
      after.reportedPct = reading.reportedPct ∧ Sound battery gpio reading) ∧
    ∀ mv other, mv ≤ other → calculatedPct mv ≤ calculatedPct other := by
  refine ⟨?_, fun _ _ => calculatedPct_mono⟩
  obtain ⟨samples, taken, length, range⟩ := burst_total inRange
  obtain ⟨average, averaged, trimmed⟩ := averageMv_trimmed length range
  have full := reach_firstRunFull kalman reached
  refine ⟨(percentageOf kalman battery (gpioManagerIsCharging gpio) average).1,
    (percentageOf kalman battery (gpioManagerIsCharging gpio) average).2, ?_, rfl,
    percentageOf_sound full taken length trimmed⟩
  rw [batteryDriverReadBatteryPercentage, taken, Option.bind_some, averaged, Option.map_some]

def plainFilter : KalmanFilter Unit := ⟨(), fun _ averageMv => (averageMv, ()), id⟩

-- Three reads that fail, and seven of a battery at 3.95 V.
def sampleGpio : Gpio where
  initialized := true
  adc i := if i.val < 3 then .readError else .voltage 1975
  pgLevel := true

theorem sampleGpio_inRange : sampleGpio.AdcInRange := by
  intro i mv answered
  dsimp only [sampleGpio] at answered
  split at answered
  next => cases answered
  next =>
    cases answered
    decide

theorem batteryPercentage_sound_sample :
    (∃ reading after, batteryDriverReadBatteryPercentage plainFilter (batteryDriverInit plainFilter) sampleGpio =
        some (reading, after) ∧
      after.reportedPct = reading.reportedPct ∧ Sound (batteryDriverInit plainFilter) sampleGpio reading) ∧
    ∀ mv other, mv ≤ other → calculatedPct mv ≤ calculatedPct other :=
  batteryPercentage_sound plainFilter (batteryDriverInit plainFilter)
    (.start ⟨rfl, rfl⟩)
    sampleGpio sampleGpio_inRange

end Runs

end WatchFirmware.BatteryDriver
