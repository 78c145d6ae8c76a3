import WatchFirmware.PowerManager.PowerManager

set_option autoImplicit false

namespace WatchFirmware.PowerManager

open Transition

abbrev maxAcceptableDeltaChangeUs : Int := 1000
abbrev minShiftSamplesForShift : Nat := 5
abbrev workTickOverlapBuffer : Int := 2000

/-- `tick_intervals_ms[TICK_WORK]`. -/
abbrev workTickIntervalMs : Nat := 1025

-- The counter that `esp_timer_get_time` reads has 52 bits.
abbrev timerRange : Nat := 2 ^ 52

/-- A result of type `int64_t`, none where it overflows. -/
def int64 (value : Int) : Option Int := if -2 ^ 63 ≤ value ∧ value < 2 ^ 63 then some value else none

/-- `phase_shift_calculator_t`, its times in microseconds. -/
structure PhaseShiftCalculator where
  lastBtWakeTime : Int
  deltaMean : Int
  shiftSample : Nat
  earlyWakeup : Bool
  deriving DecidableEq, Repr

/-- Behind `memset`. -/
def PhaseShiftCalculator.zero : PhaseShiftCalculator := ⟨0, 0, 0, false⟩

structure WorkTimer where
  created : Bool
  lastWorkTickUs : Int
  alarms : List Nat
  deriving DecidableEq, Repr

/-- `tick_manager_shift_work_tick`, whose restart of the timer may be refused. -/
def WorkTimer.shift (timer : WorkTimer) (deltaUs : Nat) (restartOk : Bool) : Bool × WorkTimer :=
  if timer.created = false then (false, timer)
  else if timer.lastWorkTickUs < 0 then (false, timer)
  else
    let nextWorkTickUs := (timer.lastWorkTickUs.toNat + workTickIntervalMs * 1000) % 2 ^ 64
    if restartOk then (true, { timer with alarms := timer.alarms ++ [(nextWorkTickUs + deltaUs) % 2 ^ 64] })
    else (false, timer)

structure PhaseShift where
  calculator : PhaseShiftCalculator
  timer : WorkTimer
  /-- The latest reading of `esp_timer_get_time`. -/
  clock : Nat
  deriving DecidableEq, Repr

/-- After `tick_manager_init` and `power_manager_init`. -/
def PhaseShift.booted (created : Bool) : PhaseShift := ⟨.zero, ⟨created, -1, []⟩, 0⟩

namespace PhaseShiftCalculator

def lightSleepExit (calculator : PhaseShiftCalculator) (causes : WakeupCauses) (now : Nat) :
    PhaseShiftCalculator :=
  if causes.gpio then calculator
  else if causes.bt then { calculator with earlyWakeup := true, lastBtWakeTime := now }
  else calculator

def largeDelta (calculator : PhaseShiftCalculator) (deltaNow : Int) : Option Bool :=
  if calculator.shiftSample = 0 then some false
  else do
    let change ← int64 (deltaNow - calculator.deltaMean)
    some (maxAcceptableDeltaChangeUs < change)

def addSample (calculator : PhaseShiftCalculator) (deltaNow : Int) : Option PhaseShiftCalculator := do
  let weighted ← int64 (calculator.deltaMean * calculator.shiftSample)
  let sum ← int64 (weighted + deltaNow)
  some { calculator with
    deltaMean := sum.tdiv (calculator.shiftSample + 1)
    shiftSample := (calculator.shiftSample + 1) % 2 ^ 8 }

/-- The end of `sync_bt_with_work_window`, with the samples it waits for. -/
def applyShift (calculator : PhaseShiftCalculator) (timer : WorkTimer) (restartOk : Bool) :
    Option (PhaseShiftCalculator × WorkTimer) := do
  let workIntervalUs ← int64 (workTickIntervalMs * 1000)
  let remaining ← int64 (workIntervalUs - calculator.deltaMean)
  let shift ← int64 (remaining - workTickOverlapBuffer)
  if shift ≤ 0 ∨ workIntervalUs < shift then some (zero, timer)
  else some (zero, (timer.shift (shift.toNat % 2 ^ 32) restartOk).2)

def syncBtWithWorkWindow (calculator : PhaseShiftCalculator) (timer : WorkTimer) (now : Nat)
    (restartOk : Bool) : Option (PhaseShiftCalculator × WorkTimer) :=
  if calculator.lastBtWakeTime ≤ 0 then some (zero, timer)
  else do
    let deltaNow ← int64 (now - calculator.lastBtWakeTime)
    if 0 < deltaNow then
      let large ← calculator.largeDelta deltaNow
      if large then some (zero, timer)
      else
        let sampled ← calculator.addSample deltaNow
        if minShiftSamplesForShift ≤ sampled.shiftSample then sampled.applyShift timer restartOk
        else some (sampled, timer)
    else some (zero, timer)

/-- `sleep_debug_cb` at a work tick. -/
def sleepDebug (calculator : PhaseShiftCalculator) (timer : WorkTimer) (now : Nat) (restartOk : Bool) :
    Option (PhaseShiftCalculator × WorkTimer) :=
  if calculator.earlyWakeup then
    syncBtWithWorkWindow { calculator with earlyWakeup := false } timer now restartOk
  else if 0 < calculator.shiftSample then some (zero, timer)
  else some (calculator, timer)

end PhaseShiftCalculator

-- No sleep ends while the callbacks of a tick run, for the timer task is awake then.
inductive PhaseAction where
  | lightSleepExit (causes : WakeupCauses) (now : Nat)
  /-- The time that the tick manager keeps, and the one that the power manager reads after it. -/
  | workTick (firedAt now : Nat) (restartOk : Bool)
  deriving DecidableEq, Repr

/-- The clock does not go back, and its counter does not wrap. -/
def PhaseAction.Timely (clock : Nat) : PhaseAction → Prop
  | .lightSleepExit _ now => clock ≤ now ∧ now < timerRange
  | .workTick firedAt now _ => clock ≤ firedAt ∧ firedAt ≤ now ∧ now < timerRange

instance (clock : Nat) (action : PhaseAction) : Decidable (action.Timely clock) := by
  cases action <;> exact inferInstanceAs (Decidable (_ ∧ _))

namespace PhaseShift

-- None also where an arithmetic operation of the callbacks overflows.
def step (s : PhaseShift) (action : PhaseAction) : Option PhaseShift :=
  if action.Timely s.clock then
    match action with
    | .lightSleepExit causes now =>
        some { s with calculator := s.calculator.lightSleepExit causes now, clock := now }
    | .workTick firedAt now restartOk =>
        (s.calculator.sleepDebug { s.timer with lastWorkTickUs := firedAt } now restartOk).map fun synced =>
          ⟨synced.1, synced.2, now⟩
  else none

/-- No Bluetooth wake comes so much sooner before its tick than the mean of the samples so far. -/
def NoDrop (s : PhaseShift) : PhaseAction → Prop
  | .lightSleepExit _ _ => True
  | .workTick _ now _ =>
      s.calculator.earlyWakeup = true → s.calculator.shiftSample ≠ 0 →
        s.calculator.deltaMean - (now - s.calculator.lastBtWakeTime) ≤ maxAcceptableDeltaChangeUs

instance (s : PhaseShift) (action : PhaseAction) : Decidable (s.NoDrop action) :=
  match action with
  | .lightSleepExit _ _ => .isTrue trivial
  | .workTick _ _ _ => inferInstanceAs (Decidable (_ → _))

end PhaseShift

/-- What the work ticks found: the Bluetooth wake since the last of them, and for each of them how long
the one since the tick before it was ago. -/
structure TickRecord where
  woken : Option Nat
  deltas : List (Option Int)

def TickRecord.note (record : TickRecord) : PhaseAction → TickRecord
  | .lightSleepExit causes now =>
      if ¬causes.gpio ∧ causes.bt then { record with woken := some now } else record
  | .workTick _ now _ => ⟨none, record.deltas ++ [record.woken.map fun (woken : Nat) => (now : Int) - (woken : Int)]⟩

def recordOf (history : List PhaseAction) : TickRecord := history.foldl TickRecord.note ⟨none, []⟩

def runningMean (deltas : List Int) : Int :=
  (deltas.foldl (fun (mean : Nat × Int) delta =>
    (mean.1 + 1, (mean.2 * mean.1 + delta).tdiv (mean.1 + 1))) (0, 0)).2

/-- Every sample behind the first is near the mean of those before it. -/
def Stable (deltas : List Int) : Prop :=
  ∀ i, 0 < i → (inside : i < deltas.length) →
    |deltas[i] - runningMean (deltas.take i)| ≤ maxAcceptableDeltaChangeUs

def shiftFor (group : List Int) : Int := workTickIntervalMs * 1000 - runningMean group - workTickOverlapBuffer

def Phased (record : TickRecord) (before after : PhaseShift) : PhaseAction → Prop
  | .lightSleepExit _ _ => after.timer = before.timer
  | .workTick firedAt _ _ =>
      (after.timer.alarms = before.timer.alarms ∨
        ∃ earlier group, record.deltas = earlier ++ group.map some ∧
          group.length = minShiftSamplesForShift ∧ (∀ delta ∈ group, 0 < delta) ∧ Stable group ∧
          0 < shiftFor group ∧ shiftFor group ≤ workTickIntervalMs * 1000 ∧
          after.timer.alarms =
            before.timer.alarms ++ [firedAt + workTickIntervalMs * 1000 + (shiftFor group).toNat]) ∧
        (record.deltas.getLast? = some none → after.calculator.shiftSample = 0)

theorem int64_eq {value : Int} (low : -2 ^ 63 ≤ value) (high : value < 2 ^ 63) : int64 value = some value := by
  rw [int64, if_pos ⟨low, high⟩]

theorem runningMean_concat (group : List Int) (delta : Int) :
    runningMean (group ++ [delta]) = (runningMean group * group.length + delta).tdiv (group.length + 1) := by
  have counted (deltas : List Int) (start : Nat × Int) :
      (deltas.foldl (fun (mean : Nat × Int) delta =>
        (mean.1 + 1, (mean.2 * mean.1 + delta).tdiv (mean.1 + 1))) start).1 = start.1 + deltas.length := by
    induction deltas generalizing start with
    | nil => rfl
    | cons delta rest ih =>
        rw [List.foldl_cons, ih, List.length_cons]
        omega
  unfold runningMean
  rw [List.foldl_append, List.foldl_cons, List.foldl_nil, counted]
  simp

theorem stable_nil : Stable [] := by
  intro i _ inside
  cases inside

theorem stable_concat {group : List Int} {delta : Int} (stable : Stable group)
    (near : group ≠ [] → |delta - runningMean group| ≤ maxAcceptableDeltaChangeUs) :
    Stable (group ++ [delta]) := by
  intro i positive inside
  by_cases earlier : i < group.length
  next =>
    have same := stable i positive earlier
    rw [List.getElem_append_left earlier, List.take_append_of_le_length (Nat.le_of_lt earlier)]
    exact same
  next =>
    have last : i = group.length := by
      rw [List.length_append, List.length_singleton] at inside
      omega
    subst last
    rw [List.getElem_concat_length, List.take_left]
    · exact near (List.length_pos_iff.mp positive)
    · rfl

structure Sampled (record : TickRecord) (s : PhaseShift) : Prop where
  woken : s.calculator.earlyWakeup = record.woken.isSome
  wake : ∀ woken, record.woken = some woken → s.calculator.lastBtWakeTime = woken ∧ woken ≤ s.clock
  group : ∃ earlier group, record.deltas = earlier ++ group.map some ∧
    group.length = s.calculator.shiftSample ∧ s.calculator.deltaMean = runningMean group ∧
    (∀ delta ∈ group, 0 < delta) ∧ Stable group
  few : s.calculator.shiftSample < minShiftSamplesForShift
  mean : 0 ≤ s.calculator.deltaMean ∧ s.calculator.deltaMean < timerRange
  clock : s.clock < timerRange

section Step

variable {record : TickRecord} {s : PhaseShift}

theorem Sampled.restarted {clock : Nat} {timer : WorkTimer} {deltas : List (Option Int)}
    (inRange : clock < timerRange) : Sampled ⟨none, deltas⟩ ⟨.zero, timer, clock⟩ := by
  constructor
  case woken => rfl
  case wake =>
    intro woken impossible
    cases impossible
  case group =>
    refine ⟨deltas, [], (List.append_nil deltas).symm, rfl, rfl, ?_, stable_nil⟩
    intro delta member
    cases member
  case few => exact Nat.zero_lt_succ _
  case mean => exact ⟨Int.le_refl 0, Int.natCast_pos.mpr (Nat.two_pow_pos 52)⟩
  case clock => exact inRange

theorem Sampled.later (sampled : Sampled record s) {now : Nat} (later : s.clock ≤ now)
    (inRange : now < timerRange) : Sampled record { s with clock := now } := by
  constructor
  case woken => exact sampled.woken
  case wake =>
    intro woken same
    obtain ⟨wake, before⟩ := sampled.wake woken same
    exact ⟨wake, Nat.le_trans before later⟩
  case group => exact sampled.group
  case few => exact sampled.few
  case mean => exact sampled.mean
  case clock => exact inRange

theorem Sampled.lightSleepExit (sampled : Sampled record s) (causes : WakeupCauses) {now : Nat}
    (later : s.clock ≤ now) (inRange : now < timerRange) :
    Sampled (record.note (.lightSleepExit causes now))
      { s with calculator := s.calculator.lightSleepExit causes now, clock := now } := by
  by_cases woken : causes.gpio = false ∧ causes.bt = true
  next =>
    simp only [TickRecord.note, PhaseShiftCalculator.lightSleepExit, woken.1, woken.2, Bool.false_eq_true,
      not_false_eq_true, and_self, if_true, if_false]
    constructor
    case woken => rfl
    case wake =>
      rintro woken ⟨⟩
      exact ⟨rfl, Nat.le_refl _⟩
    case group => exact sampled.group
    case few => exact sampled.few
    case mean => exact sampled.mean
    case clock => exact inRange
  next =>
    have unnoted : record.note (.lightSleepExit causes now) = record := by
      apply if_neg
      simpa using woken
    have unchanged : s.calculator.lightSleepExit causes now = s.calculator := by
      unfold PhaseShiftCalculator.lightSleepExit
      split
      next => rfl
      next gpio => exact if_neg fun bt => woken ⟨Bool.eq_false_iff.mpr gpio, bt⟩
    rw [unnoted, unchanged]
    exact sampled.later later inRange

variable {calculator : PhaseShiftCalculator} {delta : Int}

theorem timerRange_eq : (timerRange : Int) = 2 ^ 52 := rfl

theorem workInterval_eq : (workTickIntervalMs * 1000 : Int) = 1025000 := rfl

theorem largeDelta_eq (mean : 0 ≤ calculator.deltaMean ∧ calculator.deltaMean < timerRange)
    (sample : 0 ≤ delta ∧ delta < timerRange) :
    calculator.largeDelta delta =
      some (decide (calculator.shiftSample ≠ 0 ∧ maxAcceptableDeltaChangeUs < delta - calculator.deltaMean)) := by
  have range := timerRange_eq
  unfold PhaseShiftCalculator.largeDelta
  by_cases first : calculator.shiftSample = 0
  next => simp [first]
  next =>
    have change : int64 (delta - calculator.deltaMean) = some (delta - calculator.deltaMean) := by
      apply int64_eq <;> omega
    simp [first, change]

theorem addSample_eq (few : calculator.shiftSample < minShiftSamplesForShift)
    (mean : 0 ≤ calculator.deltaMean ∧ calculator.deltaMean < timerRange)
    (sample : 0 ≤ delta ∧ delta < timerRange) :
    calculator.addSample delta =
      some { calculator with
        deltaMean := (calculator.deltaMean * calculator.shiftSample + delta).tdiv (calculator.shiftSample + 1)
        shiftSample := calculator.shiftSample + 1 } := by
  have range := timerRange_eq
  have few : calculator.shiftSample < 5 := few
  have most : calculator.deltaMean * calculator.shiftSample ≤ timerRange * 5 :=
    Int.mul_le_mul (Int.le_of_lt mean.2) (by omega) (by omega) (by omega)
  have least : 0 ≤ calculator.deltaMean * calculator.shiftSample := Int.mul_nonneg mean.1 (by omega)
  have weighted := @int64_eq (calculator.deltaMean * calculator.shiftSample) (by omega) (by omega)
  have sum := @int64_eq (calculator.deltaMean * calculator.shiftSample + delta) (by omega) (by omega)
  have count : (calculator.shiftSample + 1) % 2 ^ 8 = calculator.shiftSample + 1 := by omega
  simp only [PhaseShiftCalculator.addSample, weighted, sum, count, Option.bind_eq_bind, Option.bind_some]

theorem mean_bounds {count : Nat} {mean : Int} (bounds : 0 ≤ mean ∧ mean < timerRange)
    (sample : 0 ≤ delta ∧ delta < timerRange) :
    0 ≤ (mean * count + delta).tdiv (count + 1) ∧ (mean * count + delta).tdiv (count + 1) < timerRange := by
  have weighted : 0 ≤ mean * count := Int.mul_nonneg bounds.1 (by omega)
  have total : mean * count ≤ timerRange * count := Int.mul_le_mul_of_nonneg_right (Int.le_of_lt bounds.2) (by omega)
  rw [Int.tdiv_eq_ediv_of_nonneg (by omega)]
  constructor
  next => exact Int.ediv_nonneg (by omega) (by omega)
  next =>
    apply Int.ediv_lt_of_lt_mul (by omega)
    rw [Int.mul_add, Int.mul_one]
    omega

theorem applyShift_eq {timer : WorkTimer} {restartOk : Bool}
    (mean : 0 ≤ calculator.deltaMean ∧ calculator.deltaMean < timerRange) :
    calculator.applyShift timer restartOk =
      let shift := workTickIntervalMs * 1000 - calculator.deltaMean - workTickOverlapBuffer
      if shift ≤ 0 ∨ workTickIntervalMs * 1000 < shift then some (.zero, timer)
      else some (.zero, (timer.shift (shift.toNat % 2 ^ 32) restartOk).2) := by
  have range := timerRange_eq
  have length := workInterval_eq
  have overlap : workTickOverlapBuffer = 2000 := rfl
  have interval := @int64_eq (workTickIntervalMs * 1000) (by decide) (by decide)
  have remaining := @int64_eq (workTickIntervalMs * 1000 - calculator.deltaMean) (by omega) (by omega)
  have shift := @int64_eq (workTickIntervalMs * 1000 - calculator.deltaMean - workTickOverlapBuffer)
    (by omega) (by omega)
  simp only [PhaseShiftCalculator.applyShift, interval, remaining, shift, Option.bind_eq_bind, Option.bind_some]

theorem Sampled.restart {firedAt now : Nat} {restartOk : Bool} (inRange : now < timerRange) :
    let after : PhaseShift := ⟨.zero, { s.timer with lastWorkTickUs := firedAt }, now⟩
    Sampled (record.note (.workTick firedAt now restartOk)) after ∧
      Phased (record.note (.workTick firedAt now restartOk)) s after (.workTick firedAt now restartOk) :=
  ⟨.restarted inRange, .inl rfl, fun _ => rfl⟩

theorem shift_alarms {timer : WorkTimer} {firedAt shift : Nat} {restartOk : Bool} (fired : firedAt < timerRange)
    (short : shift ≤ workTickIntervalMs * 1000) :
    (({ timer with lastWorkTickUs := firedAt } : WorkTimer).shift shift restartOk).2.alarms = timer.alarms ∨
      (({ timer with lastWorkTickUs := firedAt } : WorkTimer).shift shift restartOk).2.alarms =
        timer.alarms ++ [firedAt + workTickIntervalMs * 1000 + shift] := by
  have range : timerRange = 2 ^ 52 := rfl
  have length : workTickIntervalMs * 1000 = 1025000 := rfl
  have next : (firedAt + workTickIntervalMs * 1000) % 2 ^ 64 = firedAt + workTickIntervalMs * 1000 := by omega
  have alarm : (firedAt + workTickIntervalMs * 1000 + shift) % 2 ^ 64 =
      firedAt + workTickIntervalMs * 1000 + shift := by omega
  unfold WorkTimer.shift
  split
  next => exact .inl rfl
  next =>
    have started : ¬(firedAt : Int) < 0 := by omega
    rw [if_neg started]
    split
    next =>
      right
      simp only [Int.toNat_natCast, next, alarm]
    next => exact .inl rfl

theorem applyShift_alarms {timer : WorkTimer} {group : List Int} {firedAt : Nat} {restartOk : Bool}
    (bounds : 0 ≤ calculator.deltaMean ∧ calculator.deltaMean < timerRange)
    (mean : calculator.deltaMean = runningMean group) (fired : firedAt < timerRange) :
    ∃ after : WorkTimer,
      calculator.applyShift { timer with lastWorkTickUs := firedAt } restartOk = some (.zero, after) ∧
      (after.alarms = timer.alarms ∨
        0 < shiftFor group ∧ shiftFor group ≤ workTickIntervalMs * 1000 ∧
          after.alarms = timer.alarms ++ [firedAt + workTickIntervalMs * 1000 + (shiftFor group).toNat]) := by
  have shiftOf : shiftFor group = workTickIntervalMs * 1000 - calculator.deltaMean - workTickOverlapBuffer := by
    rw [mean]
    rfl
  rw [applyShift_eq bounds, ← shiftOf]
  simp only
  split
  next => exact ⟨_, rfl, .inl rfl⟩
  next valid =>
    have interval := workInterval_eq
    have narrow : (shiftFor group).toNat % 2 ^ 32 = (shiftFor group).toNat := by omega
    have fits : (shiftFor group).toNat ≤ workTickIntervalMs * 1000 := by omega
    obtain kept | moved := @shift_alarms timer firedAt _ restartOk fired fits
    next => exact ⟨_, rfl, .inl (by rwa [narrow])⟩
    next => exact ⟨_, rfl, .inr ⟨by omega, by omega, by rwa [narrow]⟩⟩

theorem Sampled.sample (sampled : Sampled record s) {firedAt now woken : Nat} {restartOk : Bool}
    (wake : record.woken = some woken) (before : woken < now) (fired : firedAt ≤ now) (inRange : now < timerRange)
    (near : s.calculator.shiftSample ≠ 0 →
      |(now - woken : Int) - s.calculator.deltaMean| ≤ maxAcceptableDeltaChangeUs)
    {sample : PhaseShiftCalculator} (waiting : sample.earlyWakeup = false)
    (newMean : sample.deltaMean = (s.calculator.deltaMean * s.calculator.shiftSample + (now - woken)).tdiv
      (s.calculator.shiftSample + 1))
    (newCount : sample.shiftSample = s.calculator.shiftSample + 1) :
    ∃ synced,
      (if minShiftSamplesForShift ≤ sample.shiftSample then
          sample.applyShift { s.timer with lastWorkTickUs := firedAt } restartOk
        else some (sample, { s.timer with lastWorkTickUs := firedAt })) = some synced ∧
      Sampled (record.note (.workTick firedAt now restartOk)) ⟨synced.1, synced.2, now⟩ ∧
      Phased (record.note (.workTick firedAt now restartOk)) s ⟨synced.1, synced.2, now⟩
        (.workTick firedAt now restartOk) := by
  obtain ⟨earlier, group, split, count, mean, positive, stable⟩ := sampled.group
  have range := timerRange_eq
  have small : (now : Int) < timerRange := Int.ofNat_lt.mpr inRange
  have bounds : 0 ≤ (now - woken : Int) ∧ (now - woken : Int) < timerRange := by omega
  have delta_positive : 0 < (now - woken : Int) := by omega
  have newBounds := @mean_bounds (now - woken) s.calculator.shiftSample _ sampled.mean bounds
  rw [← newMean] at newBounds
  have noted : record.note (.workTick firedAt now restartOk) =
      ⟨none, earlier ++ (group ++ [(now - woken : Int)]).map some⟩ := by
    simp [TickRecord.note, wake, split]
  have sameMean : sample.deltaMean = runningMean (group ++ [(now - woken : Int)]) := by
    rw [runningMean_concat, ← mean, count, newMean]
  have allPositive : ∀ delta ∈ group ++ [(now - woken : Int)], 0 < delta := by
    intro delta member
    rw [List.mem_append, List.mem_singleton] at member
    obtain earlier | rfl := member
    next => exact positive delta earlier
    next => exact delta_positive
  have nextStable : Stable (group ++ [(now - woken : Int)]) := by
    apply stable_concat stable
    intro filled
    rw [← mean]
    apply near
    rw [← count]
    exact List.length_pos_iff.mpr filled |>.ne'
  have length : (group ++ [(now - woken : Int)]).length = sample.shiftSample := by
    rw [List.length_append, count, List.length_singleton, newCount]
  have notNone : (record.note (.workTick firedAt now restartOk)).deltas.getLast? ≠ some none := by
    rw [noted]
    simp
  have few := sampled.few
  by_cases full : minShiftSamplesForShift ≤ sample.shiftSample
  next =>
    have complete : (group ++ [(now - woken : Int)]).length = minShiftSamplesForShift := by
      rw [length]
      omega
    obtain ⟨timer, applied, outcome⟩ := @applyShift_alarms _ s.timer _ _ restartOk newBounds sameMean
      (Nat.lt_of_le_of_lt fired inRange)
    rw [if_pos full, applied]
    refine ⟨_, rfl, .restarted inRange, ?_, fun impossible => absurd impossible notNone⟩
    obtain kept | ⟨above, below, moved⟩ := outcome
    next => exact .inl kept
    next =>
      right
      refine ⟨earlier, _, ?_, complete, allPositive, nextStable, above, below, moved⟩
      rw [noted]
  next =>
    rw [if_neg full]
    refine ⟨_, rfl, ?_, .inl rfl, fun impossible => absurd impossible notNone⟩
    rw [noted]
    constructor
    case woken => exact waiting
    case wake =>
      intro woken impossible
      cases impossible
    case group => exact ⟨earlier, _, rfl, length, sameMean, allPositive, nextStable⟩
    case few => exact Nat.lt_of_not_le full
    case mean => exact newBounds
    case clock => exact inRange

theorem Sampled.workTick (sampled : Sampled record s) {firedAt now : Nat} {restartOk : Bool}
    (timely : (PhaseAction.workTick firedAt now restartOk).Timely s.clock)
    (noDrop : s.NoDrop (.workTick firedAt now restartOk)) :
    ∃ synced,
      s.calculator.sleepDebug { s.timer with lastWorkTickUs := firedAt } now restartOk = some synced ∧
        Sampled (record.note (.workTick firedAt now restartOk)) ⟨synced.1, synced.2, now⟩ ∧
        Phased (record.note (.workTick firedAt now restartOk)) s ⟨synced.1, synced.2, now⟩
          (.workTick firedAt now restartOk) := by
  obtain ⟨later, fired, inRange⟩ := timely
  have range := timerRange_eq
  unfold PhaseShiftCalculator.sleepDebug
  cases awake : s.calculator.earlyWakeup with
  | false =>
      simp only [Bool.false_eq_true, if_false]
      split
      next => exact ⟨_, rfl, Sampled.restart inRange⟩
      next none_sampled =>
        have unwoken : record.woken = none := by
          have same := sampled.woken
          rw [awake] at same
          exact Option.isSome_eq_false_iff.mp same.symm |> Option.isNone_iff_eq_none.mp
        have first : s.calculator.shiftSample = 0 := Nat.eq_zero_of_not_pos none_sampled
        obtain ⟨earlier, group, _, count, mean, _, _⟩ := sampled.group
        obtain rfl := List.eq_nil_of_length_eq_zero (count.trans first)
        refine ⟨_, rfl, ?_, .inl rfl, fun _ => first⟩
        constructor
        case woken => exact awake
        case wake =>
          intro woken impossible
          cases impossible
        case group =>
          refine ⟨record.deltas ++ [none], [], ?_, first.symm, mean, ?_, stable_nil⟩
          next => simp [TickRecord.note, unwoken]
          next =>
            intro delta member
            cases member
        case few => exact sampled.few
        case mean => exact sampled.mean
        case clock => exact inRange
  | true =>
      obtain ⟨woken, wake⟩ : ∃ woken, record.woken = some woken := by
        have same := sampled.woken
        rw [awake] at same
        exact Option.isSome_iff_exists.mp same.symm
      obtain ⟨last, before⟩ := sampled.wake woken wake
      have small : (now : Int) < timerRange := Int.ofNat_lt.mpr inRange
      simp only [if_true, PhaseShiftCalculator.syncBtWithWorkWindow]
      split
      next => exact ⟨_, rfl, Sampled.restart inRange⟩
      next =>
        have delta := @int64_eq (now - s.calculator.lastBtWakeTime) (by omega) (by omega)
        rw [delta, last]
        simp only [Option.bind_eq_bind, Option.bind_some]
        split
        next positive =>
          have bounds : 0 ≤ (now - woken : Int) ∧ (now - woken : Int) < timerRange := by omega
          have large := @largeDelta_eq ⟨woken, s.calculator.deltaMean, s.calculator.shiftSample, false⟩ _
            sampled.mean bounds
          have added := @addSample_eq ⟨woken, s.calculator.deltaMean, s.calculator.shiftSample, false⟩ _
            sampled.few sampled.mean bounds
          simp only [large, added, Option.bind_some, decide_eq_true_eq]
          split
          next => exact ⟨_, rfl, Sampled.restart inRange⟩
          next near =>
            have twoSided : s.calculator.shiftSample ≠ 0 →
                |(now - woken : Int) - s.calculator.deltaMean| ≤ maxAcceptableDeltaChangeUs := by
              intro some_sample
              have below := noDrop awake some_sample
              rw [last] at below
              have above : ¬maxAcceptableDeltaChangeUs < now - woken - s.calculator.deltaMean :=
                fun large => near ⟨some_sample, large⟩
              rw [abs_le]
              omega
            exact @Sampled.sample record s sampled firedAt now woken restartOk wake (by omega) fired inRange
              twoSided ⟨woken, _, _, false⟩ rfl rfl rfl
        next => exact ⟨_, rfl, Sampled.restart inRange⟩

theorem Sampled.step (sampled : Sampled record s) {action : PhaseAction} (timely : action.Timely s.clock)
    (noDrop : s.NoDrop action) :
    ∃ after, s.step action = some after ∧ Sampled (record.note action) after ∧
      Phased (record.note action) s after action := by
  unfold PhaseShift.step
  rw [if_pos timely]
  cases action with
  | lightSleepExit causes now => exact ⟨_, rfl, sampled.lightSleepExit causes timely.1 timely.2, rfl⟩
  | workTick firedAt now restartOk =>
      obtain ⟨synced, ran, outcome⟩ := sampled.workTick timely noDrop
      exact ⟨_, congrArg (Option.map _) ran, outcome⟩

theorem booted_sampled (created : Bool) : Sampled (recordOf []) (.booted created) :=
  .restarted (Nat.two_pow_pos 52)

theorem recordOf_concat (history : List PhaseAction) (action : PhaseAction) :
    recordOf (history ++ [action]) = (recordOf history).note action := by
  rw [recordOf, List.foldl_append]
  rfl

theorem PhaseShift.timely_of_step {action : PhaseAction} {after : PhaseShift} (taken : s.step action = some after) :
    action.Timely s.clock := by
  by_contra untimely
  unfold PhaseShift.step at taken
  rw [if_neg untimely] at taken
  cases taken

theorem Sampled.run {past actions : List PhaseAction} {after : PhaseShift} (sampled : Sampled (recordOf past) s)
    (ran : Transition.run PhaseShift.step s actions = some after)
    (noDrops : Guarded PhaseShift.step PhaseShift.NoDrop s actions) :
    Sampled (recordOf (past ++ actions)) after := by
  induction actions generalizing past s with
  | nil =>
      cases ran
      rw [List.append_nil]
      exact sampled
  | cons action rest ih =>
      obtain ⟨middle, taken, remaining⟩ := Option.bind_eq_some_iff.mp ran
      simp only [Guarded, taken] at noDrops
      obtain ⟨next, same, kept, _⟩ := sampled.step (PhaseShift.timely_of_step taken) noDrops.1
      rw [taken] at same
      cases same
      rw [← recordOf_concat] at kept
      have later := ih kept remaining noDrops.2
      rw [List.append_assoc] at later
      exact later

end Step

/-- The work tick is shifted behind five ticks in a row that Bluetooth wakes came steadily before. -/
theorem work_tick_phase (created : Bool) (history : List PhaseAction) (action : PhaseAction) (s : PhaseShift)
    (ran : run PhaseShift.step (.booted created) history = some s)
    (noDrops : Guarded PhaseShift.step PhaseShift.NoDrop (.booted created) history)
    (timely : action.Timely s.clock) (noDrop : s.NoDrop action) :
    ∃ after, s.step action = some after ∧ Phased (recordOf (history ++ [action])) s after action := by
  have sampled := (booted_sampled created).run ran noDrops
  obtain ⟨after, taken, _, phased⟩ := sampled.step timely noDrop
  rw [List.nil_append, ← recordOf_concat] at phased
  exact ⟨after, taken, phased⟩

def wakesBefore (deltas : List Nat) : List PhaseAction :=
  (deltas.mapIdx fun i delta =>
    [.lightSleepExit ⟨false, true⟩ (1025000 * (i + 1) - delta),
      .workTick (1025000 * (i + 1)) (1025000 * (i + 1)) true]).flatten

theorem work_tick_phase_steady :
    let history := wakesBefore [100000, 100500, 99800, 100100] ++ [.lightSleepExit ⟨false, true⟩ 5025100]
    let s : PhaseShift := ⟨⟨5025100, 100100, 4, true⟩, ⟨true, 4100000, []⟩, 5025100⟩
    ∃ after, s.step (.workTick 5125000 5125000 true) = some after ∧
      after.timer.alarms = [5125000 + 1025000 + (1025000 - 100060 - 2000)] ∧
      Phased (recordOf (history ++ [.workTick 5125000 5125000 true])) s after (.workTick 5125000 5125000 true) := by
  intro history s
  obtain ⟨after, taken, phased⟩ := work_tick_phase true history (.workTick 5125000 5125000 true) s
    (by decide) (by decide) (by decide) (by decide)
  have shifted : s.step (.workTick 5125000 5125000 true) =
      some ⟨.zero, ⟨true, 5125000, [5125000 + 1025000 + (1025000 - 100060 - 2000)]⟩, 5125000⟩ := by decide
  refine ⟨after, taken, ?_, phased⟩
  rw [shifted] at taken
  rw [← Option.some.inj taken]

/-- Five wakes, the later ones a tenth of a second nearer to their ticks than the first. -/
theorem work_tick_shifted_unsteadily :
    ¬∀ (created : Bool) (history : List PhaseAction) (action : PhaseAction) (s : PhaseShift),
      run PhaseShift.step (.booted created) history = some s → action.Timely s.clock →
        ∃ after, s.step action = some after ∧ Phased (recordOf (history ++ [action])) s after action := by
  intro always
  let history := wakesBefore [200000, 100000, 100000, 100000] ++ [.lightSleepExit ⟨false, true⟩ 5025000]
  obtain ⟨after, taken, phased⟩ := always true history (.workTick 5125000 5125000 true)
    ⟨⟨5025000, 124999, 4, true⟩, ⟨true, 4100000, []⟩, 5025000⟩ (by decide) (by decide)
  cases taken
  obtain ⟨kept | ⟨earlier, group, split, length, _, stable, _⟩, _⟩ := phased
  next => exact absurd kept (by decide)
  next =>
    have found : (recordOf (history ++ [.workTick 5125000 5125000 true])).deltas =
        [] ++ [200000, 100000, 100000, 100000, 100000].map some := by decide
    rw [found] at split
    have same := List.append_inj_right' split (by rw [List.length_map, List.length_map, length]; rfl)
    have deltas := List.map_injective_iff.mpr (Option.some_injective Int) same
    rw [← deltas] at stable
    have second := stable 1 (by decide) (by decide)
    norm_num [runningMean] at second

end WatchFirmware.PowerManager
