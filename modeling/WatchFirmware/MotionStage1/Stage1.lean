import WatchFirmware.MotionStage1.StepDetection
import WatchFirmware.Shared.Transition

set_option autoImplicit false

namespace WatchFirmware.MotionStage1

open FloatOps RingBuffer Transition
open Ble (Byte)

variable {F : Type} [FloatOps F]

structure Stage1Ctx (F : Type) where
  state : MotionState
  accelPrev : Vec3 F
  gravityPrev : Vec3 F
  verticalAccelModHistory : RingBuffer F
  noMotionWindowCount : Nat
  gate : StepGate

structure Stage1Result where
  noMotion : Bool
  steps : Nat
  deriving DecidableEq, Repr

def detectNoMotion (params : TuningParams F) (noMotionWindowCount : Nat)
    (accelUnstability jerkAverage : F) : Bool × Nat :=
  let early := decide (noMotionWindowCount < params.minWindowNoMotionThreshold)
  let counted := if early then (noMotionWindowCount + 1) % 256 else noMotionWindowCount
  let multiplier : F := if early then ofRat 0 else ofRat 1
  let fourth (x : F) : F := Vec3.squaref (Vec3.squaref x)
  let accelConfidence :=
    if lt accelUnstability params.maxAccelUnstableThresholdDensity then
      div (ofRat 1) (add (ofRat 1) accelUnstability)
    else
      div (ofRat (4 / 10))
        (fourth (sub (add (ofRat 1) accelUnstability) params.maxAccelUnstableThresholdDensity))
  let jerkConfidence :=
    if lt jerkAverage params.maxJerkThresholdPerSample then ofRat 1
    else
      div (ofRat (4 / 10))
        (fourth (sub (add (ofRat 1) jerkAverage) params.maxJerkThresholdPerSample))
  let confidence :=
    add (mul (ofRat (4 / 10)) accelConfidence) (mul (ofRat (6 / 10)) jerkConfidence)
  let kept := if lt confidence (ofRat (8 / 10)) then 0 else counted
  let scaled := mul confidence multiplier
  -- a window in between is not counted and decides nothing
  if le (ofRat (8 / 10)) scaled && le scaled (ofRat (9 / 10)) then (false, (kept + 255) % 256)
  else (lt (ofRat (9 / 10)) scaled, kept)

structure SampleLoop (F : Type) where
  ctx : Stage1Ctx F
  windowJerkSum : F
  accelUnstability : F

def smoothVertical (params : TuningParams F) (history : RingBuffer F) (vertical : F) : Option F :=
  if history.elements ≠ 0 then
    (history.ringBufferGetElementAtIndex (history.elements - 1)).map fun previous =>
      add (mul params.verticalAccelAlpha previous)
        (mul (sub (ofRat 1) params.verticalAccelAlpha) vertical)
  else some vertical

-- The sensor is turned by -90 degrees: x is read as y and y as -x.
def readSample (data : Nat → Byte) (j : Nat) : Vec3 F :=
  let base := j * 6
  Vec3.sampleToG (int16 (data base) (data (base + 1)))
    (negate16 (int16 (data (base + 2)) (data (base + 3))))
    (int16 (data (base + 4)) (data (base + 5)))

-- The first sample stands in for the gravity that is not known yet.
def seedGravity (gravityPrev currSample : Vec3 F) : Vec3 F :=
  if eq gravityPrev.x (ofRat 0) && eq gravityPrev.y (ofRat 0) && eq gravityPrev.z (ofRat 0) then
    currSample
  else gravityPrev

def trackGravity (params : TuningParams F) (gravity currSample : Vec3 F) : Vec3 F :=
  gravity.plus ((currSample.subtract gravity).scale params.gravityAlpha)

def verticalAccel (gravity currSample : Vec3 F) : F := sub (currSample.componentOnG gravity) (ofRat 1)

/-- One round of the loop in `stage1_process_motion_data`. -/
def processSample (params : TuningParams F) (data : Nat → Byte) (sums : SampleLoop F) (j : Nat) :
    Option (SampleLoop F) :=
  let ctx := sums.ctx
  match ctx.state with
  | .accelGyro => some sums
  | .accelOnly =>
      let currSample : Vec3 F := readSample data j
      let gravity := seedGravity ctx.gravityPrev currSample
      let energy := (currSample.subtract gravity).modSquare
      let gravityPrev := trackGravity params gravity currSample
      (smoothVertical params ctx.verticalAccelModHistory (verticalAccel gravityPrev currSample)).bind
        fun smoothed =>
          (ctx.verticalAccelModHistory.ringBufferInsert smoothed).map fun history =>
            { ctx :=
                { ctx with
                  accelPrev := currSample
                  gravityPrev
                  verticalAccelModHistory := history }
              windowJerkSum := add sums.windowJerkSum (currSample.subtract ctx.accelPrev).modSquare
              accelUnstability := add sums.accelUnstability
                (if lt params.accelStableThreshold energy then ofRat 1 else ofRat 0) }

namespace Stage1Ctx

def sampleCount (ctx : Stage1Ctx F) (samples : Nat) : Nat :=
  samples / (match ctx.state with | .accelOnly => 6 | .accelGyro => 12)

/-- The end of `stage1_process_motion_data`, behind its loop. -/
def inferMotion (params : TuningParams F) (sums : SampleLoop F) (samples : Nat) :
    Option (Stage1Ctx F × Stage1Result) :=
  let ctx := sums.ctx
  let motion := detectNoMotion params ctx.noMotionWindowCount
    (div sums.accelUnstability (ofRat samples)) (div sums.windowJerkSum (ofRat samples))
  (detectWindowSteps params ctx.gate ctx.verticalAccelModHistory samples).map fun windowSteps =>
    let accepted := ctx.gate.deriveAcceptedSteps params.toTuningCounts windowSteps samples
    ({ ctx with noMotionWindowCount := motion.2, gate := accepted.1 }, ⟨motion.1, accepted.2 % 256⟩)

-- The result stays unset where the bytes are not enough for a sample.
def processMotionData (ctx : Stage1Ctx F) (data : Nat → Byte) (samples : Nat) :
    Option (Stage1Ctx F × Option Stage1Result) :=
  if samples = 0 then none
  else
    let count := ctx.sampleCount samples
    if count = 0 then some (ctx, none)
    else
      ((List.range count).foldlM (processSample params data) ⟨ctx, ofRat 0, ofRat 0⟩).bind fun sums =>
        (inferMotion params sums count).map fun out => (out.1, some out.2)

/-- `storage` is what malloc returned for the history. -/
def stage1Init (storage : Option (List F)) : Stage1Ctx F :=
  { state := .accelOnly
    accelPrev := .zero
    gravityPrev := .zero
    verticalAccelModHistory :=
      ringBufferInit (params (F := F)).maxVerticalAccelHistorySize sizeofFloat storage
    noMotionWindowCount := 0
    gate := .initial }

end Stage1Ctx

structure MotionBuffer where
  data : Nat → Byte
  samples : Nat

def stage1Step : Step (Stage1Ctx F) MotionBuffer := fun ctx buffer =>
  (ctx.processMotionData buffer.data buffer.samples).map Prod.fst

end WatchFirmware.MotionStage1
