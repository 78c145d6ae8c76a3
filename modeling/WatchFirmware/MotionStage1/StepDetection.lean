import WatchFirmware.MotionStage1.Signal

set_option autoImplicit false

namespace WatchFirmware.MotionStage1

open FloatOps RingBuffer

variable {F : Type} [FloatOps F]

abbrev stage1CandidateBufferSize : Nat := 126
abbrev stage1CorelationBufferSize : Nat := 126
abbrev peakNeighbourhoodCoveragePcnt : Nat := 45
abbrev uint32Max : Nat := 4294967295

structure PeakCandidate (F : Type) where
  index : Nat
  prominence : F

/-- The indices of a loop that runs from `first` to `last` inclusive. -/
def indices (first last : Nat) : List Nat := List.range' first (last + 1 - first)

-- What calculate_signal_mean and calculate_signal_variance assert of their bounds.
def boundsHold (history : RingBuffer F) (startIdx endIdx : Nat) : Bool :=
  decide (0 < history.elements ∧ history.elemSize = sizeofFloat ∧ startIdx < history.elements ∧
    endIdx < history.elements ∧ startIdx < endIdx)

def calculateSignalMean (history : RingBuffer F) (startIdx endIdx : Nat) : Option F :=
  if boundsHold history startIdx endIdx then
    ((indices startIdx endIdx).foldlM (fun mean i =>
        (history.ringBufferGetElementAtIndex i).map (add mean)) (ofRat 0)).map fun mean =>
      div mean (ofRat (endIdx - startIdx + 1 : Nat))
  else none

def calculateSignalVariance (history : RingBuffer F) (mean : F) (startIdx endIdx : Nat) : Option F :=
  if boundsHold history startIdx endIdx then
    ((indices startIdx endIdx).foldlM (fun variance i =>
        (history.ringBufferGetElementAtIndex i).map fun signal =>
          let delta := sub signal mean
          add variance (mul delta delta)) (ofRat 0)).map fun variance =>
      div variance (ofRat (endIdx - startIdx + 1 : Nat))
  else none

structure Correlation (F : Type) where
  productSum : F
  energyA : F
  energyB : F

/-- The pairs of the signal with itself `lag` samples later. -/
def correlatePairs (history : RingBuffer F) (mean : F) (lag : Nat) : Option (Correlation F) :=
  (List.range (history.elements - lag)).foldlM (fun sums pairFirst =>
    (history.ringBufferGetElementAtIndex pairFirst).bind fun first =>
      (history.ringBufferGetElementAtIndex (pairFirst + lag)).map fun second =>
        let a := sub first mean
        let b := sub second mean
        { productSum := add sums.productSum (mul a b)
          energyA := add sums.energyA (mul a a)
          energyB := add sums.energyB (mul b b) })
    ⟨ofRat 0, ofRat 0, ofRat 0⟩

/-- The correlations so far and the best of them; the period is a whole lag or a half. -/
structure BestPeriod (F : Type) where
  correlations : List F
  period : ℚ
  correlation : F

def clampCorrelation (correlation : F) : F :=
  let high := if lt (ofRat 1) correlation then ofRat 1 else correlation
  if lt high (ofRat (-1)) then ofRat (-1) else high

def correlateLag (history : RingBuffer F) (mean : F) (minPeriodicity : Nat) (best : BestPeriod F)
    (lag : Nat) : Option (BestPeriod F) :=
  if lag < history.elements then
    (correlatePairs history mean lag).bind fun sums =>
      let denominator := sqrt (mul sums.energyA sums.energyB)
      if le denominator (ofRat (1 / 100000)) then some best
      else
        let correlation := clampCorrelation (div sums.productSum denominator)
        if lag - minPeriodicity < best.correlations.length then
          let stored := { best with
            correlations := best.correlations.set (lag - minPeriodicity) correlation }
          some (if lt best.correlation correlation then
            { stored with period := (lag % 256 : Nat), correlation } else stored)
        else none
  else none

/-- The first lag within the margin of the best that is a maximum among its neighbours. -/
def firstMaximum (best : BestPeriod F) (minPeriodicity maxPeriodicity : Nat) :
    List Nat → Option (Option Nat)
  | [] => some none
  | lag :: rest =>
      best.correlations[lag - minPeriodicity]?.bind fun current =>
        if lt current (sub best.correlation (ofRat (5 / 100))) then
          firstMaximum best minPeriodicity maxPeriodicity rest
        else
          (if minPeriodicity < lag then best.correlations[lag - minPeriodicity - 1]?
            else some (ofRat (-2))).bind fun prev =>
            (if lag < maxPeriodicity then best.correlations[lag - minPeriodicity + 1]?
              else some (ofRat (-2))).bind fun next =>
              if le prev current && le next current then some (some lag)
              else firstMaximum best minPeriodicity maxPeriodicity rest

def calculateSignalPeriodicity (history : RingBuffer F) (minPeriodicity maxPeriodicity : Nat) :
    Option (Nat × Bool) :=
  if minPeriodicity < maxPeriodicity ∧ maxPeriodicity < history.elements then
    let correlationCount := maxPeriodicity - minPeriodicity + 1
    let fallback : BestPeriod F :=
      { correlations := List.replicate correlationCount (ofRat (-2))
        period := (maxPeriodicity + minPeriodicity : Nat) / 2
        correlation := ofRat (-2) }
    (calculateSignalMean history 0 (history.elements - 1)).bind fun mean =>
      ((indices minPeriodicity maxPeriodicity).foldlM
          (correlateLag history mean minPeriodicity) fallback).bind fun best =>
        if lt (ofRat (7 / 10)) best.correlation then
          (firstMaximum best minPeriodicity maxPeriodicity
              (indices minPeriodicity ⌊best.period⌋₊)).map fun found =>
            (found.getD ⌊best.period⌋₊ % 256, true)
        else some (⌊best.period⌋₊ % 256, false)
  else none

def calculatePeakRadius (period : Nat) : Nat :=
  (period * peakNeighbourhoodCoveragePcnt + 50) / 100 % 256

def calculatePeakBoundaries (history : RingBuffer F) (peakIdx peakRadius : Nat) : Option (Nat × Nat) :=
  if 3 < history.elements then
    some
      ((if peakRadius < peakIdx then peakIdx - peakRadius else 0) % 256,
        (if peakIdx + peakRadius < history.elements then peakIdx + peakRadius
          else history.elements - 1) % 256)
  else none

def minSignal (history : RingBuffer F) (first : Nat) (places : List Nat) : Option F :=
  (history.ringBufferGetElementAtIndex first).bind fun start =>
    places.foldlM (fun least i =>
      (history.ringBufferGetElementAtIndex i).map fun signal =>
        if lt signal least then signal else least) start

def calculatePeakProminence (history : RingBuffer F) (peakIdx peakRadius : Nat) : Option F :=
  if 3 < history.elements then
    (calculatePeakBoundaries history peakIdx peakRadius).bind fun bounds =>
      let hasLeft := decide (peakRadius ≤ peakIdx)
      let hasRight := decide (peakRadius + peakIdx ≤ bounds.2)
      let lowest : F := sub (ofRat 0) infinity
      (if hasLeft then
          minSignal history bounds.1 (List.range' bounds.1 (peakIdx - bounds.1))
        else some lowest).bind fun leftMin =>
        (if hasRight then
            minSignal history bounds.2 (List.range' (peakIdx + 1) (bounds.2 - (peakIdx + 1)))
          else some lowest).bind fun rightMin =>
          (history.ringBufferGetElementAtIndex peakIdx).map fun peakProminence =>
            let baseline := if lt leftMin rightMin then rightMin else leftMin
            sub peakProminence (if !hasLeft && !hasRight then peakProminence else baseline)
  else none

def rhythmicDelta (candidates : List (PeakCandidate F)) (candidateIdx minInterval maxInterval
    periodicity : Nat) : Option Nat :=
  let currIdx := ((candidates[candidateIdx]?).map PeakCandidate.index).getD 0
  candidates.zipIdx.foldl (fun least neighbor =>
    if neighbor.2 = candidateIdx then least
    else
      let interval :=
        if neighbor.1.index ≤ currIdx then currIdx - neighbor.1.index else neighbor.1.index - currIdx
      if minInterval ≤ interval ∧ interval ≤ maxInterval then
        let delta := if periodicity < interval then interval - periodicity else periodicity - interval
        some (if delta < least.getD uint32Max then delta else least.getD uint32Max)
      else least) none

/-- Whether a neighbour was found, and the deviation, which is else what it was before. -/
def peakHasRhythmicNeighbor (candidates : List (PeakCandidate F)) (candidateIdx minInterval maxInterval
    periodicity : Nat) (deviation : F) : Bool × F :=
  match rhythmicDelta candidates candidateIdx minInterval maxInterval periodicity with
  | some delta =>
      if periodicity ≠ 0 then (true, div (ofRat delta) (ofRat periodicity)) else (false, deviation)
  | none => (false, deviation)

def addCandidate (candidates : List (PeakCandidate F)) (candidate : PeakCandidate F) :
    Option (List (PeakCandidate F)) :=
  if candidates.length < stage1CandidateBufferSize then some (candidates ++ [candidate]) else none

def appendPeakCandidate (candidates : List (PeakCandidate F)) (peakIdx : Nat) (prominence : F)
    (minInterval : Nat) : Option (List (PeakCandidate F)) :=
  match candidates.getLast? with
  | none => addCandidate candidates ⟨peakIdx, prominence⟩
  | some prev =>
      if (peakIdx + 256 - prev.index) % 256 < minInterval then
        some (if lt prev.prominence prominence then
          candidates.dropLast ++ [⟨peakIdx, prominence⟩] else candidates)
      else addCandidate candidates ⟨peakIdx, prominence⟩

/-- One round of the loop that collects the candidates. -/
def collectPeak (params : TuningParams F) (history : RingBuffer F) (peakRadius : Nat)
    (candidates : List (PeakCandidate F)) (i : Nat) : Option (List (PeakCandidate F)) :=
  (history.ringBufferGetElementAtIndex (i - 1)).bind fun prev =>
    (history.ringBufferGetElementAtIndex (i + 1)).bind fun next =>
      (history.ringBufferGetElementAtIndex i).bind fun curr =>
        if le prev curr && le next curr then
          (calculatePeakProminence history (i % 256) peakRadius).bind fun prominence =>
            if lt prominence params.stepMinProminenceForPeak then some candidates
            else appendPeakCandidate candidates (i % 256) prominence params.minSamplesBetweenSteps
        else some candidates

structure Detection (F : Type) where
  candidates : List (PeakCandidate F)
  windowBoundary : Nat
  period : Nat
  periodicityConfidence : Bool
  peakRadius : Nat

def acceptsPeak (params : TuningParams F) (gate : StepGate) (detection : Detection F)
    (detectedSteps i : Nat) (peakProminence : F) : Bool :=
  let neighbor := peakHasRhythmicNeighbor detection.candidates (i % 256) params.minSamplesBetweenSteps
    params.maxSamplesBetweenSteps detection.period infinity
  let clearlyProminent := le (mul params.stepMinProminenceForPeak (ofRat (15 / 10))) peakProminence
  let isFirstStep := !gate.isWalking && gate.pendingSteps == 0 && detectedSteps == 0 && clearlyProminent
  let supportedByProminence := !detection.periodicityConfidence && neighbor.1 && clearlyProminent
  let timingSupported := detection.periodicityConfidence && neighbor.1 &&
    le neighbor.2 params.maxStepPeriodicityDeviation &&
    le (mul params.stepMinProminenceForPeak (ofRat (115 / 100))) peakProminence
  timingSupported || supportedByProminence || isFirstStep

/-- One round of the loop that filters the candidates. -/
def filterPeak (params : TuningParams F) (gate : StepGate) (history : RingBuffer F)
    (detection : Detection F) (detectedSteps i : Nat) : Option Nat :=
  detection.candidates[i]?.bind fun peak =>
    if peak.index < detection.windowBoundary then some detectedSteps
    else
      (calculatePeakBoundaries history peak.index detection.peakRadius).bind fun bounds =>
        (calculateSignalMean history bounds.1 bounds.2).bind fun localMean =>
          (calculateSignalVariance history localMean bounds.1 bounds.2).map fun peakVariance =>
            if lt peakVariance params.stepMinVarianceActivityForStep then detectedSteps
            else if acceptsPeak params gate detection detectedSteps i peak.prominence &&
                decide (detectedSteps < uint8Max) then
              detectedSteps + 1
            else detectedSteps

def detectWindowSteps (params : TuningParams F) (gate : StepGate) (history : RingBuffer F)
    (windowSamples : Nat) : Option Nat :=
  if windowSamples = 0 then some 0
  else if history.data.isNone ∨ history.elements < params.minSamplesBeforeStepInference then some 0
  else if history.elements < uint8Max ∧ windowSamples < history.elements then
    (calculateSignalPeriodicity history params.minSamplesBetweenSteps
        params.maxSamplesBetweenSteps).bind fun periodicity =>
      let peakRadius := calculatePeakRadius periodicity.1
      ((List.range' 1 (history.elements - 2)).foldlM
          (collectPeak params history peakRadius) []).bind fun candidates =>
        if candidates.isEmpty then some 0
        else
          let detection : Detection F :=
            { candidates
              windowBoundary := (history.elements - windowSamples - 1) % 256
              period := periodicity.1
              periodicityConfidence := periodicity.2
              peakRadius }
          (List.range candidates.length).foldlM (filterPeak params gate history detection) 0
  else none

end WatchFirmware.MotionStage1
