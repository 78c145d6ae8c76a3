import WatchFirmware.MotionStage1.Stage1
import WatchFirmware.Shared.Loop

set_option autoImplicit false

namespace WatchFirmware.MotionStage1

open FloatOps RingBuffer Transition

variable {F : Type} [FloatOps F] {history : RingBuffer F}

omit [FloatOps F] in
theorem RingBuffer.WellFormed.few (formed : history.WellFormed) : history.elements ≤ 126 := by
  have most := formed.elements
  have size := formed.maxSize
  simp only [stepLearningHistorySize, samplingFreqAccelOnly] at size
  omega

omit [FloatOps F] in
theorem boundsHold_of (formed : history.WellFormed) {startIdx endIdx : Nat} (order : startIdx < endIdx)
    (inside : endIdx < history.elements) : boundsHold history startIdx endIdx = true := by
  have sized := formed.elemSize
  unfold boundsHold
  apply decide_eq_true
  refine ⟨by omega, sized, by omega, inside, order⟩

theorem mem_indices {first last i : Nat} (present : i ∈ indices first last) : first ≤ i ∧ i ≤ last := by
  have range := List.mem_range'_1.mp present
  omega

omit [FloatOps F] in
theorem readLoop_some {σ : Type} (formed : history.WellFormed) (each : σ → F → σ) {places : List Nat}
    (inside : ∀ i ∈ places, i < history.elements) (start : σ) :
    ∃ after, places.foldlM
      (fun sum i => (history.ringBufferGetElementAtIndex i).map (each sum)) start = some after := by
  have looped : ∃ after, places.foldlM
      (fun sum i => (history.ringBufferGetElementAtIndex i).map (each sum)) start = some after ∧ True := by
    apply Loop.foldlM_invariant _ trivial
    intro i present sum _
    obtain ⟨x, read⟩ := formed.get (inside i present)
    exact ⟨each sum x, by rw [read, Option.map_some], trivial⟩
  obtain ⟨after, ran, _⟩ := looped
  exact ⟨after, ran⟩

theorem calculateSignalMean_some (formed : history.WellFormed) {startIdx endIdx : Nat}
    (order : startIdx < endIdx) (inside : endIdx < history.elements) :
    ∃ mean, calculateSignalMean history startIdx endIdx = some mean := by
  have within (i : Nat) (present : i ∈ indices startIdx endIdx) : i < history.elements :=
    lt_of_le_of_lt (mem_indices present).2 inside
  obtain ⟨sum, summed⟩ := readLoop_some formed add within (ofRat 0)
  unfold calculateSignalMean
  rw [if_pos (boundsHold_of formed order inside), summed]
  exact ⟨_, rfl⟩

theorem calculateSignalVariance_some (formed : history.WellFormed) (mean : F) {startIdx endIdx : Nat}
    (order : startIdx < endIdx) (inside : endIdx < history.elements) :
    ∃ variance, calculateSignalVariance history mean startIdx endIdx = some variance := by
  have within (i : Nat) (present : i ∈ indices startIdx endIdx) : i < history.elements :=
    lt_of_le_of_lt (mem_indices present).2 inside
  obtain ⟨sum, summed⟩ := readLoop_some formed
    (fun variance signal => add variance (mul (sub signal mean) (sub signal mean))) within (ofRat 0)
  unfold calculateSignalVariance
  rw [if_pos (boundsHold_of formed order inside), summed]
  exact ⟨_, rfl⟩

theorem correlatePairs_some (formed : history.WellFormed) (mean : F) (lag : Nat) :
    ∃ sums, correlatePairs history mean lag = some sums := by
  have looped : ∃ sums, correlatePairs history mean lag = some sums ∧ True := by
    apply Loop.foldlM_invariant _ trivial
    intro pairFirst present sums _
    have bound := List.mem_range.mp present
    obtain ⟨first, read⟩ := formed.get (i := pairFirst) (by omega)
    obtain ⟨second, readLater⟩ := formed.get (i := pairFirst + lag) (by omega)
    rw [read, Option.bind_some, readLater, Option.map_some]
    exact ⟨_, rfl, trivial⟩
  obtain ⟨sums, ran, _⟩ := looped
  exact ⟨sums, ran⟩

structure BestPeriod.Within (best : BestPeriod F) (minPeriodicity maxPeriodicity : Nat) : Prop where
  length : best.correlations.length = maxPeriodicity - minPeriodicity + 1
  least : minPeriodicity ≤ ⌊best.period⌋₊
  most : ⌊best.period⌋₊ ≤ maxPeriodicity

theorem correlateLag_some (formed : history.WellFormed) (mean : F) {minPeriodicity maxPeriodicity lag : Nat}
    {best : BestPeriod F} (within : best.Within minPeriodicity maxPeriodicity)
    (least : minPeriodicity ≤ lag) (most : lag ≤ maxPeriodicity) (short : maxPeriodicity < history.elements) :
    ∃ next, correlateLag history mean minPeriodicity best lag = some next ∧
      next.Within minPeriodicity maxPeriodicity := by
  have few := formed.few
  have byte : lag % 256 = lag := Nat.mod_eq_of_lt (by omega)
  have place : lag - minPeriodicity < best.correlations.length := by
    rw [within.length]
    omega
  obtain ⟨sums, paired⟩ := correlatePairs_some formed mean lag
  unfold correlateLag
  rw [if_pos (lt_of_le_of_lt most short), paired, Option.bind_some]
  simp only
  split
  next => exact ⟨best, rfl, within⟩
  next =>
    refine ⟨_, rfl, ?_⟩
    split
    next =>
      constructor
      case length => simp [within.length]
      case least =>
        rw [byte, Nat.floor_natCast]
        exact least
      case most =>
        rw [byte, Nat.floor_natCast]
        exact most
    next =>
      constructor
      case length => simp [within.length]
      case least => exact within.least
      case most => exact within.most

theorem firstMaximum_some {minPeriodicity maxPeriodicity : Nat} {best : BestPeriod F}
    (within : best.Within minPeriodicity maxPeriodicity) (lags : List Nat)
    (inside : ∀ lag ∈ lags, minPeriodicity ≤ lag ∧ lag ≤ maxPeriodicity) :
    ∃ found, firstMaximum best minPeriodicity maxPeriodicity lags = some found ∧
      ∀ lag, found = some lag → minPeriodicity ≤ lag ∧ lag ≤ maxPeriodicity := by
  induction lags with
  | nil => exact ⟨none, rfl, fun lag same => by contradiction⟩
  | cons lag rest ih =>
      have bounds := inside lag List.mem_cons_self
      have later := ih fun other present => inside other (List.mem_cons_of_mem lag present)
      have length := within.length
      have get {place : Nat} (below : place < best.correlations.length) :
          ∃ x, best.correlations[place]? = some x := ⟨_, List.getElem?_eq_getElem below⟩
      have here : lag - minPeriodicity < best.correlations.length := by omega
      obtain ⟨current, at_lag⟩ := get here
      have before : ∃ prev, (if minPeriodicity < lag then best.correlations[lag - minPeriodicity - 1]?
          else some (ofRat (-2))) = some prev := by
        split
        next => exact get (by omega)
        next => exact ⟨_, rfl⟩
      have after : ∃ next, (if lag < maxPeriodicity then best.correlations[lag - minPeriodicity + 1]?
          else some (ofRat (-2))) = some next := by
        split
        next => exact get (by omega)
        next => exact ⟨_, rfl⟩
      obtain ⟨prev, at_prev⟩ := before
      obtain ⟨next, at_next⟩ := after
      unfold firstMaximum
      rw [at_lag, Option.bind_some, at_prev, Option.bind_some, at_next, Option.bind_some]
      split
      next => exact later
      next =>
        split
        next =>
          refine ⟨some lag, rfl, ?_⟩
          intro other same
          cases same
          exact bounds
        next => exact later

theorem calculateSignalPeriodicity_some (formed : history.WellFormed) {minPeriodicity maxPeriodicity : Nat}
    (order : minPeriodicity < maxPeriodicity) (short : maxPeriodicity < history.elements) :
    ∃ period confidence, calculateSignalPeriodicity history minPeriodicity maxPeriodicity =
      some (period, confidence) ∧ minPeriodicity ≤ period ∧ period ≤ maxPeriodicity := by
  have few := formed.few
  have averaging : ∃ mean, calculateSignalMean history 0 (history.elements - 1) = some mean :=
    calculateSignalMean_some formed (by omega) (by omega)
  obtain ⟨mean, averaged⟩ := averaging
  -- the fallback lies half way between the two lags
  have half : ⌊((maxPeriodicity + minPeriodicity : Nat) : ℚ) / 2⌋₊ =
      (maxPeriodicity + minPeriodicity) / 2 := by
    have floored := Nat.floor_div_eq_div (K := ℚ) (maxPeriodicity + minPeriodicity) 2
    simpa using floored
  have fallback : BestPeriod.Within
      ⟨List.replicate (maxPeriodicity - minPeriodicity + 1) (ofRat (-2) : F),
        ((maxPeriodicity + minPeriodicity : Nat) : ℚ) / 2, ofRat (-2)⟩ minPeriodicity maxPeriodicity := by
    constructor
    case length => simp
    case least =>
      rw [half]
      omega
    case most =>
      rw [half]
      omega
  have searching : ∃ best, (indices minPeriodicity maxPeriodicity).foldlM
      (correlateLag history mean minPeriodicity)
      ⟨List.replicate (maxPeriodicity - minPeriodicity + 1) (ofRat (-2) : F),
        ((maxPeriodicity + minPeriodicity : Nat) : ℚ) / 2, ofRat (-2)⟩ = some best ∧
      best.Within minPeriodicity maxPeriodicity := by
    have each (lag : Nat) (present : lag ∈ indices minPeriodicity maxPeriodicity)
        (best : BestPeriod F) (within : best.Within minPeriodicity maxPeriodicity) :
        ∃ next, correlateLag history mean minPeriodicity best lag = some next ∧
          next.Within minPeriodicity maxPeriodicity := by
      have bounds := mem_indices present
      exact correlateLag_some formed mean within bounds.1 bounds.2 short
    exact Loop.foldlM_invariant each fallback
  obtain ⟨best, searched, within⟩ := searching
  have least := within.least
  have most := within.most
  have byte {period : Nat} (bound : period ≤ maxPeriodicity) : period % 256 = period :=
    Nat.mod_eq_of_lt (by omega)
  unfold calculateSignalPeriodicity
  rw [if_pos ⟨order, short⟩]
  simp only [averaged, searched, Option.bind_some]
  split
  next =>
    have lags (lag : Nat) (present : lag ∈ indices minPeriodicity ⌊best.period⌋₊) :
        minPeriodicity ≤ lag ∧ lag ≤ maxPeriodicity := by
      have bounds := mem_indices present
      exact ⟨bounds.1, le_trans bounds.2 most⟩
    obtain ⟨found, chosen, bounds⟩ := firstMaximum_some within _ lags
    rw [chosen, Option.map_some]
    refine ⟨_, _, rfl, ?_⟩
    cases found with
    | none =>
        rw [Option.getD_none, byte most]
        exact ⟨least, most⟩
    | some lag =>
        have inside := bounds lag rfl
        rw [Option.getD_some, byte inside.2]
        exact inside
  next =>
    refine ⟨_, _, rfl, ?_⟩
    rw [byte most]
    exact ⟨least, most⟩

theorem calculatePeakRadius_bounds {period : Nat} (least : counts.minSamplesBetweenSteps ≤ period)
    (most : period ≤ counts.maxSamplesBetweenSteps) :
    0 < calculatePeakRadius period ∧ calculatePeakRadius period ≤ 13 := by
  simp only [counts] at least most
  have bounds : 0 < (period * 45 + 50) / 100 ∧ (period * 45 + 50) / 100 ≤ 13 := by omega
  have byte : (period * 45 + 50) / 100 % 256 = (period * 45 + 50) / 100 :=
    Nat.mod_eq_of_lt (by omega)
  unfold calculatePeakRadius
  rw [byte]
  exact bounds

def Inner (history : RingBuffer F) (peakIdx : Nat) : Prop :=
  0 < peakIdx ∧ peakIdx + 1 < history.elements

omit [FloatOps F] in
theorem calculatePeakBoundaries_some (formed : history.WellFormed) {peakIdx : Nat}
    (inner : Inner history peakIdx) (peakRadius : Nat) (enough : 3 < history.elements) :
    ∃ left right, calculatePeakBoundaries history peakIdx peakRadius = some (left, right) ∧
      left ≤ peakIdx ∧ peakIdx ≤ right ∧ right < history.elements ∧ (0 < peakRadius → left < right) := by
  have few := formed.few
  obtain ⟨first, last⟩ := inner
  unfold calculatePeakBoundaries
  rw [if_pos enough]
  refine ⟨_, _, rfl, ?_, ?_, ?_, ?_⟩
  next => split <;> omega
  next => split <;> omega
  next => split <;> omega
  next =>
    intro positive
    split <;> split <;> omega

theorem minSignal_some (formed : history.WellFormed) {first : Nat} {places : List Nat}
    (start : first < history.elements) (inside : ∀ i ∈ places, i < history.elements) :
    ∃ least, minSignal history first places = some least ∧
      ∃ i, history.ringBufferGetElementAtIndex i = some least := by
  obtain ⟨signal, read⟩ := formed.get start
  unfold minSignal
  rw [read, Option.bind_some]
  apply Loop.foldlM_invariant _ ⟨first, read⟩
  intro i present least known
  obtain ⟨other, readOther⟩ := formed.get (inside i present)
  rw [readOther, Option.map_some]
  refine ⟨_, rfl, ?_⟩
  split
  next => exact ⟨i, readOther⟩
  next => exact known

def SideMin (history : RingBuffer F) (reaches : Bool) (least : F) : Prop :=
  if reaches then ∃ i, history.ringBufferGetElementAtIndex i = some least
  else least = sub (ofRat 0) infinity

theorem sideMin_some (formed : history.WellFormed) (reaches : Bool) {first : Nat} {places : List Nat}
    (start : first < history.elements) (inside : ∀ i ∈ places, i < history.elements) :
    ∃ least, (if reaches then minSignal history first places else some (sub (ofRat 0) infinity)) = some least ∧
      SideMin history reaches least := by
  cases reaches with
  | false => exact ⟨_, rfl, rfl⟩
  | true =>
      obtain ⟨least, found, known⟩ := minSignal_some formed start inside
      exact ⟨least, found, known⟩

theorem calculatePeakProminence_some (formed : history.WellFormed) {peakIdx : Nat}
    (inner : Inner history peakIdx) (peakRadius : Nat) (enough : 3 < history.elements) :
    ∃ hasLeft hasRight leftMin rightMin peak, SideMin history hasLeft leftMin ∧
      SideMin history hasRight rightMin ∧ history.ringBufferGetElementAtIndex peakIdx = some peak ∧
      calculatePeakProminence history peakIdx peakRadius =
        some (sub peak (if !hasLeft && !hasRight then peak
          else if lt leftMin rightMin then rightMin else leftMin)) := by
  obtain ⟨left, right, bounded, before, after, inside, _⟩ :=
    calculatePeakBoundaries_some formed inner peakRadius enough
  have here : peakIdx < history.elements := Nat.lt_of_succ_lt inner.2
  have start : left < history.elements := Nat.lt_of_le_of_lt before here
  have leftPlaces (i : Nat) (present : i ∈ List.range' left (peakIdx - left)) : i < history.elements := by
    have range := List.mem_range'_1.mp present
    omega
  have rightPlaces (i : Nat) (present : i ∈ List.range' (peakIdx + 1) (right - (peakIdx + 1))) :
      i < history.elements := by
    have range := List.mem_range'_1.mp present
    omega
  obtain ⟨leftMin, leftRead, leftSide⟩ :=
    sideMin_some formed (decide (peakRadius ≤ peakIdx)) start leftPlaces
  obtain ⟨rightMin, rightRead, rightSide⟩ :=
    sideMin_some formed (decide (peakRadius + peakIdx ≤ right)) inside rightPlaces
  obtain ⟨peak, read⟩ := formed.get here
  refine ⟨_, _, leftMin, rightMin, peak, leftSide, rightSide, read, ?_⟩
  unfold calculatePeakProminence
  rw [if_pos enough, bounded, Option.bind_some]
  simp only [leftRead, rightRead, read, Option.bind_some, Option.map_some]

structure Collected (history : RingBuffer F) (rounds : Nat) (candidates : List (PeakCandidate F)) :
    Prop where
  few : candidates.length ≤ rounds
  inner : ∀ candidate ∈ candidates, Inner history candidate.index

omit [FloatOps F] in
theorem addCandidate_some {rounds : Nat} {candidates : List (PeakCandidate F)}
    (collected : Collected history rounds candidates) (room : rounds < stage1CandidateBufferSize)
    {peakIdx : Nat} (inner : Inner history peakIdx) (prominence : F) :
    ∃ next, addCandidate candidates ⟨peakIdx, prominence⟩ = some next ∧ Collected history (rounds + 1) next := by
  have few := collected.few
  unfold addCandidate
  rw [if_pos (by omega)]
  refine ⟨_, rfl, ?_⟩
  constructor
  case few =>
    rw [List.length_append, List.length_singleton]
    omega
  case inner =>
    intro other present
    obtain old | new := List.mem_append.mp present
    next => exact collected.inner other old
    next =>
      rw [List.mem_singleton.mp new]
      exact inner

theorem appendPeakCandidate_some {rounds : Nat} {candidates : List (PeakCandidate F)}
    (collected : Collected history rounds candidates) (room : rounds < stage1CandidateBufferSize)
    {peakIdx : Nat} (inner : Inner history peakIdx) (prominence : F) (minInterval : Nat) :
    ∃ next, appendPeakCandidate candidates peakIdx prominence minInterval = some next ∧
      Collected history (rounds + 1) next := by
  have added := addCandidate_some collected room inner prominence
  have few := collected.few
  unfold appendPeakCandidate
  split
  next => exact added
  next prev last =>
    split
    next =>
      refine ⟨_, rfl, ?_⟩
      split
      next =>
        constructor
        case few =>
          rw [List.length_append, List.length_singleton, List.length_dropLast]
          omega
        case inner =>
          intro other present
          obtain old | new := List.mem_append.mp present
          next => exact collected.inner other (List.mem_of_mem_dropLast old)
          next =>
            rw [List.mem_singleton.mp new]
            exact inner
      next => exact ⟨by omega, collected.inner⟩
    next => exact added

theorem collectPeak_some (formed : history.WellFormed) (params : TuningParams F) {peakRadius rounds i : Nat}
    {candidates : List (PeakCandidate F)} (collected : Collected history rounds candidates)
    (room : rounds < stage1CandidateBufferSize) (inner : Inner history i) (enough : 3 < history.elements) :
    ∃ next, collectPeak params history peakRadius candidates i = some next ∧
      Collected history (rounds + 1) next := by
  have few := formed.few
  have bounds := inner
  obtain ⟨first, last⟩ := bounds
  have byte : i % 256 = i := Nat.mod_eq_of_lt (by omega)
  have below : i - 1 < history.elements := by omega
  have here : i < history.elements := by omega
  obtain ⟨prev, readPrev⟩ := formed.get below
  obtain ⟨next, readNext⟩ := formed.get last
  obtain ⟨curr, readCurr⟩ := formed.get here
  have kept : Collected history (rounds + 1) candidates :=
    ⟨Nat.le_succ_of_le collected.few, collected.inner⟩
  unfold collectPeak
  rw [readPrev, Option.bind_some, readNext, Option.bind_some, readCurr, Option.bind_some, byte]
  split
  next =>
    have computing : ∃ prominence, calculatePeakProminence history i peakRadius = some prominence := by
      obtain ⟨_, _, _, _, _, _, _, _, computed⟩ :=
        calculatePeakProminence_some formed inner peakRadius enough
      exact ⟨_, computed⟩
    obtain ⟨prominence, computed⟩ := computing
    rw [computed, Option.bind_some]
    split
    next => exact ⟨candidates, rfl, kept⟩
    next => exact appendPeakCandidate_some collected room inner prominence _
  next => exact ⟨candidates, rfl, kept⟩

theorem filterPeak_some (formed : history.WellFormed) (params : TuningParams F) (gate : StepGate)
    (detection : Detection F) {i : Nat} (inside : i < detection.candidates.length)
    (inner : ∀ candidate ∈ detection.candidates, Inner history candidate.index)
    (positive : 0 < detection.peakRadius) (enough : 3 < history.elements) (detectedSteps : Nat) :
    ∃ next, filterPeak params gate history detection detectedSteps i = some next := by
  have present := List.getElem?_eq_getElem inside
  have peakInner := inner _ (List.getElem_mem inside)
  generalize detection.candidates[i] = peak at present peakInner
  unfold filterPeak
  rw [present, Option.bind_some]
  split
  next => exact ⟨detectedSteps, rfl⟩
  next =>
    obtain ⟨left, right, bounded, _, _, within, wide⟩ :=
      calculatePeakBoundaries_some formed peakInner detection.peakRadius enough
    have order := wide positive
    obtain ⟨mean, averaged⟩ := calculateSignalMean_some formed order within
    obtain ⟨variance, measured⟩ := calculateSignalVariance_some formed mean order within
    rw [bounded, Option.bind_some, averaged, Option.bind_some, measured, Option.map_some]
    exact ⟨_, rfl⟩

/-- The detection asserts nothing false but, at its start, that the window is shorter than the
history. -/
theorem detectWindowSteps_isSome_iff (formed : history.WellFormed) (gate : StepGate) {windowSamples : Nat}
    (some_samples : windowSamples ≠ 0) :
    (detectWindowSteps (params : TuningParams F) gate history windowSamples).isSome ↔
      (history.elements < counts.minSamplesBeforeStepInference ∨ windowSamples < history.elements) := by
  have few := formed.few
  obtain ⟨data, allocated, _⟩ := formed.allocated
  unfold detectWindowSteps
  rw [if_neg some_samples]
  by_cases early : history.elements < counts.minSamplesBeforeStepInference
  next =>
    rw [if_pos (.inr early)]
    exact iff_of_true rfl (.inl early)
  next =>
    have started : ¬(history.data.isNone = true ∨
        history.elements < (params : TuningParams F).minSamplesBeforeStepInference) := by
      rw [allocated]
      exact fun either => either.elim Bool.noConfusion early
    rw [if_neg started]
    have long : 62 < history.elements := by
      simp only [counts, samplingFreqAccelOnly] at early
      omega
    by_cases shorter : windowSamples < history.elements
    next =>
      apply iff_of_true _ (.inr shorter)
      have byteSized : history.elements < uint8Max := by
        simp only [uint8Max]
        omega
      rw [if_pos ⟨byteSized, shorter⟩]
      have lags : counts.minSamplesBetweenSteps < counts.maxSamplesBetweenSteps := by decide
      have lagInside : counts.maxSamplesBetweenSteps < history.elements := by
        simp only [counts]
        omega
      obtain ⟨period, confidence, found, least, most⟩ :=
        calculateSignalPeriodicity_some formed lags lagInside
      have found : calculateSignalPeriodicity history (params : TuningParams F).minSamplesBetweenSteps
          (params : TuningParams F).maxSamplesBetweenSteps = some (period, confidence) := found
      rw [found, Option.bind_some]
      have positive := (calculatePeakRadius_bounds least most).1
      have enough : 3 < history.elements := by omega
      have collecting : ∃ candidates, (List.range' 1 (history.elements - 2)).foldlM
          (collectPeak params history (calculatePeakRadius period)) [] = some candidates ∧
            Collected history (List.range' 1 (history.elements - 2)).length candidates := by
        apply Loop.foldlM_total
        next =>
          intro i inside candidates collected
          rw [List.length_range'] at inside
          have inner : Inner history (List.range' 1 (history.elements - 2))[i] := by
            rw [List.getElem_range']
            unfold Inner
            omega
          have room : i < stage1CandidateBufferSize := by
            simp only [stage1CandidateBufferSize]
            omega
          exact collectPeak_some formed params collected room inner enough
        next => exact ⟨Nat.le_refl 0, List.forall_mem_nil _⟩
      obtain ⟨candidates, collected, all⟩ := collecting
      simp only [collected, Option.bind_some]
      split
      next => rfl
      next =>
        let detection : Detection F :=
          { candidates
            windowBoundary := (history.elements - windowSamples - 1) % 256
            period
            periodicityConfidence := confidence
            peakRadius := calculatePeakRadius period }
        have filtering : ∃ steps, (List.range candidates.length).foldlM
            (filterPeak params gate history detection) 0 = some steps ∧ True := by
          apply Loop.foldlM_invariant _ trivial
          intro i present steps _
          obtain ⟨next, filtered⟩ := filterPeak_some formed params gate detection
            (List.mem_range.mp present) all.inner positive enough steps
          exact ⟨next, filtered, trivial⟩
        obtain ⟨steps, filtered, _⟩ := filtering
        rw [filtered]
        rfl
    next =>
      rw [if_neg fun both => shorter both.2]
      apply iff_of_false Bool.noConfusion
      exact fun either => either.elim early shorter

theorem smoothVertical_some (formed : history.WellFormed) (params : TuningParams F) (vertical : F) :
    ∃ smoothed, smoothVertical params history vertical = some smoothed := by
  unfold smoothVertical
  split
  next occupied =>
    have newest : history.elements - 1 < history.elements := by omega
    obtain ⟨previous, read⟩ := formed.get newest
    rw [read, Option.map_some]
    exact ⟨_, rfl⟩
  next => exact ⟨vertical, rfl⟩

structure Sampled (elements rounds : Nat) (sums : SampleLoop F) : Prop where
  state : sums.ctx.state = .accelOnly
  formed : sums.ctx.verticalAccelModHistory.WellFormed
  elements : sums.ctx.verticalAccelModHistory.elements =
    min counts.maxVerticalAccelHistorySize (elements + rounds)

theorem processSample_some (params : TuningParams F) (data : Nat → Ble.Byte) {elements rounds : Nat}
    {sums : SampleLoop F} (sampled : Sampled elements rounds sums) (j : Nat) :
    ∃ next, processSample params data sums j = some next ∧ Sampled elements (rounds + 1) next := by
  obtain ⟨smoothed, smooth⟩ := smoothVertical_some sampled.formed params
    (verticalAccel (trackGravity params (seedGravity sums.ctx.gravityPrev (readSample data j))
      (readSample data j)) (readSample data j))
  obtain ⟨history, inserted, formed, longer⟩ := sampled.formed.insert smoothed
  have before := sampled.elements
  have accel := sampled.state
  unfold processSample
  simp only [accel, smooth, inserted, Option.bind_some, Option.map_some]
  refine ⟨_, rfl, rfl, formed, ?_⟩
  simp only [counts] at *
  omega

def Stage1Ctx.filled (ctx : Stage1Ctx F) (count : Nat) : Nat :=
  min counts.maxVerticalAccelHistorySize (ctx.verticalAccelModHistory.elements + count)

/-- The windows that stage 1 takes without a failed assertion: too short for a sample, or into an
allocated history that afterwards holds too little to infer steps or more than the window. -/
def Stage1Ctx.Fits (ctx : Stage1Ctx F) (buffer : MotionBuffer) : Prop :=
  ctx.sampleCount buffer.samples = 0 ∨
    (ctx.verticalAccelModHistory.data.isSome ∧
      (ctx.filled (ctx.sampleCount buffer.samples) < counts.minSamplesBeforeStepInference ∨
        ctx.sampleCount buffer.samples < ctx.filled (ctx.sampleCount buffer.samples)))

def MotionBuffer.Sized (buffer : MotionBuffer) : Prop := 1 ≤ buffer.samples ∧ buffer.samples ≤ 800

structure Stage1Ctx.Consistent (ctx : Stage1Ctx F) : Prop where
  state : ctx.state = .accelOnly
  history : ctx.verticalAccelModHistory.WellFormed ∨ ctx.verticalAccelModHistory = .empty

theorem processSample_unallocated (params : TuningParams F) (data : Nat → Ble.Byte) {sums : SampleLoop F}
    (state : sums.ctx.state = .accelOnly) (unallocated : sums.ctx.verticalAccelModHistory = .empty) (j : Nat) :
    processSample params data sums j = none := by
  unfold processSample
  simp only [state, unallocated]
  apply Option.bind_eq_none_iff.mpr
  intro smoothed _
  rfl

theorem sampleLoop_some (params : TuningParams F) (data : Nat → Ble.Byte) {ctx : Stage1Ctx F}
    (state : ctx.state = .accelOnly) (formed : ctx.verticalAccelModHistory.WellFormed) (count : Nat) :
    ∃ sums, (List.range count).foldlM (processSample params data) ⟨ctx, ofRat 0, ofRat 0⟩ = some sums ∧
      Sampled ctx.verticalAccelModHistory.elements count sums := by
  have each (i : Nat) (inside : i < (List.range count).length) (sums : SampleLoop F)
      (sampled : Sampled ctx.verticalAccelModHistory.elements i sums) :
      ∃ next, processSample params data sums (List.range count)[i] = some next ∧
        Sampled ctx.verticalAccelModHistory.elements (i + 1) next :=
    processSample_some params data sampled _
  have start : Sampled ctx.verticalAccelModHistory.elements 0 (⟨ctx, ofRat 0, ofRat 0⟩ : SampleLoop F) := by
    refine ⟨state, formed, ?_⟩
    have few := formed.few
    simp only [counts, stepLearningHistorySize, samplingFreqAccelOnly]
    omega
  obtain ⟨sums, ran, sampled⟩ := Loop.foldlM_total each start
  rw [List.length_range] at sampled
  exact ⟨sums, ran, sampled⟩

theorem processMotionData_isSome_iff {ctx : Stage1Ctx F} (consistent : ctx.Consistent)
    {buffer : MotionBuffer} (sized : buffer.Sized) :
    (ctx.processMotionData buffer.data buffer.samples).isSome ↔ ctx.Fits buffer := by
  have state := consistent.state
  have positive : buffer.samples ≠ 0 := Nat.ne_of_gt sized.1
  unfold Stage1Ctx.processMotionData Stage1Ctx.Fits
  rw [if_neg positive]
  generalize ctx.sampleCount buffer.samples = count
  by_cases none_whole : count = 0
  next =>
    simp only [none_whole, if_true, true_or, Option.isSome_some]
  next =>
    simp only [none_whole, if_false, false_or]
    obtain formed | unallocated := consistent.history
    next =>
      obtain ⟨sums, ran, sampled⟩ := sampleLoop_some params buffer.data state formed count
      obtain ⟨data, allocated, _⟩ := formed.allocated
      have detects := detectWindowSteps_isSome_iff sampled.formed sums.ctx.gate none_whole
      rw [sampled.elements] at detects
      rw [ran, Option.bind_some, allocated, Option.isSome_map, Stage1Ctx.inferMotion, Option.isSome_map,
        detects]
      simp only [Option.isSome_some, true_and]
      rfl
    next =>
      obtain ⟨rounds, rfl⟩ := Nat.exists_eq_succ_of_ne_zero none_whole
      have stuck : processSample params buffer.data ⟨ctx, ofRat 0, ofRat 0⟩ 0 = none :=
        processSample_unallocated params buffer.data state unallocated 0
      rw [List.range_succ_eq_map, List.foldlM_cons, stuck, unallocated]
      simp [RingBuffer.empty]

theorem processMotionData_consistent {ctx after : Stage1Ctx F} {data : Nat → Ble.Byte} {samples : Nat}
    {result : Option Stage1Result} (consistent : ctx.Consistent)
    (processed : ctx.processMotionData data samples = some (after, result)) : after.Consistent := by
  have state := consistent.state
  unfold Stage1Ctx.processMotionData at processed
  split at processed
  next => contradiction
  next =>
    simp only at processed
    generalize ctx.sampleCount samples = count at processed
    split at processed
    next =>
      cases processed
      exact consistent
    next whole =>
      obtain ⟨sums, ran, rest⟩ := Option.bind_eq_some_iff.mp processed
      obtain formed | unallocated := consistent.history
      next =>
        obtain ⟨others, again, sampled⟩ := sampleLoop_some params data state formed count
        rw [again] at ran
        cases ran
        obtain ⟨out, inferred, same⟩ := Option.map_eq_some_iff.mp rest
        cases same
        -- what is inferred from the window leaves the history alone
        obtain ⟨steps, _, rfl⟩ := Option.map_eq_some_iff.mp inferred
        exact ⟨sampled.state, .inl sampled.formed⟩
      next =>
        obtain ⟨rounds, rfl⟩ := Nat.exists_eq_succ_of_ne_zero whole
        have stuck : processSample params data ⟨ctx, ofRat 0, ofRat 0⟩ 0 = none :=
          processSample_unallocated params data state unallocated 0
        rw [List.range_succ_eq_map, List.foldlM_cons, stuck] at ran
        contradiction

/-- After `stage1_init`, whatever malloc answered. -/
def Stage1Ctx.Initial (ctx : Stage1Ctx F) : Prop :=
  ∃ storage, (∀ data, storage = some data → data.length = counts.maxVerticalAccelHistorySize) ∧
    ctx = stage1Init storage

theorem initial_consistent {ctx : Stage1Ctx F} (initial : ctx.Initial) : ctx.Consistent := by
  obtain ⟨storage, size, rfl⟩ := initial
  refine ⟨rfl, ?_⟩
  cases storage with
  | none => exact .inr rfl
  | some data => exact .inl (ringBufferInit_wellFormed (size data rfl))

/-- In every run over buffers of 1 to 800 bytes, a call fails no assertion just where the window
fits. -/
theorem stage1_asserts_iff {ctx : Stage1Ctx F}
    (reached : Reach stage1Step Stage1Ctx.Initial (fun _ buffer => buffer.Sized) ctx)
    {buffer : MotionBuffer} (sized : buffer.Sized) :
    (stage1Step ctx buffer).isSome ↔ ctx.Fits buffer := by
  have consistent : ctx.Consistent := by
    apply reached.invariant (fun _ => initial_consistent)
    intro before given after holds _ taken
    obtain ⟨out, processed, rfl⟩ := Option.map_eq_some_iff.mp taken
    exact processMotionData_consistent holds processed
  rw [stage1Step, Option.isSome_map]
  exact processMotionData_isSome_iff consistent sized

def quietBuffer (samples : Nat) : MotionBuffer := ⟨fun _ => 0, samples⟩

def freshCtx : Stage1Ctx Float32 :=
  .stage1Init (some (List.replicate counts.maxVerticalAccelHistorySize 0))

theorem freshCtx_initial : freshCtx.Initial := by
  refine ⟨_, ?_, rfl⟩
  intro data same
  cases same
  exact List.length_replicate

theorem stage1_asserts_short_window :
    (stage1Step freshCtx (quietBuffer 126)).isSome = true := by
  have sized : (quietBuffer 126).Sized := by
    unfold MotionBuffer.Sized
    decide
  apply (stage1_asserts_iff (.start freshCtx_initial) sized).mpr
  exact .inr ⟨rfl, .inl (by decide)⟩

/-- A first buffer of three seconds fills the history no further than the window is long. -/
theorem stage1_asserts_first_window :
    Reach stage1Step Stage1Ctx.Initial (fun _ buffer => buffer.Sized) freshCtx ∧
      (quietBuffer 378).Sized ∧ stage1Step freshCtx (quietBuffer 378) = none := by
  have sized : (quietBuffer 378).Sized := by
    unfold MotionBuffer.Sized
    decide
  refine ⟨.start freshCtx_initial, sized, ?_⟩
  have consistent := initial_consistent freshCtx_initial
  have fits := processMotionData_isSome_iff consistent sized
  have overlong : ¬freshCtx.Fits (quietBuffer 378) := by
    unfold Stage1Ctx.Fits
    have count : freshCtx.sampleCount (quietBuffer 378).samples = 63 := rfl
    have filled : freshCtx.filled 63 = 63 := rfl
    rw [count, filled]
    simp [counts, samplingFreqAccelOnly]
  have failed := mt fits.mp overlong
  rw [stage1Step, Option.not_isSome_iff_eq_none.mp failed]
  rfl

end WatchFirmware.MotionStage1
