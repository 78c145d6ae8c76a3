import WatchFirmware.MotionStage1.HistoryWindow
import WatchFirmware.MotionStage1.PeakSeparation

set_option autoImplicit false

namespace WatchFirmware.MotionStage1

open FloatOps GreedyMerge RingBuffer Transition

variable {F : Type} [FloatOps F]

structure DetectionWindow (F : Type) where
  samples : List F
  period : Nat
  periodicityConfidence : Bool

structure DetectionWindow.Allowed (window : DetectionWindow F) : Prop where
  short : window.samples.length ≤ 40
  least : counts.minSamplesBetweenSteps ≤ window.period
  most : window.period ≤ counts.maxSamplesBetweenSteps

/-- The loop of `stage1_detect_window_steps` that collects the candidates. -/
def candidatePeaks (history : RingBuffer F) (period : Nat) : Option (List (PeakCandidate F)) :=
  (List.range' 1 (history.elements - 2)).foldlM (collectPeak params history (calculatePeakRadius period)) []

def windowBoundary (history : RingBuffer F) (windowSamples : Nat) : Nat :=
  (history.elements - windowSamples - 1) % 256

def DetectionWindow.detection (window : DetectionWindow F) (history : RingBuffer F)
    (candidates : List (PeakCandidate F)) : Detection F :=
  { candidates
    windowBoundary := windowBoundary history window.samples.length
    period := window.period
    periodicityConfidence := window.periodicityConfidence
    peakRadius := calculatePeakRadius window.period }

def countPeak (gate : StepGate) (history : RingBuffer F) (detection : Detection F) (counted : List Nat)
    (i : Nat) : Option (List Nat) :=
  detection.candidates[i]?.bind fun peak =>
    (filterPeak params gate history detection counted.length i).map fun detectedSteps =>
      if counted.length < detectedSteps then counted ++ [peak.index] else counted

def Infers (history : RingBuffer F) (windowSamples : Nat) : Prop :=
  windowSamples ≠ 0 ∧
    ¬(history.data.isNone ∨ history.elements < (params : TuningParams F).minSamplesBeforeStepInference)

instance (history : RingBuffer F) (windowSamples : Nat) : Decidable (Infers history windowSamples) :=
  inferInstanceAs (Decidable (_ ∧ _))

/-- The indices of the peaks that `stage1_detect_window_steps` counts. -/
def countedPeaks (gate : StepGate) (history : RingBuffer F) (window : DetectionWindow F) :
    Option (List Nat) :=
  if Infers history window.samples.length then
    if history.elements < uint8Max ∧ window.samples.length < history.elements then
      (candidatePeaks history window.period).bind fun candidates =>
        (List.range candidates.length).foldlM
          (countPeak gate history (window.detection history candidates)) []
    else none
  else some []

def DetectionWindow.peaks (window : DetectionWindow F) (history : RingBuffer F) : List (PeakCandidate F) :=
  peaksUpTo params history (calculatePeakRadius window.period) (history.elements - 2)

/-- The peaks that no higher one follows closely, and none that is the highest around it precedes. -/
def DetectionWindow.standing (window : DetectionWindow F) (history : RingBuffer F) : List (PeakCandidate F) :=
  (window.peaks history).filter fun peak =>
    Stands PeakCandidate.index PeakCandidate.higher counts.minSamplesBetweenSteps (window.peaks history) peak

def Varies (history : RingBuffer F) (peakRadius i : Nat) : Prop :=
  ∃ bounds ∈ calculatePeakBoundaries history i peakRadius,
    ∃ mean ∈ calculateSignalMean history bounds.1 bounds.2,
      ∃ variance ∈ calculateSignalVariance history mean bounds.1 bounds.2,
        lt variance (params : TuningParams F).stepMinVarianceActivityForStep = false

def Prominent (factor : ℚ) (peak : PeakCandidate F) : Prop :=
  le (mul (params : TuningParams F).stepMinProminenceForPeak (ofRat factor)) peak.prominence = true

def PeakCandidate.interval (peak neighbor : PeakCandidate F) : Nat :=
  if neighbor.index ≤ peak.index then peak.index - neighbor.index else neighbor.index - peak.index

def periodDelta (period interval : Nat) : Nat := if period < interval then interval - period else period - interval

def DetectionWindow.Rhythmic (window : DetectionWindow F) (peak neighbor : PeakCandidate F) : Prop :=
  (counts.minSamplesBetweenSteps ≤ peak.interval neighbor ∧
      peak.interval neighbor ≤ counts.maxSamplesBetweenSteps) ∧
    (window.periodicityConfidence = true →
      le (div (ofRat (periodDelta window.period (peak.interval neighbor))) (ofRat window.period))
        (params : TuningParams F).maxStepPeriodicityDeviation = true)

/-- What the filter asks of a peak, whatever the merge has made of the others. -/
def DetectionWindow.MayCount (window : DetectionWindow F) (gate : StepGate) (history : RingBuffer F)
    (peak : PeakCandidate F) : Prop :=
  Varies history (calculatePeakRadius window.period) peak.index ∧
    (Prominent (if window.periodicityConfidence then 115 / 100 else 15 / 10) peak ∧
        (∃ neighbor ∈ window.standing history, window.Rhythmic peak neighbor) ∨
      (gate.isWalking = false ∧ gate.pendingSteps = 0) ∧ Prominent (15 / 10) peak)

/-- The indices where a candidate is not skipped for lying before the window. -/
def eligiblePlaces (history : RingBuffer F) (windowSamples : Nat) : List Nat :=
  if Infers history windowSamples then
    (List.range' 1 (history.elements - 2)).filter fun i => ¬i < windowBoundary history windowSamples
  else []

abbrev Apart (places : List Nat) : Prop :=
  places.Pairwise fun first second => first + counts.minSamplesBetweenSteps ≤ second

/-- The windows so far: the samples in their order, and the places in that order where peaks could be
counted and were. -/
structure Stream (F : Type) where
  history : RingBuffer F
  gate : StepGate
  samples : List F
  eligible : List Nat
  counted : List Nat

namespace Stream

def start (storage : List F) : Stream F :=
  { history := ringBufferInit (params (F := F)).maxVerticalAccelHistorySize sizeofFloat (some storage)
    gate := .initial
    samples := []
    eligible := []
    counted := [] }

def place (history : RingBuffer F) (samples : List F) (i : Nat) : Nat := samples.length - history.elements + i

-- A window without a sample does not come as far as the history.
def step (s : Stream F) (window : DetectionWindow F) : Option (Stream F) :=
  if window.samples.length = 0 then some s
  else
    (window.samples.foldlM ringBufferInsert s.history).bind fun history =>
      (countedPeaks s.gate history window).map fun peaks =>
        let samples := s.samples ++ window.samples
        { history
          gate := (s.gate.deriveAcceptedSteps counts peaks.length window.samples.length).1
          samples
          eligible := s.eligible ++ (eligiblePlaces history window.samples.length).map (place history samples)
          counted := s.counted ++ peaks.map (place history samples) }

/-- A peak of the window, too close behind a step of an earlier window to be another, fails a test of the
filter, or a higher one follows it closely, or one that is the highest around it precedes it closely. -/
def ClearEdge (s : Stream F) (window : DetectionWindow F) : Prop :=
  ∀ history ∈ window.samples.foldlM ringBufferInsert s.history,
    ∀ peak ∈ window.standing history, windowBoundary history window.samples.length ≤ peak.index →
      (∃ step ∈ s.counted,
        place history (s.samples ++ window.samples) peak.index < step + counts.minSamplesBetweenSteps) →
      ¬window.MayCount s.gate history peak

section Decidability

variable (history : RingBuffer F) (window : DetectionWindow F) (peak : PeakCandidate F)

instance (peakRadius i : Nat) : Decidable (Varies history peakRadius i) := by
  unfold Varies
  infer_instance

instance (factor : ℚ) : Decidable (Prominent factor peak) := inferInstanceAs (Decidable (_ = _))

instance (neighbor : PeakCandidate F) : Decidable (window.Rhythmic peak neighbor) :=
  inferInstanceAs (Decidable (_ ∧ _))

instance (gate : StepGate) : Decidable (window.MayCount gate history peak) :=
  inferInstanceAs (Decidable (_ ∧ _))

instance (s : Stream F) : Decidable (s.ClearEdge window) := by
  unfold ClearEdge
  infer_instance

end Decidability

end Stream

section Counting

variable {history : RingBuffer F} {gate : StepGate} {detection : Detection F}

theorem filterPeak_cases {detectedSteps i next : Nat}
    (filtered : filterPeak params gate history detection detectedSteps i = some next) :
    ∃ peak, detection.candidates[i]? = some peak ∧
      (next = detectedSteps ∨ next = detectedSteps + 1 ∧ detection.windowBoundary ≤ peak.index ∧
        Varies history detection.peakRadius peak.index ∧
        acceptsPeak params gate detection detectedSteps i peak.prominence = true) := by
  obtain ⟨peak, present, rest⟩ := Option.bind_eq_some_iff.mp filtered
  refine ⟨peak, present, ?_⟩
  split at rest
  next =>
    cases rest
    exact .inl rfl
  next inside =>
    obtain ⟨bounds, within, rest⟩ := Option.bind_eq_some_iff.mp rest
    obtain ⟨mean, averaged, rest⟩ := Option.bind_eq_some_iff.mp rest
    obtain ⟨variance, measured, same⟩ := Option.map_eq_some_iff.mp rest
    subst same
    split
    next => exact .inl rfl
    next enough =>
      split
      next accepted =>
        have varies : Varies history detection.peakRadius peak.index :=
          ⟨bounds, within, mean, averaged, variance, measured, Bool.not_eq_true _ ▸ enough⟩
        exact .inr ⟨rfl, Nat.le_of_not_lt inside, varies, (Bool.and_eq_true_iff.mp accepted).1⟩
      next => exact .inl rfl

def DeltaOfNeighbor (candidates : List (PeakCandidate F)) (peak : PeakCandidate F)
    (minInterval maxInterval period delta : Nat) : Prop :=
  ∃ neighbor ∈ candidates,
    (minInterval ≤ peak.interval neighbor ∧ peak.interval neighbor ≤ maxInterval) ∧
      delta = periodDelta period (peak.interval neighbor)

omit [FloatOps F] in
theorem rhythmicDelta_some {candidates : List (PeakCandidate F)} {i minInterval maxInterval period : Nat}
    {peak : PeakCandidate F} (present : candidates[i]? = some peak) (bounded : maxInterval < uint32Max)
    (short : period < uint32Max) :
    ∀ delta ∈ rhythmicDelta candidates i minInterval maxInterval period,
      DeltaOfNeighbor candidates peak minInterval maxInterval period delta := by
  have same : rhythmicDelta candidates i minInterval maxInterval period =
      candidates.zipIdx.foldl (fun least neighbor =>
        if neighbor.2 = i then least
        else if minInterval ≤ peak.interval neighbor.1 ∧ peak.interval neighbor.1 ≤ maxInterval then
          some (if periodDelta period (peak.interval neighbor.1) < least.getD uint32Max then
            periodDelta period (peak.interval neighbor.1) else least.getD uint32Max)
        else least) none := by
    unfold rhythmicDelta
    rw [present]
    rfl
  rw [same]
  apply List.foldlRecOn (motive := fun least : Option Nat => ∀ delta ∈ least,
    DeltaOfNeighbor candidates peak minInterval maxInterval period delta)
  next =>
    intro delta found
    contradiction
  next =>
    intro least known neighbor listed delta found
    have member : neighbor.1 ∈ candidates := List.fst_mem_of_mem_zipIdx listed
    split at found
    next => exact known delta found
    next =>
      split at found
      next near =>
        have below : periodDelta period (peak.interval neighbor.1) < uint32Max := by
          unfold periodDelta
          split <;> omega
        obtain rfl := Option.some.inj found
        cases least with
        | none => exact ⟨neighbor.1, member, near, if_pos below⟩
        | some earlier =>
            rw [Option.getD_some]
            split
            next => exact ⟨neighbor.1, member, near, rfl⟩
            next => exact known earlier rfl
      next => exact known delta found

theorem acceptsPeak_cases {i detectedSteps : Nat} {peak : PeakCandidate F}
    (present : detection.candidates[i]? = some peak) (byte : i < 256) (short : detection.period < uint32Max)
    (accepted : acceptsPeak params gate detection detectedSteps i peak.prominence = true) :
    (Prominent (if detection.periodicityConfidence then 115 / 100 else 15 / 10) peak ∧
        ∃ neighbor ∈ detection.candidates,
          (counts.minSamplesBetweenSteps ≤ peak.interval neighbor ∧
              peak.interval neighbor ≤ counts.maxSamplesBetweenSteps) ∧
            (detection.periodicityConfidence = true →
              le (div (ofRat (periodDelta detection.period (peak.interval neighbor))) (ofRat detection.period))
                (params : TuningParams F).maxStepPeriodicityDeviation = true)) ∨
      (gate.isWalking = false ∧ gate.pendingSteps = 0) ∧ Prominent (15 / 10) peak := by
  have index : i % 256 = i := Nat.mod_eq_of_lt byte
  have bounded : (params : TuningParams F).maxSamplesBetweenSteps < uint32Max := by
    simp [params, counts, uint32Max]
  have neighbors := @rhythmicDelta_some F _ i (params : TuningParams F).minSamplesBetweenSteps _ _ _
    present bounded short
  unfold acceptsPeak peakHasRhythmicNeighbor at accepted
  rw [index] at accepted
  simp only [Bool.or_eq_true, Bool.and_eq_true, Bool.not_eq_true', beq_iff_eq] at accepted
  obtain (⟨⟨⟨trusted, rhythmic⟩, timely⟩, prominent⟩ | ⟨⟨untrusted, rhythmic⟩, prominent⟩) |
    ⟨⟨⟨still, none_pending⟩, _⟩, prominent⟩ := accepted
  next =>
    split at rhythmic
    next delta found =>
      obtain ⟨neighbor, member, near, rfl⟩ := neighbors delta found
      simp only [found] at timely
      split at rhythmic
      next positive =>
        rw [if_pos positive] at timely
        rw [if_pos trusted]
        exact .inl ⟨prominent, neighbor, member, near, fun _ => timely⟩
      next => contradiction
    next => contradiction
  next =>
    split at rhythmic
    next delta found =>
      obtain ⟨neighbor, member, near, _⟩ := neighbors delta found
      have distrusted : ¬detection.periodicityConfidence = true := by
        rw [untrusted]
        decide
      rw [if_neg distrusted]
      exact .inl ⟨prominent, neighbor, member, near, fun trusted => absurd trusted distrusted⟩
    next => contradiction
  next => exact .inr ⟨⟨still, none_pending⟩, prominent⟩

theorem countPeak_length (counted : List Nat) (i : Nat) :
    (countPeak gate history detection counted i).map List.length =
      filterPeak params gate history detection counted.length i := by
  unfold countPeak
  cases filtered : filterPeak params gate history detection counted.length i with
  | none => cases detection.candidates[i]? <;> rfl
  | some next =>
      obtain ⟨peak, present, still | ⟨more, _⟩⟩ := filterPeak_cases filtered
      next => simp [present, still]
      next => simp [present, more]

theorem countPeaks_length (rounds : List Nat) (counted : List Nat) :
    (rounds.foldlM (countPeak gate history detection) counted).map List.length =
      rounds.foldlM (filterPeak params gate history detection) counted.length := by
  induction rounds generalizing counted with
  | nil => rfl
  | cons i rest ih =>
      have first := @countPeak_length F _ history gate detection counted i
      rw [List.foldlM_cons, List.foldlM_cons, ← first]
      cases countPeak gate history detection counted i with
      | none => rfl
      | some next => exact ih next

theorem detectWindowSteps_eq (gate : StepGate) {window : DetectionWindow F}
    (found : calculateSignalPeriodicity history (params : TuningParams F).minSamplesBetweenSteps
      (params : TuningParams F).maxSamplesBetweenSteps = some (window.period, window.periodicityConfidence)) :
    detectWindowSteps params gate history window.samples.length =
      (countedPeaks gate history window).map List.length := by
  unfold detectWindowSteps countedPeaks
  by_cases infers : Infers history window.samples.length
  next =>
    rw [if_neg infers.1, if_neg infers.2, if_pos infers, found, Option.bind_some]
    split
    next =>
      unfold candidatePeaks
      dsimp only
      rw [Option.map_bind]
      congr 1
      funext candidates
      rw [Function.comp_apply, countPeaks_length]
      cases candidates with
      | nil => rfl
      | cons first rest => rfl
    next => rfl
  next =>
    rw [if_neg infers]
    by_cases empty : window.samples.length = 0
    next => rw [if_pos empty, Option.map_some, List.length_nil]
    next =>
      have short : history.data.isNone = true ∨
          history.elements < (params : TuningParams F).minSamplesBeforeStepInference := by
        by_contra long
        exact infers ⟨empty, long⟩
      rw [if_neg empty, if_pos short, Option.map_some, List.length_nil]

end Counting

section Merge

variable {history : RingBuffer F} {candidates next : List (PeakCandidate F)}

theorem candidatePeaks_some (formed : history.WellFormed) (window : DetectionWindow F)
    (enough : 3 < history.elements) :
    ∃ candidates, candidatePeaks history window.period = some candidates ∧
      Collected history (history.elements - 2) candidates ∧
      candidates = merge PeakCandidate.index PeakCandidate.higher counts.minSamplesBetweenSteps
        (window.peaks history) := by
  have few := formed.few
  have looped : ∃ candidates, candidatePeaks history window.period = some candidates ∧
      Collected history (List.range' 1 (history.elements - 2)).length candidates := by
    apply Loop.foldlM_total
    next =>
      intro rounds inside candidates before
      rw [List.length_range'] at inside
      have round : (List.range' 1 (history.elements - 2))[rounds] = rounds + 1 := by
        rw [List.getElem_range']
        omega
      have inner : Inner history (rounds + 1) := ⟨Nat.succ_pos rounds, by omega⟩
      have room : rounds < stage1CandidateBufferSize := by
        simp only [stage1CandidateBufferSize]
        omega
      rw [round]
      exact collectPeak_some formed params before room inner enough
    next => exact ⟨Nat.le_refl 0, List.forall_mem_nil _⟩
  obtain ⟨candidates, collected, all⟩ := looped
  rw [List.length_range'] at all
  have inside : history.elements - 2 + 2 ≤ history.elements := by omega
  exact ⟨candidates, collected, all, candidatesAfter_merges formed inside collected⟩

theorem peaks_ascending (window : DetectionWindow F) (enough : 3 < history.elements) :
    (window.peaks history).Pairwise fun first second => first.index < second.index :=
  peaksUpTo_ascending (by omega)

theorem standing_of_candidate {window : DetectionWindow F} (enough : 3 < history.elements)
    (merged : candidates = merge PeakCandidate.index PeakCandidate.higher counts.minSamplesBetweenSteps
      (window.peaks history))
    {peak : PeakCandidate F} (member : peak ∈ candidates) : peak ∈ window.standing history := by
  rw [merged] at member
  have stands := stands_of_mem_merge (peaks_ascending window enough) member
  exact List.mem_filter.mpr ⟨mem_of_mem_merge member, decide_eq_true stands⟩

def inWindow (windowBoundary : Nat) (candidates : List (PeakCandidate F)) : List Nat :=
  (candidates.filter fun candidate => windowBoundary ≤ candidate.index).map PeakCandidate.index

omit [FloatOps F] in
theorem inWindow_concat (windowBoundary : Nat) (peak : PeakCandidate F) :
    inWindow windowBoundary (candidates ++ [peak]) =
      inWindow windowBoundary candidates ++ if windowBoundary ≤ peak.index then [peak.index] else [] := by
  unfold inWindow
  rw [List.filter_append, List.map_append]
  congr 1
  by_cases inside : windowBoundary ≤ peak.index
  next => simp [inside]
  next => simp [inside]

def Passed (gate : StepGate) (history : RingBuffer F) (detection : Detection F) (peak : PeakCandidate F) : Prop :=
  Varies history detection.peakRadius peak.index ∧
    ∃ detectedSteps, ∃ i, detection.candidates[i]? = some peak ∧
      acceptsPeak params gate detection detectedSteps i peak.prominence = true

theorem countPeaks_some (formed : history.WellFormed) (gate : StepGate) (detection : Detection F)
    (inner : ∀ candidate ∈ detection.candidates, Inner history candidate.index)
    (positive : 0 < detection.peakRadius) (enough : 3 < history.elements) :
    ∃ peaks, (List.range detection.candidates.length).foldlM (countPeak gate history detection) [] =
      some peaks ∧ peaks.Sublist (inWindow detection.windowBoundary detection.candidates) ∧
        ∀ i ∈ peaks, ∃ peak, peak.index = i ∧ detection.windowBoundary ≤ peak.index ∧
          Passed gate history detection peak := by
  have looped : ∃ peaks,
      (List.range detection.candidates.length).foldlM (countPeak gate history detection) [] = some peaks ∧
        peaks.Sublist (inWindow detection.windowBoundary
          (detection.candidates.take (List.range detection.candidates.length).length)) ∧
        ∀ i ∈ peaks, ∃ peak, peak.index = i ∧ detection.windowBoundary ≤ peak.index ∧
          Passed gate history detection peak := by
    apply @Loop.foldlM_total _ _ _ _ fun rounds (counted : List Nat) =>
      counted.Sublist (inWindow detection.windowBoundary (detection.candidates.take rounds)) ∧
        ∀ i ∈ counted, ∃ peak, peak.index = i ∧ detection.windowBoundary ≤ peak.index ∧
          Passed gate history detection peak
    next =>
      intro rounds inside counted before
      rw [List.length_range] at inside
      obtain ⟨next, filtered⟩ := filterPeak_some formed params gate detection inside inner positive enough
        counted.length
      obtain ⟨peak, present, outcome⟩ := filterPeak_cases filtered
      have longer : detection.candidates.take (rounds + 1) = detection.candidates.take rounds ++ [peak] := by
        rw [List.take_add_one, present]
        rfl
      rw [List.getElem_range, countPeak, present, Option.bind_some, filtered, Option.map_some, longer,
        inWindow_concat]
      refine ⟨_, rfl, ?_⟩
      obtain rfl | ⟨rfl, eligible, varies, accepted⟩ := outcome
      next =>
        rw [if_neg (Nat.lt_irrefl _)]
        exact ⟨before.1.trans (List.sublist_append_left _ _), before.2⟩
      next =>
        rw [if_pos (Nat.lt_succ_self _), if_pos eligible]
        refine ⟨before.1.append_right _, ?_⟩
        intro i known
        obtain earlier | single := List.mem_append.mp known
        next => exact before.2 i earlier
        next =>
          exact ⟨peak, (List.mem_singleton.mp single).symm, eligible, varies, _, rounds, present, accepted⟩
    next => exact ⟨List.nil_sublist _, List.forall_mem_nil _⟩
  rw [List.length_range, List.take_length] at looped
  exact looped

end Merge

section Window

variable {history : RingBuffer F} {window : DetectionWindow F}

theorem infers_iff (formed : history.WellFormed) {windowSamples : Nat} (nonempty : windowSamples ≠ 0) :
    Infers history windowSamples ↔ 63 ≤ history.elements := by
  obtain ⟨data, allocated, _⟩ := formed.allocated
  unfold Infers
  rw [allocated]
  have threshold : (params : TuningParams F).minSamplesBeforeStepInference = 63 := rfl
  simp only [threshold, Option.isNone_some, Bool.false_eq_true, false_or, Nat.not_lt]
  exact and_iff_right nonempty

theorem eligiblePlaces_eq {windowSamples : Nat} (infers : Infers history windowSamples)
    (few : history.elements ≤ 126) (shorter : windowSamples + 2 ≤ history.elements) :
    eligiblePlaces history windowSamples =
      List.range' (history.elements - windowSamples - 1) windowSamples := by
  have byte : windowBoundary history windowSamples = history.elements - windowSamples - 1 :=
    Nat.mod_eq_of_lt (by omega)
  -- the boundary cuts the range of the loop into the part that is skipped and the window's own
  have split : List.range' 1 (history.elements - 2) =
      List.range' 1 (history.elements - windowSamples - 2) ++
        List.range' (history.elements - windowSamples - 1) windowSamples := by
    have start : history.elements - windowSamples - 1 = 1 + (history.elements - windowSamples - 2) := by omega
    rw [start, List.range'_append_1]
    congr 1
    omega
  unfold eligiblePlaces
  rw [if_pos infers, byte, split, List.filter_append]
  have earlier : (List.range' 1 (history.elements - windowSamples - 2)).filter
      (fun i => ¬i < history.elements - windowSamples - 1) = [] := by
    rw [List.filter_eq_nil_iff]
    intro i present
    have range := List.mem_range'_1.mp present
    simp only [Nat.not_lt, decide_eq_true_eq, Nat.not_le]
    omega
  have own : (List.range' (history.elements - windowSamples - 1) windowSamples).filter
      (fun i => ¬i < history.elements - windowSamples - 1) =
        List.range' (history.elements - windowSamples - 1) windowSamples := by
    rw [List.filter_eq_self]
    intro i present
    have range := List.mem_range'_1.mp present
    simp only [Nat.not_lt, decide_eq_true_eq]
    omega
  rw [earlier, own, List.nil_append]

theorem countedPeaks_some (formed : history.WellFormed) (gate : StepGate) (allowed : window.Allowed)
    (infers : Infers history window.samples.length) :
    ∃ candidates peaks, candidatePeaks history window.period = some candidates ∧
      countedPeaks gate history window = some peaks ∧
      peaks.Sublist (inWindow (windowBoundary history window.samples.length) candidates) ∧
      Apart (inWindow (windowBoundary history window.samples.length) candidates) ∧
      (inWindow (windowBoundary history window.samples.length) candidates).Sublist
        (eligiblePlaces history window.samples.length) ∧
      ∀ i ∈ peaks, ∃ peak ∈ window.standing history, peak.index = i ∧
        windowBoundary history window.samples.length ≤ peak.index ∧ window.MayCount gate history peak := by
  have few := formed.few
  have short := allowed.short
  have long : 63 ≤ history.elements := (infers_iff formed infers.1).mp infers
  have enough : 3 < history.elements := by omega
  obtain ⟨candidates, collected, all, merged⟩ := candidatePeaks_some formed window enough
  have positive := (calculatePeakRadius_bounds allowed.least allowed.most).1
  obtain ⟨peaks, counted, among, passed⟩ :=
    countPeaks_some formed gate (window.detection history candidates) all.inner positive enough
  have bounds : history.elements < uint8Max ∧ window.samples.length < history.elements := by
    simp only [uint8Max]
    omega
  have separated : Separated PeakCandidate.index counts.minSamplesBetweenSteps candidates := by
    rw [merged]
    exact merge_separated (peaks_ascending window enough)
  have apart : Apart (inWindow (windowBoundary history window.samples.length) candidates) :=
    (List.pairwise_map.mpr separated).sublist (List.filter_sublist.map _)
  have subset : inWindow (windowBoundary history window.samples.length) candidates ⊆
      eligiblePlaces history window.samples.length := by
    intro i present
    obtain ⟨candidate, kept, rfl⟩ := List.mem_map.mp present
    obtain ⟨member, inside⟩ := List.mem_filter.mp kept
    obtain ⟨first, last⟩ := all.inner candidate member
    unfold eligiblePlaces
    rw [if_pos infers]
    apply List.mem_filter.mpr
    refine ⟨List.mem_range'_1.mpr (by omega), ?_⟩
    simpa using inside
  have ordered := apart.imp fun {first second} far => Nat.le_trans (Nat.le_add_right first _) far
  have distinct : (inWindow (windowBoundary history window.samples.length) candidates).Nodup := by
    apply apart.imp
    intro first second far same
    simp only [counts] at far
    omega
  have places : (eligiblePlaces history window.samples.length).Pairwise (· ≤ ·) := by
    unfold eligiblePlaces
    rw [if_pos infers]
    exact List.Pairwise.filter _ (List.pairwise_le_range' _)
  refine ⟨candidates, peaks, collected, ?_, among, apart, ?_, ?_⟩
  next =>
    unfold countedPeaks
    rw [if_pos infers, if_pos bounds, collected, Option.bind_some]
    exact counted
  next => exact List.sublist_of_subperm_of_pairwise (List.subperm_of_subset distinct subset) ordered places
  next =>
    intro i present
    obtain ⟨peak, place, inside, varies, detectedSteps, round, listed, accepted⟩ := passed i present
    have member : peak ∈ candidates := List.mem_of_getElem? listed
    refine ⟨peak, standing_of_candidate enough merged member, place, inside, varies, ?_⟩
    have byte : round < 256 := by
      have below := (List.getElem?_eq_some_iff.mp listed).1
      have most := all.few
      change round < candidates.length at below
      omega
    have small : window.period < uint32Max := by
      have most := allowed.most
      simp only [counts] at most
      simp only [uint32Max]
      omega
    obtain ⟨prominent, neighbor, near, rhythmic⟩ | first := acceptsPeak_cases listed byte small accepted
    next => exact .inl ⟨prominent, neighbor, standing_of_candidate enough merged near, rhythmic⟩
    next => exact .inr first

end Window

namespace Stream

variable {s : Stream F} {window : DetectionWindow F}

structure Tracked (s : Stream F) : Prop where
  formed : s.history.WellFormed
  slides : s.history.Slides s.samples
  waiting : s.samples.length < counts.minSamplesBeforeStepInference → s.eligible = []
  partition : counts.minSamplesBeforeStepInference ≤ s.samples.length →
    ∃ first, first + 1 < counts.minSamplesBeforeStepInference ∧
      s.eligible = List.range' first (s.samples.length - 1 - first)
  counted : s.counted.Sublist s.eligible

omit [FloatOps F] in
theorem insertAll {history : RingBuffer F} {samples : List F} (items : List F) (formed : history.WellFormed)
    (slides : history.Slides samples) :
    ∃ after, items.foldlM ringBufferInsert history = some after ∧ after.WellFormed ∧
      after.Slides (samples ++ items) := by
  induction items generalizing history samples with
  | nil => exact ⟨history, rfl, formed, by rwa [List.append_nil]⟩
  | cons item rest ih =>
      obtain ⟨next, inserted, kept, _⟩ := formed.insert item
      obtain ⟨same, stored, moved, _, _⟩ := slides.insert item
      obtain rfl : next = same := Option.some.inj (inserted.symm.trans stored)
      obtain ⟨after, ran, formed, slides⟩ := ih kept moved
      rw [List.append_assoc] at slides
      refine ⟨after, ?_, formed, slides⟩
      rw [List.foldlM_cons, inserted]
      exact ran

theorem start_tracked {storage : List F} (allocated : storage.length = stepLearningHistorySize) :
    (start storage).Tracked := by
  have positive : 0 < stepLearningHistorySize := by decide
  have byteSized : stepLearningHistorySize < 256 := by decide
  constructor
  case formed => exact ringBufferInit_wellFormed allocated
  case slides => exact ringBufferInit_slides sizeofFloat allocated positive byteSized
  case waiting => exact fun _ => rfl
  case partition =>
    intro long
    contradiction
  case counted => exact List.Sublist.refl _

theorem eligible_next (tracked : s.Tracked) (allowed : window.Allowed) {history : RingBuffer F}
    (formed : history.WellFormed) (slides : history.Slides (s.samples ++ window.samples))
    (infers : Infers history window.samples.length) :
    ∃ first, first + 1 < counts.minSamplesBeforeStepInference ∧
      s.eligible ++ (eligiblePlaces history window.samples.length).map
          (place history (s.samples ++ window.samples)) =
        List.range' first ((s.samples ++ window.samples).length - 1 - first) := by
  have few := formed.few
  have short := allowed.short
  have long := (infers_iff formed infers.1).mp infers
  have elements := slides.elements
  rw [formed.maxSize, List.length_append] at elements
  have own : (eligiblePlaces history window.samples.length).map
      (place history (s.samples ++ window.samples)) =
        List.range' (s.samples.length - 1) window.samples.length := by
    have shorter : window.samples.length + 2 ≤ history.elements := by omega
    rw [eligiblePlaces_eq infers few shorter]
    have shifted := @List.map_add_range' ((s.samples ++ window.samples).length - history.elements)
      (history.elements - window.samples.length - 1) window.samples.length 1
    rw [List.length_append] at shifted
    unfold place
    rw [List.length_append, shifted]
    congr 1
    omega
  have threshold : counts.minSamplesBeforeStepInference = 63 := rfl
  rw [own, List.length_append, threshold]
  by_cases early : s.samples.length < 63
  next =>
    refine ⟨s.samples.length - 1, by omega, ?_⟩
    rw [tracked.waiting early, List.nil_append]
    congr 1
    omega
  next =>
    obtain ⟨first, before, eligible⟩ := tracked.partition (Nat.le_of_not_lt early)
    rw [threshold] at before
    refine ⟨first, before, ?_⟩
    have start : s.samples.length - 1 = first + (s.samples.length - 1 - first) := by omega
    rw [eligible]
    nth_rewrite 2 [start]
    rw [List.range'_append_1]
    congr 1
    omega

theorem step_waits (tracked : s.Tracked) (nonempty : window.samples.length ≠ 0) {history : RingBuffer F}
    (inserted : window.samples.foldlM ringBufferInsert s.history = some history)
    (formed : history.WellFormed) (slides : history.Slides (s.samples ++ window.samples))
    (waits : ¬Infers history window.samples.length) :
    ∃ next, s.step window = some next ∧ next.Tracked ∧ next.samples = s.samples ++ window.samples ∧
      next.counted = s.counted := by
  have elements := slides.elements
  rw [formed.maxSize] at elements
  have short : (s.samples ++ window.samples).length < 63 := by
    have few := mt (infers_iff formed nonempty).mpr waits
    simp only [stepLearningHistorySize, samplingFreqAccelOnly] at elements
    omega
  have earlier : s.samples.length < 63 := by
    rw [List.length_append] at short
    omega
  have none_eligible : eligiblePlaces history window.samples.length = [] := if_neg waits
  have none_counted : countedPeaks s.gate history window = some [] := if_neg waits
  unfold step
  rw [if_neg nonempty, inserted, Option.bind_some]
  simp only [none_counted, none_eligible, Option.map_some, List.map_nil, List.append_nil]
  refine ⟨_, rfl, ?_, rfl, rfl⟩
  constructor
  case formed => exact formed
  case slides => exact slides
  case waiting => exact fun _ => tracked.waiting earlier
  case partition =>
    intro long
    have long : 63 ≤ (s.samples ++ window.samples).length := long
    omega
  case counted => exact tracked.counted

theorem step_infers (tracked : s.Tracked) (allowed : window.Allowed) {history : RingBuffer F}
    (inserted : window.samples.foldlM ringBufferInsert s.history = some history)
    (formed : history.WellFormed) (slides : history.Slides (s.samples ++ window.samples))
    (infers : Infers history window.samples.length) :
    ∃ next, s.step window = some next ∧ next.Tracked ∧ next.samples = s.samples ++ window.samples ∧
      (s.ClearEdge window → Apart s.counted → Apart next.counted) := by
  have next_places := eligible_next tracked allowed formed slides infers
  have long := (infers_iff formed infers.1).mp infers
  have elements := slides.elements
  obtain ⟨candidates, peaks, _, counted, among, apart, own, passed⟩ :=
    countedPeaks_some formed s.gate allowed infers
  unfold step
  rw [if_neg infers.1, inserted, Option.bind_some, counted, Option.map_some]
  refine ⟨_, rfl, ?_, rfl, ?_⟩
  next =>
    constructor
    case formed => exact formed
    case slides => exact slides
    case waiting =>
      -- a history that infers holds 63 samples, so the stream does
      intro few
      have few : (s.samples ++ window.samples).length < 63 := few
      omega
    case partition => exact fun _ => next_places
    case counted => exact tracked.counted.append ((among.trans own).map _)
  next =>
    intro clear before
    apply List.pairwise_append.mpr
    refine ⟨before, ?_, ?_⟩
    next =>
      -- within the window the merge keeps them apart, behind the earlier steps the condition does
      rw [List.pairwise_map]
      apply (apart.sublist among).imp
      intro first second far
      unfold place
      omega
    next =>
      intro step earlier later present
      obtain ⟨i, counts_now, rfl⟩ := List.mem_map.mp present
      obtain ⟨peak, stands, rfl, inside, passes⟩ := passed i counts_now
      by_contra close
      exact clear history inserted peak stands inside ⟨step, earlier, Nat.lt_of_not_le close⟩ passes

theorem step_spec (tracked : s.Tracked) (allowed : window.Allowed) :
    ∃ next, s.step window = some next ∧ next.Tracked ∧ next.samples = s.samples ++ window.samples ∧
      (s.ClearEdge window → Apart s.counted → Apart next.counted) := by
  by_cases empty : window.samples.length = 0
  next =>
    refine ⟨s, if_pos empty, tracked, ?_, fun _ apart => apart⟩
    rw [List.eq_nil_of_length_eq_zero empty, List.append_nil]
  next =>
    obtain ⟨history, inserted, formed, slides⟩ := insertAll window.samples tracked.formed tracked.slides
    by_cases infers : Infers history window.samples.length
    next => exact step_infers tracked allowed inserted formed slides infers
    next =>
      obtain ⟨next, stepped, kept, longer, same⟩ := step_waits tracked empty inserted formed slides infers
      refine ⟨next, stepped, kept, longer, ?_⟩
      intro _ apart
      rwa [same]

theorem run_spec {windows : List (DetectionWindow F)} (allowed : ∀ window ∈ windows, window.Allowed)
    (tracked : s.Tracked) :
    ∃ after, run step s windows = some after ∧ after.Tracked ∧
      after.samples = s.samples ++ windows.flatMap DetectionWindow.samples ∧
      (Guarded step ClearEdge s windows → Apart s.counted → Apart after.counted) := by
  induction windows generalizing s with
  | nil =>
      rw [List.flatMap_nil, List.append_nil]
      exact ⟨s, rfl, tracked, rfl, fun _ apart => apart⟩
  | cons window rest ih =>
      obtain ⟨next, stepped, kept, longer, apart⟩ := step_spec tracked (allowed window List.mem_cons_self)
      obtain ⟨after, ran, final, whole, later⟩ :=
        ih (fun other member => allowed other (List.mem_cons_of_mem window member)) kept
      refine ⟨after, ?_, final, ?_, ?_⟩
      next => rw [run, stepped, Option.bind_some, ran]
      next => rw [whole, longer, List.append_assoc, List.flatMap_cons]
      next =>
        intro guarded before
        simp only [Guarded, stepped] at guarded
        exact later guarded.2 (apart guarded.1 before)

/-- However the samples are divided into windows, the places of the windows make up the stream from a
first one on, the steps are counted there each once, and they stay a step apart where no peak that could
be counted stands too close behind a step of an earlier window. -/
theorem counts_no_step_twice {storage : List F} (allocated : storage.length = stepLearningHistorySize)
    {windows : List (DetectionWindow F)} (allowed : ∀ window ∈ windows, window.Allowed) :
    ∃ s, run step (start storage) windows = some s ∧
      s.samples = windows.flatMap DetectionWindow.samples ∧
      (∀ i, i < s.history.elements →
        s.history.ringBufferGetElementAtIndex i = s.samples[place s.history s.samples i]?) ∧
      (s.samples.length < counts.minSamplesBeforeStepInference → s.eligible = []) ∧
      (counts.minSamplesBeforeStepInference ≤ s.samples.length →
        ∃ first, first + 1 < counts.minSamplesBeforeStepInference ∧
          s.eligible = List.range' first (s.samples.length - 1 - first)) ∧
      s.counted.Sublist s.eligible ∧
      (Guarded step ClearEdge (start storage) windows → Apart s.counted) := by
  obtain ⟨s, ran, tracked, samples, apart⟩ := run_spec allowed (start_tracked allocated)
  refine ⟨s, ran, samples, ?_, tracked.waiting, tracked.partition, tracked.counted, ?_⟩
  next => exact fun i inside => tracked.slides.get inside
  next => exact fun guarded => apart guarded List.Pairwise.nil

def peaksApart : List (DetectionWindow ExactFloat) :=
  let quiet n := List.replicate n (ExactFloat.finite 0)
  [ ⟨quiet 40, 11, false⟩,
    ⟨quiet 22, 11, false⟩,
    ⟨(quiet 40).set 36 (.finite (3 / 10)), 11, false⟩,
    ⟨(quiet 20).set 13 (.finite (6 / 10)), 17, false⟩ ]

theorem counts_no_step_twice_apart :
    ∃ s, run step (start (List.replicate stepLearningHistorySize (.finite 0))) peaksApart = some s ∧
      s.counted = [98, 115] ∧ Apart s.counted := by
  have allowed : ∀ window ∈ peaksApart, window.Allowed := by
    intro window member
    simp only [peaksApart, List.mem_cons, List.not_mem_nil, or_false] at member
    obtain rfl | rfl | rfl | rfl := member
    all_goals constructor <;> simp [counts]
  have guarded : Guarded step ClearEdge
      (start (List.replicate stepLearningHistorySize (ExactFloat.finite 0))) peaksApart := by decide +kernel
  have counted : (run step (start (List.replicate stepLearningHistorySize (ExactFloat.finite 0)))
      peaksApart).map Stream.counted = some [98, 115] := by decide +kernel
  obtain ⟨s, ran, _, _, _, _, _, apart⟩ := counts_no_step_twice (List.length_replicate ..) allowed
  rw [ran] at counted
  exact ⟨s, ran, Option.some.inj counted, apart guarded⟩

def peakAtTheEdge : List (DetectionWindow ExactFloat) :=
  let quiet n := List.replicate n (ExactFloat.finite 0)
  [ ⟨quiet 40, 11, false⟩,
    ⟨quiet 22, 11, false⟩,
    ⟨(quiet 40).set 36 (.finite (3 / 10)), 11, false⟩,
    ⟨((quiet 20).set 2 (.finite (6 / 10))).set 17 (.finite (6 / 10)), 21, false⟩ ]

theorem counts_edge_twice :
    ¬∀ windows : List (DetectionWindow ExactFloat), (∀ window ∈ windows, window.Allowed) →
      ∀ s, run step (start (List.replicate stepLearningHistorySize (.finite 0))) windows = some s →
        Apart s.counted := by
  intro apart
  have allowed : ∀ window ∈ peakAtTheEdge, window.Allowed := by
    intro window member
    simp only [peakAtTheEdge, List.mem_cons, List.not_mem_nil, or_false] at member
    obtain rfl | rfl | rfl | rfl := member
    all_goals constructor <;> simp [counts]
  have counted : (run step (start (List.replicate stepLearningHistorySize (ExactFloat.finite 0)))
      peakAtTheEdge).map Stream.counted = some [98, 104, 119] := by decide +kernel
  obtain ⟨s, ran, steps⟩ := Option.map_eq_some_iff.mp counted
  have close := apart peakAtTheEdge allowed s ran
  rw [steps] at close
  revert close
  decide

end Stream

end WatchFirmware.MotionStage1
