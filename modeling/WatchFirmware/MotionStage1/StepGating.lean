import Mathlib

set_option autoImplicit false

namespace WatchFirmware.MotionStage1

abbrev samplingFreqAccelOnly : Nat := 21
abbrev stepLearningHistorySize : Nat := samplingFreqAccelOnly * 6

/-- The whole numbers of `stage1_tuning_params_t`. -/
structure TuningCounts where
  maxVerticalAccelHistorySize : Nat
  minSamplesBeforeStepInference : Nat
  minSamplesBetweenSteps : Nat
  maxSamplesBetweenSteps : Nat
  minWindowNoMotionThreshold : Nat
  stepMinAcceptableConsecutiveSteps : Nat
  stepMaxSamplesBeforeStateChange : Nat

def counts : TuningCounts :=
  { maxVerticalAccelHistorySize := stepLearningHistorySize
    minSamplesBeforeStepInference := samplingFreqAccelOnly * 3
    minSamplesBetweenSteps := 11
    maxSamplesBetweenSteps := 28
    minWindowNoMotionThreshold := 15
    stepMinAcceptableConsecutiveSteps := 4
    stepMaxSamplesBeforeStateChange := 42 }

/-- The fields of the context that `stage1_derive_accepted_steps_from_window` uses. -/
structure StepGate where
  isWalking : Bool
  pendingSteps : Nat
  samplesSinceValidStep : Nat
  deriving DecidableEq, Repr

abbrev uint8Max : Nat := 255
abbrev uint16Max : Nat := 65535

structure Window where
  steps : Nat
  samples : Nat
  deriving DecidableEq, Repr

namespace StepGate

def initial : StepGate := ⟨false, 0, 0⟩

def elapsed (gate : StepGate) (samples : Nat) : Nat :=
  let sum := (gate.samplesSinceValidStep + samples) % 4294967296
  if uint16Max < sum then uint16Max else sum

def deriveAcceptedSteps (counts : TuningCounts) (gate : StepGate) (windowSteps samples : Nat) :
    StepGate × Nat :=
  if windowSteps = 0 then
    let waited := { gate with samplesSinceValidStep := gate.elapsed samples }
    if counts.stepMaxSamplesBeforeStateChange ≤ waited.samplesSinceValidStep then
      ({ waited with isWalking := false, pendingSteps := 0 }, 0)
    else (waited, 0)
  else
    let stepped := { gate with samplesSinceValidStep := 0 }
    if gate.isWalking then ({ stepped with pendingSteps := 0 }, windowSteps)
    else
      let sum := gate.pendingSteps + windowSteps
      let pending := if uint8Max < sum then uint8Max else sum
      if counts.stepMinAcceptableConsecutiveSteps ≤ pending then
        ({ stepped with isWalking := true, pendingSteps := 0 }, pending)
      else ({ stepped with pendingSteps := pending }, 0)

/-- The pending steps a call clears because it finds the wait too long. -/
def discards (counts : TuningCounts) (gate : StepGate) (window : Window) : Nat :=
  if window.steps = 0 ∧ counts.stepMaxSamplesBeforeStateChange ≤ gate.elapsed window.samples then
    gate.pendingSteps
  else 0

end StepGate

structure Ledger where
  gate : StepGate
  reported : Nat
  discarded : Nat
  deriving DecidableEq, Repr

namespace Ledger

def note (ledger : Ledger) (window : Window) : Ledger :=
  let out := ledger.gate.deriveAcceptedSteps counts window.steps window.samples
  { gate := out.1
    reported := ledger.reported + out.2
    discarded := ledger.discarded + ledger.gate.discards counts window }

def of (windows : List Window) : Ledger := windows.foldl note ⟨.initial, 0, 0⟩

theorem of_snoc (windows : List Window) (window : Window) :
    of (windows ++ [window]) = (of windows).note window := by
  rw [of, List.foldl_append]
  rfl

end Ledger

def detected (windows : List Window) : Nat := (windows.map Window.steps).sum

def steplessStretch (windows : List Window) : Nat :=
  windows.foldl (fun stretch window => if window.steps = 0 then stretch + window.samples else 0) 0

/-- Nowhere in the list does a step-less stretch reach the limit. -/
def Unbroken (windows : List Window) : Prop :=
  ∀ front, front <+: windows → steplessStretch front < counts.stepMaxSamplesBeforeStateChange

theorem detected_snoc (windows : List Window) (window : Window) :
    detected (windows ++ [window]) = detected windows + window.steps := by
  simp [detected]

theorem steplessStretch_snoc (windows : List Window) (window : Window) :
    steplessStretch (windows ++ [window]) =
      if window.steps = 0 then steplessStretch windows + window.samples else 0 := by
  simp [steplessStretch, List.foldl_append]

theorem steplessStretch_le (earlier recent : List Window) :
    steplessStretch recent ≤ steplessStretch (earlier ++ recent) := by
  induction recent using List.reverseRecOn with
  | nil => exact Nat.zero_le _
  | append_singleton front window ih =>
      rw [← List.append_assoc, steplessStretch_snoc, steplessStretch_snoc]
      split
      next => omega
      next => exact Nat.le_refl 0

theorem unbroken_nil : Unbroken [] := by
  intro front within
  rw [List.prefix_nil.mp within]
  decide

theorem Unbroken.snoc {windows : List Window} {window : Window} (unbroken : Unbroken windows)
    (short : steplessStretch (windows ++ [window]) < counts.stepMaxSamplesBeforeStateChange) :
    Unbroken (windows ++ [window]) := by
  intro front within
  obtain whole | inside := List.prefix_concat_iff.mp within
  next =>
    rw [whole]
    exact short
  next => exact unbroken front inside

inductive Noted (ledger : Ledger) (window : Window) : Ledger → Prop where
  | waits (stepless : window.steps = 0)
      (short : ledger.gate.elapsed window.samples < counts.stepMaxSamplesBeforeStateChange) :
      Noted ledger window
        { ledger with
          gate := { ledger.gate with samplesSinceValidStep := ledger.gate.elapsed window.samples } }
  | timesOut (stepless : window.steps = 0)
      (long : counts.stepMaxSamplesBeforeStateChange ≤ ledger.gate.elapsed window.samples) :
      Noted ledger window
        { gate := ⟨false, 0, ledger.gate.elapsed window.samples⟩
          reported := ledger.reported
          discarded := ledger.discarded + ledger.gate.pendingSteps }
  | walks (stepped : window.steps ≠ 0) (walking : ledger.gate.isWalking = true) :
      Noted ledger window
        { ledger with gate := ⟨true, 0, 0⟩, reported := ledger.reported + window.steps }
  | starts (stepped : window.steps ≠ 0) (standing : ledger.gate.isWalking = false)
      (enough : counts.stepMinAcceptableConsecutiveSteps ≤ ledger.gate.pendingSteps + window.steps) :
      Noted ledger window
        { ledger with
          gate := ⟨true, 0, 0⟩
          reported := ledger.reported + (ledger.gate.pendingSteps + window.steps) }
  | collects (stepped : window.steps ≠ 0) (standing : ledger.gate.isWalking = false)
      (few : ledger.gate.pendingSteps + window.steps < counts.stepMinAcceptableConsecutiveSteps) :
      Noted ledger window
        { ledger with gate := ⟨false, ledger.gate.pendingSteps + window.steps, 0⟩ }

theorem note_cases {ledger : Ledger} {window : Window}
    (room : ledger.gate.pendingSteps + window.steps ≤ uint8Max) :
    Noted ledger window (ledger.note window) := by
  by_cases stepless : window.steps = 0
  next =>
    by_cases long : counts.stepMaxSamplesBeforeStateChange ≤ ledger.gate.elapsed window.samples
    next =>
      have same : ledger.note window =
          { gate := ⟨false, 0, ledger.gate.elapsed window.samples⟩
            reported := ledger.reported
            discarded := ledger.discarded + ledger.gate.pendingSteps } := by
        simp [Ledger.note, StepGate.deriveAcceptedSteps, StepGate.discards, stepless, long]
      rw [same]
      exact .timesOut stepless long
    next =>
      have same : ledger.note window =
          { ledger with
            gate := { ledger.gate with samplesSinceValidStep := ledger.gate.elapsed window.samples } } := by
        simp [Ledger.note, StepGate.deriveAcceptedSteps, StepGate.discards, stepless, long]
      rw [same]
      exact .waits stepless (Nat.lt_of_not_le long)
  next =>
    cases walking : ledger.gate.isWalking with
    | true =>
        have same : ledger.note window =
            { ledger with gate := ⟨true, 0, 0⟩, reported := ledger.reported + window.steps } := by
          simp [Ledger.note, StepGate.deriveAcceptedSteps, StepGate.discards, stepless, walking]
        rw [same]
        exact .walks stepless walking
    | false =>
        have fits : ¬uint8Max < ledger.gate.pendingSteps + window.steps := Nat.not_lt_of_le room
        by_cases enough : counts.stepMinAcceptableConsecutiveSteps ≤
            ledger.gate.pendingSteps + window.steps
        next =>
          have same : ledger.note window =
              { ledger with
                gate := ⟨true, 0, 0⟩
                reported := ledger.reported + (ledger.gate.pendingSteps + window.steps) } := by
            simp [Ledger.note, StepGate.deriveAcceptedSteps, StepGate.discards, stepless, walking,
              fits, enough]
          rw [same]
          exact .starts stepless walking enough
        next =>
          have same : ledger.note window =
              { ledger with gate := ⟨false, ledger.gate.pendingSteps + window.steps, 0⟩ } := by
            simp [Ledger.note, StepGate.deriveAcceptedSteps, StepGate.discards, stepless, walking,
              fits, enough]
          rw [same]
          exact .collects stepless walking (Nat.lt_of_not_le enough)

def Window.Bounded (window : Window) : Prop := window.steps ≤ 126 ∧ window.samples ≤ 133

structure Ledger.Correct (ledger : Ledger) (windows : List Window) : Prop where
  balance : ledger.reported + ledger.discarded + ledger.gate.pendingSteps = detected windows
  walking : ledger.gate.isWalking = true → ledger.gate.pendingSteps = 0
  standing : ledger.gate.isWalking = false →
    ledger.gate.pendingSteps < counts.stepMinAcceptableConsecutiveSteps
  elapsed : ledger.gate.samplesSinceValidStep = min uint16Max (steplessStretch windows)
  -- The pending steps were all detected since the last timeout.
  pending : ledger.gate.isWalking = false → ∃ earlier recent, windows = earlier ++ recent ∧
    detected recent = ledger.gate.pendingSteps ∧ Unbroken recent

theorem Ledger.Correct.elapsed_next {ledger : Ledger} {windows : List Window} {window : Window}
    (bounded : window.Bounded) (stepless : window.steps = 0) (correct : ledger.Correct windows) :
    ledger.gate.elapsed window.samples = min uint16Max (steplessStretch (windows ++ [window])) := by
  have few := bounded.2
  have saturated := correct.elapsed
  rw [steplessStretch_snoc, if_pos stepless, StepGate.elapsed]
  simp only [uint16Max] at *
  split <;> omega

theorem Ledger.Correct.small {ledger : Ledger} {windows : List Window} {window : Window}
    (bounded : window.Bounded) (correct : ledger.Correct windows) :
    ledger.gate.pendingSteps + window.steps ≤ uint8Max := by
  have steps := bounded.1
  cases state : ledger.gate.isWalking with
  | true =>
      rw [correct.walking state]
      simp only [uint8Max]
      omega
  | false =>
      have few := correct.standing state
      simp only [counts, uint8Max] at *
      omega

theorem Ledger.Correct.note {ledger : Ledger} {windows : List Window} {window : Window}
    (bounded : window.Bounded) (correct : ledger.Correct windows) :
    (ledger.note window).Correct (windows ++ [window]) := by
  have total := detected_snoc windows window
  have balance := correct.balance
  have stretch := steplessStretch_snoc windows window
  generalize same : ledger.note window = after
  have noted := note_cases (correct.small bounded)
  rw [same] at noted
  cases noted with
  | waits stepless short =>
      have elapsed := correct.elapsed_next bounded stepless
      constructor
      case balance =>
        simp only
        omega
      case walking => exact correct.walking
      case standing => exact correct.standing
      case elapsed => exact elapsed
      case pending =>
        intro standing
        obtain ⟨earlier, recent, rfl, sum, unbroken⟩ := correct.pending standing
        refine ⟨earlier, recent ++ [window], List.append_assoc .., ?_, ?_⟩
        next => rw [detected_snoc, sum, stepless, Nat.add_zero]
        next =>
          apply unbroken.snoc
          have longer := steplessStretch_le earlier (recent ++ [window])
          rw [← List.append_assoc] at longer
          rw [elapsed] at short
          simp only [uint16Max, counts] at *
          omega
  | timesOut stepless long =>
      have elapsed := correct.elapsed_next bounded stepless
      constructor
      case balance =>
        simp only
        omega
      case walking => exact fun _ => rfl
      case standing => exact fun _ => Nat.succ_pos 3
      case elapsed => exact elapsed
      case pending =>
        intro _
        exact ⟨windows ++ [window], [], (List.append_nil _).symm, rfl, unbroken_nil⟩
  | walks stepped walking =>
      have none_pending := correct.walking walking
      rw [if_neg stepped] at stretch
      constructor
      case balance =>
        simp only
        omega
      case walking => exact fun _ => rfl
      case standing => exact fun standing => Bool.noConfusion standing
      case elapsed =>
        rw [stretch]
        rfl
      case pending => exact fun standing => Bool.noConfusion standing
  | starts stepped standing enough =>
      rw [if_neg stepped] at stretch
      constructor
      case balance =>
        simp only
        omega
      case walking => exact fun _ => rfl
      case standing => exact fun standing => Bool.noConfusion standing
      case elapsed =>
        rw [stretch]
        rfl
      case pending => exact fun standing => Bool.noConfusion standing
  | collects stepped standing few =>
      rw [if_neg stepped] at stretch
      constructor
      case balance =>
        simp only
        omega
      case walking => exact fun walking => Bool.noConfusion walking
      case standing => exact fun _ => few
      case elapsed =>
        rw [stretch]
        rfl
      case pending =>
        intro _
        obtain ⟨earlier, recent, rfl, sum, unbroken⟩ := correct.pending standing
        refine ⟨earlier, recent ++ [window], List.append_assoc .., ?_, ?_⟩
        next => rw [detected_snoc, sum]
        next =>
          apply unbroken.snoc
          rw [steplessStretch_snoc, if_neg stepped]
          decide

theorem ledger_correct (windows : List Window) (bounded : ∀ window ∈ windows, window.Bounded) :
    (Ledger.of windows).Correct windows := by
  induction windows using List.reverseRecOn with
  | nil =>
      constructor
      case balance => rfl
      case walking => exact fun _ => rfl
      case standing => exact fun _ => by decide
      case elapsed => rfl
      case pending => exact fun _ => ⟨[], [], rfl, rfl, unbroken_nil⟩
  | append_singleton front window ih =>
      rw [Ledger.of_snoc]
      have before := ih fun other present => bounded other (List.mem_append_left _ present)
      exact before.note (bounded window (by simp))

/-- Walking starts on a call that completes enough steps without a long stretch between them. -/
theorem Ledger.Correct.entered {ledger : Ledger} {windows : List Window} {window : Window}
    (bounded : window.Bounded) (correct : ledger.Correct windows)
    (standing : ledger.gate.isWalking = false) (walking : (ledger.note window).gate.isWalking = true) :
    ∃ earlier recent, windows ++ [window] = earlier ++ recent ∧
      counts.stepMinAcceptableConsecutiveSteps ≤ detected recent ∧ Unbroken recent := by
  generalize same : ledger.note window = after at walking
  have noted := note_cases (correct.small bounded)
  rw [same] at noted
  cases noted with
  | waits stepless short =>
      rw [standing] at walking
      contradiction
  | timesOut stepless long => contradiction
  | walks stepped was =>
      rw [was] at standing
      contradiction
  | starts stepped _ enough =>
      obtain ⟨earlier, recent, rfl, sum, unbroken⟩ := correct.pending standing
      refine ⟨earlier, recent ++ [window], List.append_assoc .., ?_, ?_⟩
      next =>
        rw [detected_snoc, sum]
        exact enough
      next =>
        apply unbroken.snoc
        rw [steplessStretch_snoc, if_neg stepped]
        decide
  | collects stepped _ few => contradiction

theorem Ledger.Correct.left {ledger : Ledger} {windows : List Window} {window : Window}
    (bounded : window.Bounded) (correct : ledger.Correct windows)
    (walking : ledger.gate.isWalking = true) :
    (ledger.note window).gate.isWalking = false ↔
      counts.stepMaxSamplesBeforeStateChange ≤ steplessStretch (windows ++ [window]) := by
  generalize same : ledger.note window = after
  have noted := note_cases (correct.small bounded)
  rw [same] at noted
  have stretch := steplessStretch_snoc windows window
  cases noted with
  | waits stepless short =>
      have elapsed := correct.elapsed_next bounded stepless
      rw [elapsed] at short
      constructor
      next =>
        intro standing
        rw [walking] at standing
        contradiction
      next =>
        intro long
        simp only [uint16Max, counts] at *
        omega
  | timesOut stepless long =>
      have elapsed := correct.elapsed_next bounded stepless
      rw [elapsed] at long
      exact iff_of_true rfl (le_trans long (Nat.min_le_right ..))
  | walks stepped _ =>
      rw [stretch, if_neg stepped]
      exact iff_of_false Bool.noConfusion (by decide)
  | starts stepped standing _ =>
      rw [walking] at standing
      contradiction
  | collects stepped standing _ =>
      rw [walking] at standing
      contradiction

/-- The reported steps are the detected ones without those discarded at a timeout and those still
pending, and the state of the gate between any two calls is what the windows so far call for. -/
theorem step_gating_conserves (windows : List Window) (bounded : ∀ window ∈ windows, window.Bounded) :
    (Ledger.of windows).reported =
        detected windows - (Ledger.of windows).discarded - (Ledger.of windows).gate.pendingSteps ∧
      (Ledger.of windows).reported ≤ detected windows ∧
      (Ledger.of windows).gate.samplesSinceValidStep = min uint16Max (steplessStretch windows) ∧
      ((Ledger.of windows).gate.isWalking = true → (Ledger.of windows).gate.pendingSteps = 0) ∧
      ((Ledger.of windows).gate.isWalking = false → (Ledger.of windows).gate.pendingSteps < 4) ∧
      ∀ before window after, windows = before ++ window :: after →
        ((Ledger.of before).gate.isWalking = false →
          (Ledger.of (before ++ [window])).gate.isWalking = true →
          ∃ earlier recent, before ++ [window] = earlier ++ recent ∧ 4 ≤ detected recent ∧
            Unbroken recent) ∧
        ((Ledger.of before).gate.isWalking = true →
          ((Ledger.of (before ++ [window])).gate.isWalking = false ↔
            42 ≤ steplessStretch (before ++ [window]))) := by
  have correct := ledger_correct windows bounded
  have balance := correct.balance
  refine ⟨by omega, by omega, correct.elapsed, correct.walking, correct.standing, ?_⟩
  intro before window after split
  have within (other : Window) (present : other ∈ before ++ [window]) : other.Bounded := by
    apply bounded
    rw [split, List.append_cons]
    exact List.mem_append_left after present
  have earlier := ledger_correct before fun other present =>
    within other (List.mem_append_left _ present)
  have last := within window (List.mem_append_right _ List.mem_cons_self)
  rw [Ledger.of_snoc]
  exact ⟨earlier.entered last, earlier.left last⟩

theorem step_gating_conserves_walk :
    (Ledger.of [⟨3, 20⟩, ⟨0, 21⟩, ⟨2, 20⟩, ⟨4, 21⟩, ⟨0, 41⟩, ⟨0, 1⟩, ⟨2, 21⟩]).reported = 9 ∧
      (Ledger.of [⟨3, 20⟩, ⟨0, 21⟩, ⟨2, 20⟩, ⟨4, 21⟩, ⟨0, 41⟩, ⟨0, 1⟩, ⟨2, 21⟩]).reported ≤
        detected [⟨3, 20⟩, ⟨0, 21⟩, ⟨2, 20⟩, ⟨4, 21⟩, ⟨0, 41⟩, ⟨0, 1⟩, ⟨2, 21⟩] := by
  have bounded : ∀ window ∈ [(⟨3, 20⟩ : Window), ⟨0, 21⟩, ⟨2, 20⟩, ⟨4, 21⟩, ⟨0, 41⟩, ⟨0, 1⟩, ⟨2, 21⟩],
      window.Bounded := by
    unfold Window.Bounded
    decide
  exact ⟨by decide, (step_gating_conserves _ bounded).2.1⟩

end WatchFirmware.MotionStage1
