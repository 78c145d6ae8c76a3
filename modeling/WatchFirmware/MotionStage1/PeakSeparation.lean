import WatchFirmware.MotionStage1.AssertionSafety
import WatchFirmware.MotionStage1.ExactFloat
import WatchFirmware.Shared.GreedyMerge

set_option autoImplicit false

namespace WatchFirmware.MotionStage1

open FloatOps RingBuffer GreedyMerge

section Scan

variable {F : Type} [FloatOps F]

def candidatesAfter (params : TuningParams F) (history : RingBuffer F) (peakRadius rounds : Nat) :
    Option (List (PeakCandidate F)) :=
  (List.range' 1 rounds).foldlM (collectPeak params history peakRadius) []

/-- A local maximum that the scan comes by, with a prominence that passes the threshold. -/
structure Peak (params : TuningParams F) (history : RingBuffer F) (peakRadius : Nat)
    (peak : PeakCandidate F) : Prop where
  inner : Inner history peak.index
  maximum : ∃ prev ∈ history.ringBufferGetElementAtIndex (peak.index - 1),
    ∃ next ∈ history.ringBufferGetElementAtIndex (peak.index + 1),
      ∃ curr ∈ history.ringBufferGetElementAtIndex peak.index, le prev curr = true ∧ le next curr = true
  prominence : calculatePeakProminence history peak.index peakRadius = some peak.prominence
  passed : lt peak.prominence params.stepMinProminenceForPeak = false

def Dropped (params : TuningParams F) (history : RingBuffer F) (peakRadius rounds : Nat)
    (peak : PeakCandidate F) : Prop :=
  ∃ round < rounds, ∃ before ∈ candidatesAfter params history peakRadius round,
    ∃ after ∈ candidatesAfter params history peakRadius (round + 1),
      (peak ∈ before ∨ peak.index = round + 1) ∧ peak ∉ after ∧
        ∃ keeper ∈ after, Near PeakCandidate.index params.minSamplesBetweenSteps peak keeper ∧
          le peak.prominence keeper.prominence = true

def PeakCandidate.higher (peak other : PeakCandidate F) : Bool := lt other.prominence peak.prominence

variable {params : TuningParams F} {history : RingBuffer F} {peakRadius rounds : Nat}
  {candidates next : List (PeakCandidate F)}

theorem candidatesAfter_succ (params : TuningParams F) (history : RingBuffer F) (peakRadius rounds : Nat) :
    candidatesAfter params history peakRadius (rounds + 1) =
      (candidatesAfter params history peakRadius rounds).bind fun candidates =>
        collectPeak params history peakRadius candidates (rounds + 1) := by
  unfold candidatesAfter
  rw [List.range'_1_concat, List.foldlM_append, Nat.add_comm 1 rounds]
  congr 1
  funext candidates
  exact bind_pure _

theorem Peak.unique {peak other : PeakCandidate F} (found : Peak params history peakRadius peak)
    (again : Peak params history peakRadius other) (place : peak.index = other.index) : peak = other := by
  have measured := found.prominence
  rw [place, again.prominence] at measured
  cases peak
  cases other
  simp_all

theorem Peak.enough {peak : PeakCandidate F} (found : Peak params history peakRadius peak) :
    3 < history.elements := by
  have measured := found.prominence
  unfold calculatePeakProminence at measured
  split at measured
  next enough => exact enough
  next => contradiction

theorem appendPeakCandidate_absorbs {i minInterval : Nat} {prominence : F} (byte : i < 256)
    (behind : ∀ candidate ∈ candidates, candidate.index ≤ i)
    (appended : appendPeakCandidate candidates i prominence minInterval = some next) :
    next = absorb PeakCandidate.index PeakCandidate.higher minInterval candidates ⟨i, prominence⟩ := by
  have added (same : absorb PeakCandidate.index PeakCandidate.higher minInterval candidates ⟨i, prominence⟩ =
      candidates ++ [⟨i, prominence⟩]) (done : addCandidate candidates ⟨i, prominence⟩ = some next) :
      next = absorb PeakCandidate.index PeakCandidate.higher minInterval candidates ⟨i, prominence⟩ := by
    unfold addCandidate at done
    split at done
    next =>
      cases done
      exact same.symm
    next => cases done
  unfold appendPeakCandidate at appended
  obtain rfl | ⟨front, prev, rfl⟩ := List.eq_nil_or_concat' candidates
  next => exact added rfl appended
  next =>
    have order := behind prev (List.mem_append_right _ List.mem_cons_self)
    -- behind candidates with lower indices the difference of the bytes does not wrap
    have interval : (i + 256 - prev.index) % 256 = i - prev.index := by omega
    rw [List.getLast?_concat] at appended
    simp only [interval] at appended
    split at appended
    next near =>
      cases appended
      have close : i < prev.index + minInterval := by omega
      unfold absorb
      rw [List.getLast?_concat]
      simp only [close, if_true]
      rfl
    next distant =>
      have far : ¬i < prev.index + minInterval := by omega
      apply added _ appended
      unfold absorb
      rw [List.getLast?_concat]
      simp only [far, if_false]

theorem collectPeak_cases {i : Nat} (formed : history.WellFormed) (inner : Inner history i)
    (collected : collectPeak params history peakRadius candidates i = some next) :
    (∃ prominence, Peak params history peakRadius ⟨i, prominence⟩ ∧
        appendPeakCandidate candidates i prominence params.minSamplesBetweenSteps = some next) ∨
      (¬∃ prominence, Peak params history peakRadius ⟨i, prominence⟩) ∧ next = candidates := by
  have few := formed.few
  have byte : i % 256 = i := by
    apply Nat.mod_eq_of_lt
    have last := inner.2
    omega
  obtain ⟨prev, readPrev, rest⟩ := Option.bind_eq_some_iff.mp collected
  obtain ⟨following, readNext, rest⟩ := Option.bind_eq_some_iff.mp rest
  obtain ⟨curr, readCurr, rest⟩ := Option.bind_eq_some_iff.mp rest
  rw [byte] at rest
  split at rest
  next high =>
    obtain ⟨prominence, measured, rest⟩ := Option.bind_eq_some_iff.mp rest
    split at rest
    next low =>
      cases rest
      refine .inr ⟨?_, rfl⟩
      rintro ⟨other, peak⟩
      have same : other = prominence := Option.some.inj (peak.prominence.symm.trans measured)
      have passed := peak.passed
      rw [same, low] at passed
      contradiction
    next enough =>
      have maximum := Bool.and_eq_true_iff.mp high
      refine .inl ⟨prominence, ?_, rest⟩
      constructor
      case inner => exact inner
      case maximum => exact ⟨prev, readPrev, following, readNext, curr, readCurr, maximum⟩
      case prominence => exact measured
      case passed => exact Bool.not_eq_true _ ▸ enough
  next low =>
    cases rest
    refine .inr ⟨?_, rfl⟩
    rintro ⟨_, peak⟩
    obtain ⟨left, readLeft, right, readRight, top, readTop, maximum⟩ := peak.maximum
    obtain rfl : prev = left := Option.some.inj (readPrev.symm.trans readLeft)
    obtain rfl : following = right := Option.some.inj (readNext.symm.trans readRight)
    obtain rfl : curr = top := Option.some.inj (readCurr.symm.trans readTop)
    exact low (Bool.and_eq_true_iff.mpr maximum)

def peakAt (params : TuningParams F) (history : RingBuffer F) (peakRadius i : Nat) :
    Option (PeakCandidate F) :=
  (history.ringBufferGetElementAtIndex (i - 1)).bind fun prev =>
    (history.ringBufferGetElementAtIndex (i + 1)).bind fun next =>
      (history.ringBufferGetElementAtIndex i).bind fun curr =>
        if le prev curr && le next curr then
          (calculatePeakProminence history i peakRadius).bind fun prominence =>
            if lt prominence params.stepMinProminenceForPeak then none else some ⟨i, prominence⟩
        else none

def peaksUpTo (params : TuningParams F) (history : RingBuffer F) (peakRadius rounds : Nat) :
    List (PeakCandidate F) :=
  (List.range' 1 rounds).filterMap (peakAt params history peakRadius)

theorem Peak.peakAt_eq {peak : PeakCandidate F} (found : Peak params history peakRadius peak) :
    peakAt params history peakRadius peak.index = some peak := by
  obtain ⟨prev, readPrev, next, readNext, curr, readCurr, maximum⟩ := found.maximum
  have high := Bool.and_eq_true_iff.mpr maximum
  unfold peakAt
  rw [Option.mem_def.mp readPrev, Option.bind_some, Option.mem_def.mp readNext, Option.bind_some,
    Option.mem_def.mp readCurr, Option.bind_some, if_pos high, found.prominence, Option.bind_some,
    found.passed]
  rfl

theorem peak_of_peakAt {i : Nat} {peak : PeakCandidate F} (inner : Inner history i)
    (found : peakAt params history peakRadius i = some peak) :
    peak.index = i ∧ Peak params history peakRadius peak := by
  obtain ⟨prev, readPrev, rest⟩ := Option.bind_eq_some_iff.mp found
  obtain ⟨next, readNext, rest⟩ := Option.bind_eq_some_iff.mp rest
  obtain ⟨curr, readCurr, rest⟩ := Option.bind_eq_some_iff.mp rest
  split at rest
  next high =>
    obtain ⟨prominence, measured, rest⟩ := Option.bind_eq_some_iff.mp rest
    split at rest
    next => contradiction
    next enough =>
      cases rest
      have maximum := Bool.and_eq_true_iff.mp high
      refine ⟨rfl, ?_⟩
      constructor
      case inner => exact inner
      case maximum => exact ⟨prev, readPrev, next, readNext, curr, readCurr, maximum⟩
      case prominence => exact measured
      case passed => exact Bool.not_eq_true _ ▸ enough
  next => contradiction

theorem mem_peaksUpTo (inside : rounds + 2 ≤ history.elements) {peak : PeakCandidate F} :
    peak ∈ peaksUpTo params history peakRadius rounds ↔
      peak.index ≤ rounds ∧ Peak params history peakRadius peak := by
  unfold peaksUpTo
  rw [List.mem_filterMap]
  constructor
  next =>
    rintro ⟨i, range, found⟩
    have bounds := List.mem_range'_1.mp range
    have inner : Inner history i := ⟨bounds.1, by omega⟩
    obtain ⟨rfl, peak⟩ := peak_of_peakAt inner found
    exact ⟨by omega, peak⟩
  next =>
    rintro ⟨upTo, found⟩
    have first := found.inner.1
    exact ⟨peak.index, List.mem_range'_1.mpr (by omega), found.peakAt_eq⟩

theorem peaksUpTo_ascending (inside : rounds + 2 ≤ history.elements) :
    (peaksUpTo params history peakRadius rounds).Pairwise fun first second => first.index < second.index := by
  unfold peaksUpTo
  apply List.pairwise_filterMap.mpr
  have ascending : (List.range' 1 rounds).Pairwise (· < ·) := List.pairwise_lt_range'
  apply ascending.imp_of_mem
  intro i j first second order peak found other another
  have bounds := List.mem_range'_1.mp first
  have further := List.mem_range'_1.mp second
  have place := (peak_of_peakAt ⟨bounds.1, by omega⟩ found).1
  have behind := (peak_of_peakAt ⟨further.1, by omega⟩ another).1
  omega

theorem peaksUpTo_succ (params : TuningParams F) (history : RingBuffer F) (peakRadius rounds : Nat) :
    peaksUpTo params history peakRadius (rounds + 1) =
      peaksUpTo params history peakRadius rounds ++ (peakAt params history peakRadius (rounds + 1)).toList := by
  unfold peaksUpTo
  rw [List.range'_1_concat, List.filterMap_append, Nat.add_comm 1 rounds]
  cases found : peakAt params history peakRadius (rounds + 1) with
  | none => simp [found]
  | some peak => simp [found]

/-- The scan merges the peaks of the signal. -/
theorem candidatesAfter_merges (formed : history.WellFormed) (inside : rounds + 2 ≤ history.elements)
    (scanned : candidatesAfter params history peakRadius rounds = some candidates) :
    candidates = merge PeakCandidate.index PeakCandidate.higher params.minSamplesBetweenSteps
      (peaksUpTo params history peakRadius rounds) := by
  induction rounds generalizing candidates with
  | zero =>
      cases scanned
      rfl
  | succ rounds ih =>
      have few := formed.few
      rw [candidatesAfter_succ] at scanned
      obtain ⟨before, earlier, collected⟩ := Option.bind_eq_some_iff.mp scanned
      have merged := ih (by omega) earlier
      have inner : Inner history (rounds + 1) := ⟨Nat.succ_pos rounds, by omega⟩
      rw [peaksUpTo_succ]
      obtain ⟨prominence, peak, appended⟩ | ⟨lower, rfl⟩ := collectPeak_cases formed inner collected
      next =>
        have behind (candidate : PeakCandidate F) (member : candidate ∈ before) :
            candidate.index ≤ rounds + 1 := by
          rw [merged] at member
          have known := (mem_peaksUpTo (by omega)).mp (mem_of_mem_merge member)
          exact Nat.le_succ_of_le known.1
        rw [appendPeakCandidate_absorbs (by omega) behind appended, peak.peakAt_eq, Option.toList_some,
          merge_concat, merged]
      next =>
        have nothing : peakAt params history peakRadius (rounds + 1) = none := by
          cases found : peakAt params history peakRadius (rounds + 1) with
          | none => rfl
          | some other =>
              obtain ⟨place, peak⟩ := peak_of_peakAt inner found
              refine (lower ⟨other.prominence, ?_⟩).elim
              rw [← place]
              exact peak
        rw [nothing, Option.toList_none, List.append_nil, merged]

end Scan

def RingBuffer.Exact (history : RingBuffer ExactFloat) : Prop :=
  ∀ i, ∀ signal ∈ history.ringBufferGetElementAtIndex i, ∃ q, signal = .finite q

section Exact

variable {params : TuningParams ExactFloat} {history : RingBuffer ExactFloat} {peakRadius rounds : Nat}
  {candidates : List (PeakCandidate ExactFloat)}

-- A side that the history does not reach is measured by -∞, and the other one decides.
theorem calculatePeakProminence_exact (formed : history.WellFormed) (exact : history.Exact) {peakIdx : Nat}
    (inner : Inner history peakIdx) (enough : 3 < history.elements) :
    ∃ q, calculatePeakProminence history peakIdx peakRadius = some (.finite q) := by
  obtain ⟨hasLeft, hasRight, leftMin, rightMin, peak, leftSide, rightSide, read, computed⟩ :=
    calculatePeakProminence_some formed inner peakRadius enough
  obtain ⟨height, rfl⟩ := exact peakIdx peak read
  have side {reaches : Bool} {least : ExactFloat} (measured : SideMin history reaches least) :
      (reaches = true ∧ ∃ q, least = .finite q) ∨ (reaches = false ∧ least = .infinite true) := by
    cases reaches with
    | false => exact .inr ⟨rfl, measured⟩
    | true =>
        obtain ⟨i, found⟩ := measured
        exact .inl ⟨rfl, exact i least found⟩
  rw [computed]
  obtain ⟨rfl, left, rfl⟩ | ⟨rfl, rfl⟩ := side leftSide
  next =>
    obtain ⟨rfl, right, rfl⟩ | ⟨rfl, rfl⟩ := side rightSide
    next =>
      simp only [Bool.not_true, Bool.and_self, Bool.false_eq_true, if_false]
      split
      next => exact ⟨height - right, by rw [ExactFloat.sub_finite]⟩
      next => exact ⟨height - left, by rw [ExactFloat.sub_finite]⟩
    next => exact ⟨height - left, congrArg some (ExactFloat.sub_finite height left)⟩
  next =>
    obtain ⟨rfl, right, rfl⟩ | ⟨rfl, rfl⟩ := side rightSide
    next => exact ⟨height - right, congrArg some (ExactFloat.sub_finite height right)⟩
    next => exact ⟨height - height, congrArg some (ExactFloat.sub_finite height height)⟩

theorem Peak.finite (formed : history.WellFormed) (exact : history.Exact) {peak : PeakCandidate ExactFloat}
    (found : Peak params history peakRadius peak) : ∃ q, peak.prominence = .finite q := by
  obtain ⟨q, computed⟩ := @calculatePeakProminence_exact _ peakRadius formed exact _ found.inner found.enough
  exact ⟨q, Option.some.inj (found.prominence.symm.trans computed)⟩

theorem Peak.le_of_not_higher (formed : history.WellFormed) (exact : history.Exact)
    {peak other : PeakCandidate ExactFloat} (found : Peak params history peakRadius peak)
    (another : Peak params history peakRadius other) (lower : peak.higher other = false) :
    le peak.prominence other.prominence = true := by
  obtain ⟨q, same⟩ := found.finite formed exact
  obtain ⟨r, equal⟩ := another.finite formed exact
  unfold PeakCandidate.higher at lower
  rw [same, equal, ExactFloat.lt_finite] at lower
  rw [same, equal, ExactFloat.le_finite]
  exact decide_eq_true (not_lt.mp (of_decide_eq_false lower))

structure Merged (params : TuningParams ExactFloat) (history : RingBuffer ExactFloat)
    (peakRadius rounds : Nat) (candidates : List (PeakCandidate ExactFloat)) : Prop where
  apart : Separated PeakCandidate.index params.minSamplesBetweenSteps candidates
  peaks : ∀ candidate ∈ candidates, candidate.index ≤ rounds ∧ Peak params history peakRadius candidate
  few : candidates.length ≤ rounds
  accounted : ∀ peak, Peak params history peakRadius peak → peak.index ≤ rounds →
    peak ∈ candidates ∨ Dropped params history peakRadius rounds peak

theorem Dropped.succ {peak : PeakCandidate ExactFloat}
    (dropped : Dropped params history peakRadius rounds peak) :
    Dropped params history peakRadius (rounds + 1) peak := by
  obtain ⟨round, earlier, rest⟩ := dropped
  exact ⟨round, Nat.lt_succ_of_lt earlier, rest⟩

theorem Merged.pass (merged : Merged params history peakRadius rounds candidates)
    (lower : ¬∃ prominence, Peak params history peakRadius ⟨rounds + 1, prominence⟩) :
    Merged params history peakRadius (rounds + 1) candidates := by
  constructor
  case apart => exact merged.apart
  case peaks =>
    intro candidate member
    have known := merged.peaks candidate member
    exact ⟨Nat.le_succ_of_le known.1, known.2⟩
  case few => exact Nat.le_succ_of_le merged.few
  case accounted =>
    intro peak found upTo
    obtain new | earlier := Nat.eq_or_lt_of_le upTo
    next =>
      refine (lower ⟨peak.prominence, ?_⟩).elim
      rw [← new]
      exact found
    next =>
      obtain kept | dropped := merged.accounted peak found (Nat.le_of_lt_succ earlier)
      next => exact .inl kept
      next => exact .inr dropped.succ

theorem Merged.append (formed : history.WellFormed) (exact : history.Exact)
    (merged : Merged params history peakRadius rounds candidates)
    (scanned : candidatesAfter params history peakRadius rounds = some candidates)
    {prominence : ExactFloat} (peak : Peak params history peakRadius ⟨rounds + 1, prominence⟩)
    {next : List (PeakCandidate ExactFloat)}
    (collected : collectPeak params history peakRadius candidates (rounds + 1) = some next)
    (absorbed : next = absorb PeakCandidate.index PeakCandidate.higher params.minSamplesBetweenSteps candidates
      ⟨rounds + 1, prominence⟩) :
    Merged params history peakRadius (rounds + 1) next := by
  have behind (candidate : PeakCandidate ExactFloat) (member : candidate ∈ candidates) :
      candidate.index ≤ rounds + 1 := Nat.le_succ_of_le (merged.peaks candidate member).1
  have peaks (candidate : PeakCandidate ExactFloat) (member : candidate ∈ next) :
      candidate.index ≤ rounds + 1 ∧ Peak params history peakRadius candidate := by
    rw [absorbed] at member
    obtain earlier | rfl := mem_of_mem_absorb member
    next => exact ⟨behind candidate earlier, (merged.peaks candidate earlier).2⟩
    next => exact ⟨Nat.le_refl _, peak⟩
  constructor
  case apart =>
    rw [absorbed]
    exact merged.apart.absorb behind
  case peaks => exact peaks
  case few =>
    rw [absorbed]
    exact Nat.le_trans length_absorb_le (Nat.succ_le_succ merged.few)
  case accounted =>
    intro other found upTo
    have known : (other ∈ candidates ∨ other = ⟨rounds + 1, prominence⟩) ∨
        Dropped params history peakRadius rounds other := by
      obtain new | earlier := Nat.eq_or_lt_of_le upTo
      next => exact .inl (.inr (found.unique peak new))
      next =>
        obtain kept | dropped := merged.accounted other found (Nat.le_of_lt_succ earlier)
        next => exact .inl (.inl kept)
        next => exact .inr dropped
    obtain present | dropped := known
    next =>
      by_cases kept : other ∈ next
      next => exact .inl kept
      next =>
        have outcome := @kept_or_near _ PeakCandidate.index PeakCandidate.higher
          params.minSamplesBetweenSteps candidates ⟨rounds + 1, prominence⟩
          (fun _ _ => ExactFloat.lt_asymmetric _ _) behind other present
        rw [← absorbed] at outcome
        obtain again | ⟨keeper, member, near, lower⟩ := outcome
        next => exact (kept again).elim
        next =>
          have after : candidatesAfter params history peakRadius (rounds + 1) = some next := by
            rw [candidatesAfter_succ, scanned]
            exact collected
          refine .inr ⟨rounds, Nat.lt_succ_self rounds, candidates, scanned, next, after, ?_, kept, keeper,
            member, near, found.le_of_not_higher formed exact (peaks keeper member).2 lower⟩
          exact present.imp id (congrArg PeakCandidate.index)
    next => exact .inr dropped.succ

theorem candidatesAfter_merged (formed : history.WellFormed) (exact : history.Exact)
    (inside : rounds + 2 ≤ history.elements)
    (scanned : candidatesAfter params history peakRadius rounds = some candidates) :
    Merged params history peakRadius rounds candidates := by
  induction rounds generalizing candidates with
  | zero =>
      cases scanned
      constructor
      case apart => exact List.Pairwise.nil
      case peaks => exact List.forall_mem_nil _
      case few => exact Nat.le_refl 0
      case accounted =>
        intro peak found upTo
        have first := found.inner.1
        omega
  | succ rounds ih =>
      have few := formed.few
      have ran := scanned
      rw [candidatesAfter_succ] at ran
      obtain ⟨before, earlier, collected⟩ := Option.bind_eq_some_iff.mp ran
      have merged := ih (by omega) earlier
      have inner : Inner history (rounds + 1) := ⟨Nat.succ_pos rounds, by omega⟩
      obtain ⟨prominence, peak, appended⟩ | ⟨lower, rfl⟩ := collectPeak_cases formed inner collected
      next =>
        have byte : rounds + 1 < 256 := by omega
        have behind (candidate : PeakCandidate ExactFloat) (member : candidate ∈ before) :
            candidate.index ≤ rounds + 1 := Nat.le_succ_of_le (merged.peaks candidate member).1
        have absorbed := appendPeakCandidate_absorbs byte behind appended
        exact merged.append formed exact earlier peak collected absorbed
      next => exact merged.pass lower

theorem candidatesAfter_some (formed : history.WellFormed) (exact : history.Exact)
    (enough : 3 < history.elements) (inside : rounds + 2 ≤ history.elements) :
    ∃ candidates, candidatesAfter params history peakRadius rounds = some candidates := by
  induction rounds with
  | zero => exact ⟨[], rfl⟩
  | succ rounds ih =>
      have few := formed.few
      obtain ⟨before, scanned⟩ := ih (by omega)
      have merged := candidatesAfter_merged formed exact (by omega) scanned
      have collected : Collected history rounds before :=
        ⟨merged.few, fun candidate member => (merged.peaks candidate member).2.inner⟩
      have inner : Inner history (rounds + 1) := ⟨Nat.succ_pos rounds, by omega⟩
      have room : rounds < stage1CandidateBufferSize := by
        simp only [stage1CandidateBufferSize]
        omega
      obtain ⟨next, ran, _⟩ := @collectPeak_some _ _ _ formed params peakRadius _ _ _ collected room inner enough
      rw [candidatesAfter_succ, scanned]
      exact ⟨next, ran⟩

/-- Wherever in the scan a peak is handed to the merge there is room for it, and the candidates that the
merge leaves ascend a step apart. They are peaks of the scan, and every other peak so far was given up in
some round for one near it that was as prominent. -/
theorem appended_candidates_separated (formed : history.WellFormed) (exact : history.Exact)
    (interval : 1 ≤ params.minSamplesBetweenSteps) (inside : rounds + 2 < history.elements) :
    (3 < history.elements → ∃ before, candidatesAfter params history peakRadius rounds = some before) ∧
      ∀ before ∈ candidatesAfter params history peakRadius rounds,
        ∀ prominence, Peak params history peakRadius ⟨rounds + 1, prominence⟩ →
          ∃ after, appendPeakCandidate before (rounds + 1) prominence params.minSamplesBetweenSteps = some after ∧
            candidatesAfter params history peakRadius (rounds + 1) = some after ∧
            (after.map PeakCandidate.index).Pairwise (· < ·) ∧
            after.IsChain (fun first second =>
              first.index + params.minSamplesBetweenSteps ≤ second.index) ∧
            (∀ candidate ∈ after,
              candidate.index ≤ rounds + 1 ∧ Peak params history peakRadius candidate) ∧
            (∀ peak, Peak params history peakRadius peak → peak.index ≤ rounds + 1 → peak ∉ after →
              Dropped params history peakRadius (rounds + 1) peak) ∧
            after.length ≤ stage1CandidateBufferSize := by
  have few := formed.few
  refine ⟨fun enough => candidatesAfter_some formed exact enough (by omega), ?_⟩
  intro before scanned prominence peak
  obtain ⟨after, collected⟩ := @candidatesAfter_some params _ peakRadius (rounds + 1) formed exact peak.enough inside
  have merged := candidatesAfter_merged formed exact inside collected
  have ran := collected
  rw [candidatesAfter_succ, scanned] at ran
  obtain ⟨other, found, appended⟩ | ⟨lower, _⟩ := collectPeak_cases formed peak.inner ran
  next =>
    have same : other = prominence := congrArg PeakCandidate.prominence (found.unique peak rfl)
    rw [same] at appended
    refine ⟨after, appended, collected, ?_, merged.apart.isChain, merged.peaks, ?_, ?_⟩
    next =>
      apply List.pairwise_map.mpr
      apply merged.apart.imp
      intro first second far
      omega
    next => exact fun other found upTo absent => (merged.accounted other found upTo).resolve_left absent
    next =>
      have count := merged.few
      simp only [stage1CandidateBufferSize]
      omega
  next => exact (lower ⟨prominence, peak⟩).elim

end Exact

deriving instance DecidableEq for PeakCandidate

def holding (signals : List ℚ) : RingBuffer ExactFloat :=
  { data := some ((signals ++ List.replicate (stepLearningHistorySize - signals.length) 0).map .finite)
    elemSize := sizeofFloat
    maxSize := stepLearningHistorySize
    elements := signals.length
    readIdx := 0
    writeIdx := signals.length % stepLearningHistorySize }

theorem holding_wellFormed {signals : List ℚ} (few : signals.length ≤ stepLearningHistorySize) :
    (holding signals).WellFormed := by
  constructor
  case allocated =>
    refine ⟨_, rfl, ?_⟩
    rw [List.length_map, List.length_append, List.length_replicate]
    exact Nat.add_sub_of_le few
  case elemSize => rfl
  case maxSize => rfl
  case elements => exact few
  case filling => exact fun room => ⟨rfl, Nat.mod_eq_of_lt room⟩
  case full =>
    intro (whole : signals.length = stepLearningHistorySize)
    change 0 = signals.length % stepLearningHistorySize
    rw [whole, Nat.mod_self]
  case writeIdx => exact Nat.mod_lt _ (Nat.succ_pos _)

theorem holding_exact (signals : List ℚ) : (holding signals).Exact := by
  intro i signal read
  unfold ringBufferGetElementAtIndex holding at read
  simp only at read
  split at read
  next =>
    obtain ⟨q, _, same⟩ := List.mem_map.mp (List.mem_of_getElem? read)
    exact ⟨q, same.symm⟩
  next => cases read

def twoPeaks : RingBuffer ExactFloat := holding [0, 1, 0, 2, 0]

def threeApart : TuningParams ExactFloat := { params with minSamplesBetweenSteps := 3 }

theorem appended_candidates_separated_replaced :
    appendPeakCandidate [⟨1, ExactFloat.finite 1⟩] 3 (.finite 2) 3 = some [⟨3, .finite 2⟩] ∧
      Dropped threeApart twoPeaks 1 3 ⟨1, .finite 1⟩ := by
  have formed : twoPeaks.WellFormed := holding_wellFormed (by decide)
  have scanned : candidatesAfter threeApart twoPeaks 1 2 = some [⟨1, .finite 1⟩] := by decide +kernel
  have first : Peak threeApart twoPeaks 1 ⟨1, .finite 1⟩ := by
    constructor
    case inner => exact ⟨by decide, by decide⟩
    case maximum => exact ⟨.finite 0, rfl, .finite 0, rfl, .finite 1, rfl, by decide +kernel⟩
    case prominence => decide +kernel
    case passed => decide +kernel
  have second : Peak threeApart twoPeaks 1 ⟨3, .finite 2⟩ := by
    constructor
    case inner => exact ⟨by decide, by decide⟩
    case maximum => exact ⟨.finite 0, rfl, .finite 0, rfl, .finite 2, rfl, by decide +kernel⟩
    case prominence => decide +kernel
    case passed => decide +kernel
  have replaced : appendPeakCandidate [⟨1, ExactFloat.finite 1⟩] 3 (.finite 2) 3 = some [⟨3, .finite 2⟩] := by
    decide +kernel
  obtain ⟨_, each⟩ :=
    @appended_candidates_separated threeApart twoPeaks 1 2 formed (holding_exact _) (by decide) (by decide)
  obtain ⟨after, appended, _, _, _, _, dropped, _⟩ := each _ scanned _ second
  obtain rfl : after = [⟨3, .finite 2⟩] := Option.some.inj (appended.symm.trans replaced)
  exact ⟨appended, dropped _ first (by decide) (by decide)⟩

end WatchFirmware.MotionStage1
