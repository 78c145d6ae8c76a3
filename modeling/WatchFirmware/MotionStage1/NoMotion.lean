import WatchFirmware.MotionStage1.ExactFloat
import WatchFirmware.MotionStage1.Stage1

set_option autoImplicit false

namespace WatchFirmware.MotionStage1

open FloatOps

section Float

variable {F : Type} [FloatOps F]

def windowConfidence (params : TuningParams F) (accelUnstability jerkAverage : F) : F :=
  let fourth (x : F) : F := Vec3.squaref (Vec3.squaref x)
  let accelConfidence :=
    if lt accelUnstability params.maxAccelUnstableThresholdDensity then
      div (ofRat 1) (add (ofRat 1) accelUnstability)
    else
      div (ofRat (4 / 10))
        (fourth (sub (add (ofRat 1) accelUnstability) params.maxAccelUnstableThresholdDensity))
  let jerkConfidence :=
    if lt jerkAverage params.maxJerkThresholdPerSample then ofRat 1
    else
      div (ofRat (4 / 10))
        (fourth (sub (add (ofRat 1) jerkAverage) params.maxJerkThresholdPerSample))
  add (mul (ofRat (4 / 10)) accelConfidence) (mul (ofRat (6 / 10)) jerkConfidence)

/-- What `stage1_detect_no_motion` makes of the confidence. -/
def judgeWindow (params : TuningParams F) (noMotionWindowCount : Nat) (confidence : F) : Bool × Nat :=
  let early := decide (noMotionWindowCount < params.minWindowNoMotionThreshold)
  let counted := if early then (noMotionWindowCount + 1) % 256 else noMotionWindowCount
  let multiplier : F := if early then ofRat 0 else ofRat 1
  let kept := if lt confidence (ofRat (8 / 10)) then 0 else counted
  let scaled := mul confidence multiplier
  if le (ofRat (8 / 10)) scaled && le scaled (ofRat (9 / 10)) then (false, (kept + 255) % 256)
  else (lt (ofRat (9 / 10)) scaled, kept)

theorem detectNoMotion_eq (params : TuningParams F) (noMotionWindowCount : Nat)
    (accelUnstability jerkAverage : F) :
    detectNoMotion params noMotionWindowCount accelUnstability jerkAverage =
      judgeWindow params noMotionWindowCount (windowConfidence params accelUnstability jerkAverage) :=
  rfl

end Float

inductive Judged (count : Nat) (confidence : ℚ) : Bool × Nat → Prop where
  | moves (low : confidence < 4 / 5) : Judged count confidence (false, 0)
  | counts (steady : 4 / 5 ≤ confidence) (early : count < 15) : Judged count confidence (false, count + 1)
  -- the decrement finds the count at the threshold, so it cannot wrap
  | discards (steady : 4 / 5 ≤ confidence) (doubtful : confidence ≤ 9 / 10) (full : count = 15) :
      Judged count confidence (false, count - 1)
  | rests (still : 9 / 10 < confidence) (full : count = 15) : Judged count confidence (true, count)

theorem judgeWindow_cases {count : Nat} (confidence : ℚ) (few : count ≤ 15) :
    Judged count confidence (judgeWindow params count (ExactFloat.finite confidence)) := by
  have low : (8 / 10 : ℚ) = 4 / 5 := by norm_num
  by_cases moving : confidence < 4 / 5
  next =>
    have judged : judgeWindow params count (ExactFloat.finite confidence) = (false, 0) := by
      have doubtful : ¬4 / 5 ≤ confidence := not_le_of_gt moving
      have moderate : ¬9 / 10 < confidence := by linarith
      by_cases early : count < 15
      next => simp [judgeWindow, params, counts, low, moving, early]; norm_num
      next => simp [judgeWindow, params, counts, low, moving, early, doubtful, moderate]
    rw [judged]
    exact .moves moving
  next =>
    have steady : 4 / 5 ≤ confidence := le_of_not_gt moving
    by_cases early : count < 15
    next =>
      have judged : judgeWindow params count (ExactFloat.finite confidence) = (false, count + 1) := by
        have small : (count + 1) % 256 = count + 1 := Nat.mod_eq_of_lt (by omega)
        simp [judgeWindow, params, counts, low, moving, early, small]; norm_num
      rw [judged]
      exact .counts steady early
    next =>
      have full : count = 15 := by omega
      by_cases doubtful : confidence ≤ 9 / 10
      next =>
        have judged : judgeWindow params count (ExactFloat.finite confidence) = (false, count - 1) := by
          simp [judgeWindow, params, counts, low, moving, full, steady, doubtful]
        rw [judged]
        exact .discards steady doubtful full
      next =>
        have still : 9 / 10 < confidence := lt_of_not_ge doubtful
        have judged : judgeWindow params count (ExactFloat.finite confidence) = (true, count) := by
          simp [judgeWindow, params, counts, low, moving, full, doubtful, still]
        rw [judged]
        exact .rests still full

def windowCount (confidences : List ℚ) : Nat :=
  confidences.foldl (fun count confidence => (judgeWindow params count (ExactFloat.finite confidence)).2) 0

def noMotion (before : List ℚ) (confidence : ℚ) : Bool :=
  (judgeWindow params (windowCount before) (ExactFloat.finite confidence)).1

theorem windowCount_snoc (confidences : List ℚ) (confidence : ℚ) :
    windowCount (confidences ++ [confidence]) =
      (judgeWindow params (windowCount confidences) (ExactFloat.finite confidence)).2 := by
  rw [windowCount, List.foldl_append]
  rfl

structure Steady (confidences : List ℚ) (count : Nat) : Prop where
  few : count ≤ 15
  recent : ∃ earlier recent, confidences = earlier ++ recent ∧ count ≤ recent.length ∧
    ∀ confidence ∈ recent, 4 / 5 ≤ confidence

theorem Steady.longer {confidences : List ℚ} {count next : Nat} {confidence : ℚ}
    (steady : Steady confidences count) (few : next ≤ 15) (grown : next ≤ count + 1)
    (high : 4 / 5 ≤ confidence) : Steady (confidences ++ [confidence]) next := by
  obtain ⟨earlier, recent, rfl, length, all⟩ := steady.recent
  refine ⟨few, earlier, recent ++ [confidence], List.append_assoc .., ?_, ?_⟩
  next =>
    rw [List.length_append, List.length_singleton]
    omega
  next =>
    intro other present
    obtain old | new := List.mem_append.mp present
    next => exact all other old
    next =>
      rw [List.mem_singleton.mp new]
      exact high

theorem Steady.judge {confidences : List ℚ} {count : Nat} (steady : Steady confidences count)
    (confidence : ℚ) :
    Steady (confidences ++ [confidence]) (judgeWindow params count (ExactFloat.finite confidence)).2 := by
  have few := steady.few
  have judged := judgeWindow_cases confidence few
  generalize judgeWindow params count (ExactFloat.finite confidence) = out at judged
  cases judged with
  | moves low => exact ⟨Nat.zero_le _, confidences ++ [confidence], [], by simp, Nat.le_refl 0, by simp⟩
  | counts high early => exact steady.longer early (Nat.le_refl _) high
  | discards high doubtful full => exact steady.longer (by simp only; omega) (by simp only; omega) high
  | rests still full => exact steady.longer few (Nat.le_succ _) (by linarith)

theorem windowCount_steady (confidences : List ℚ) : Steady confidences (windowCount confidences) := by
  induction confidences using List.reverseRecOn with
  | nil => exact ⟨Nat.zero_le _, [], [], rfl, Nat.le_refl 0, by simp⟩
  | append_singleton front confidence ih =>
      rw [windowCount_snoc]
      exact ih.judge confidence

theorem windowCount_still (before still : List ℚ) (all : ∀ confidence ∈ still, 9 / 10 < confidence) :
    min 15 still.length ≤ windowCount (before ++ still) := by
  induction still using List.reverseRecOn with
  | nil => simp
  | append_singleton front confidence ih =>
      have earlier := ih fun other present => all other (List.mem_append_left _ present)
      have high := all confidence (by simp)
      have few := (windowCount_steady (before ++ front)).few
      have judged := judgeWindow_cases confidence few
      rw [← List.append_assoc, windowCount_snoc, List.length_append, List.length_singleton]
      generalize judgeWindow params (windowCount (before ++ front)) (ExactFloat.finite confidence) = out at judged
      cases judged with
      | moves low => linarith
      | counts steady early =>
          simp only
          omega
      | discards steady doubtful full => linarith
      | rests still full =>
          simp only
          omega

theorem noMotion_full {before : List ℚ} {confidence : ℚ} (detected : noMotion before confidence = true) :
    windowCount before = 15 ∧ 9 / 10 < confidence := by
  have judged := judgeWindow_cases confidence (windowCount_steady before).few
  unfold noMotion at detected
  generalize judgeWindow params (windowCount before) (ExactFloat.finite confidence) = out at judged detected
  cases judged with
  | rests still full => exact ⟨full, still⟩
  | moves | counts | discards => contradiction

/-- The count stays within its threshold, no motion is reported only after fifteen steady windows in
a row, and from the sixteenth still window in a row on it is reported. -/
theorem no_motion_counts_windows (confidences : List ℚ) :
    windowCount confidences ≤ 15 ∧
      (∀ before confidence after, confidences = before ++ confidence :: after →
        noMotion before confidence = true →
        9 / 10 < confidence ∧ ∃ earlier recent, before = earlier ++ recent ∧ recent.length = 15 ∧
          ∀ other ∈ recent, 4 / 5 ≤ other) ∧
      ∀ before still, confidences = before ++ still → (∀ confidence ∈ still, 9 / 10 < confidence) →
        ∀ front confidence back, still = front ++ confidence :: back → 15 ≤ front.length →
          noMotion (before ++ front) confidence = true := by
  refine ⟨(windowCount_steady confidences).few, ?_, ?_⟩
  next =>
    intro before confidence after _ detected
    obtain ⟨full, high⟩ := noMotion_full detected
    obtain ⟨earlier, recent, rfl, length, all⟩ := (windowCount_steady before).recent
    refine ⟨high, earlier ++ recent.take (recent.length - 15), recent.drop (recent.length - 15), ?_, ?_, ?_⟩
    next => rw [List.append_assoc, List.take_append_drop]
    next =>
      rw [List.length_drop]
      omega
    next => exact fun other present => all other (List.mem_of_mem_drop present)
  next =>
    intro before still _ high front confidence back split long
    subst split
    have enough := windowCount_still before front fun other present =>
      high other (List.mem_append_left _ present)
    have few := (windowCount_steady (before ++ front)).few
    have now := high confidence (List.mem_append_right _ List.mem_cons_self)
    have judged := judgeWindow_cases confidence few
    unfold noMotion
    generalize judgeWindow params (windowCount (before ++ front)) (ExactFloat.finite confidence) = out at judged
    cases judged with
    | rests => rfl
    | moves low => linarith
    | counts steady early => omega
    | discards steady doubtful full => linarith

end WatchFirmware.MotionStage1
