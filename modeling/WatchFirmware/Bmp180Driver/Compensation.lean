import WatchFirmware.Bmp180Driver.Bmp180Driver

set_option autoImplicit false

namespace WatchFirmware.Bmp180Driver

open Ble (Byte)
open CheckedInt (Fits checked checked_bind checked_bind_overflow mul_within root_within)

section Temperature

variable (regs : CalibrationRegs) (ut : Nat)

def tempProduct : Int := (ut - regs.ac6.toNat) * regs.ac5.toNat
def tempDivisor : Int := tempProduct regs ut / 2 ^ 15 + regs.md.toInt

def exactB5 : Int := tempProduct regs ut / 2 ^ 15 + (regs.mc.toInt * 2 ^ 11).tdiv (tempDivisor regs ut)

def TempDefined : Prop := Fits 32 (tempProduct regs ut) ∧ tempDivisor regs ut ≠ 0

instance : Decidable (TempDefined regs ut) := inferInstanceAs (Decidable (_ ∧ _))

variable {regs ut}

theorem tempQuotient_within :
    -67108864 ≤ (regs.mc.toInt * 2 ^ 11).tdiv (tempDivisor regs ut) ∧
      (regs.mc.toInt * 2 ^ 11).tdiv (tempDivisor regs ut) ≤ 67108864 := by
  have less := Int.natAbs_tdiv_le_natAbs (regs.mc.toInt * 2 ^ 11) (tempDivisor regs ut)
  have low := regs.mc.le_toInt
  have high := regs.mc.toInt_lt
  omega

theorem exactB5_within (product : Fits 32 (tempProduct regs ut)) :
    -67174400 ≤ exactB5 regs ut ∧ exactB5 regs ut ≤ 67174400 := by
  have quotient := @tempQuotient_within regs ut
  obtain ⟨least, greatest⟩ := product
  unfold exactB5
  omega

theorem compensateTemp_eq (small : ut < 2 ^ 16) :
    compensateTemp regs ut = if TempDefined regs ut then some (exactB5 regs ut) else none := by
  have ac6 := regs.ac6.toNat_lt
  have difference : Fits 32 ((ut : Int) - regs.ac6.toNat) := by
    constructor
    all_goals omega
  rw [compensateTemp, checked_bind _ difference,
    show (ut - regs.ac6.toNat : Int) * regs.ac5.toNat = tempProduct regs ut from rfl]
  by_cases product : Fits 32 (tempProduct regs ut)
  next =>
    have quotient := @tempQuotient_within regs ut
    have whole := exactB5_within product
    have mcLow := regs.mc.le_toInt
    have mcHigh := regs.mc.toInt_lt
    have mdLow := regs.md.le_toInt
    have mdHigh := regs.md.toInt_lt
    obtain ⟨least, greatest⟩ := id product
    have dividend : Fits 32 (regs.mc.toInt * 2 ^ 11) := by
      constructor
      all_goals omega
    have divisor : Fits 32 (tempDivisor regs ut) := by
      unfold tempDivisor
      constructor
      all_goals omega
    rw [checked_bind _ product, checked_bind _ dividend,
      show tempProduct regs ut / 2 ^ 15 + regs.md.toInt = tempDivisor regs ut from rfl, checked_bind _ divisor]
    by_cases zero : tempDivisor regs ut = 0
    next =>
      rw [if_pos zero, if_neg fun defined => defined.2 zero]
    next =>
      have divided : Fits 32 ((regs.mc.toInt * 2 ^ 11).tdiv (tempDivisor regs ut)) := by
        constructor
        all_goals omega
      have sum : Fits 32 (exactB5 regs ut) := by
        constructor
        all_goals omega
      rw [if_neg zero, if_pos ⟨product, zero⟩, checked_bind _ divided]
      exact CheckedInt.checked_fits sum
  next =>
    rw [checked_bind_overflow _ product, if_neg fun defined => product defined.1]

theorem tempScaled10_defined {b5 : Int} (within : -67174400 ≤ b5 ∧ b5 ≤ 67174400) :
    tempScaled10 b5 = some ((b5 + 8) / 2 ^ 4) := by
  have rounded : Fits 32 (b5 + 8) := by
    constructor
    all_goals omega
  rw [tempScaled10, checked_bind _ rounded]
  rfl

end Temperature

section Pressure

variable (regs : CalibrationRegs) (oss : Nat) (b6 : Int)

def exactB3 : Int :=
  ((regs.ac1.toInt * 4 + (regs.b2.toInt * (b6 * b6 / 2 ^ 12) / 2 ^ 11 + regs.ac2.toInt * b6 / 2 ^ 11)) * 2 ^ oss + 2) /
    2 ^ 2

def exactB4 : Nat :=
  regs.ac4.toNat * toUInt32 ((regs.ac3.toInt * b6 / 2 ^ 13 + regs.b1.toInt * (b6 * b6 / 2 ^ 12) / 2 ^ 16 + 2) / 2 ^ 2 +
    32768) % 2 ^ 32 / 2 ^ 15

def CoefficientsDefined : Prop :=
  (-46340 ≤ b6 ∧ b6 ≤ 46340) ∧ Fits 32 (regs.b2.toInt * (b6 * b6 / 2 ^ 12)) ∧
    Fits 32 (regs.b1.toInt * (b6 * b6 / 2 ^ 12))

instance : Decidable (CoefficientsDefined regs b6) := inferInstanceAs (Decidable (_ ∧ _))

variable {regs oss b6}

theorem square_fits_iff (root : Int) : Fits 32 (root * root) ↔ -46340 ≤ root ∧ root ≤ 46340 := by
  constructor
  next =>
    intro fits
    have greatest := fits.2
    exact @root_within root 46340 (by omega)
  next =>
    intro within
    obtain ⟨lower, upper⟩ := @mul_within root root 46340 46340 within within
    constructor
    all_goals omega

theorem ossScale_within (small : oss < 4) : -8 ≤ (2 : Int) ^ oss ∧ (2 : Int) ^ oss ≤ 8 := by
  interval_cases oss
  all_goals decide

def b3Sum (regs : CalibrationRegs) (b6 : Int) : Int :=
  regs.ac1.toInt * 4 + (regs.b2.toInt * (b6 * b6 / 2 ^ 12) / 2 ^ 11 + regs.ac2.toInt * b6 / 2 ^ 11)

def b4Sum (regs : CalibrationRegs) (b6 : Int) : Int :=
  regs.ac3.toInt * b6 / 2 ^ 13 + regs.b1.toInt * (b6 * b6 / 2 ^ 12) / 2 ^ 16

section Coefficients

variable (within : -46340 ≤ b6 ∧ b6 ≤ 46340)
include within

theorem int16Product_within (factor : Int16) : -1518469120 ≤ factor.toInt * b6 ∧ factor.toInt * b6 ≤ 1518469120 := by
  have low := factor.le_toInt
  have high := factor.toInt_lt
  exact @mul_within factor.toInt b6 32768 46340 (by omega) within

theorem b3Sum_within (second : Fits 32 (regs.b2.toInt * (b6 * b6 / 2 ^ 12))) :
    -2000000 ≤ b3Sum regs b6 ∧ b3Sum regs b6 ≤ 2000000 := by
  have low := regs.ac1.le_toInt
  have high := regs.ac1.toInt_lt
  have cross := int16Product_within within regs.ac2
  obtain ⟨least, greatest⟩ := second
  unfold b3Sum
  omega

theorem b4Sum_within (first : Fits 32 (regs.b1.toInt * (b6 * b6 / 2 ^ 12))) :
    -220000 ≤ b4Sum regs b6 ∧ b4Sum regs b6 ≤ 220000 := by
  have cube := int16Product_within within regs.ac3
  obtain ⟨least, greatest⟩ := first
  unfold b4Sum
  omega

end Coefficients

theorem pressureCoefficients_eq (small : oss < 4) :
    pressureCoefficients regs oss b6 =
      if CoefficientsDefined regs b6 then some (exactB3 regs oss b6, exactB4 regs b6) else none := by
  rw [pressureCoefficients]
  by_cases within : -46340 ≤ b6 ∧ b6 ≤ 46340
  next =>
    rw [checked_bind _ ((square_fits_iff b6).mpr within)]
    by_cases second : Fits 32 (regs.b2.toInt * (b6 * b6 / 2 ^ 12))
    next =>
      have cross := int16Product_within within regs.ac2
      have cube := int16Product_within within regs.ac3
      have low := regs.ac1.le_toInt
      have high := regs.ac1.toInt_lt
      have sumBounds := b3Sum_within within second
      have scaledBounds := @mul_within (b3Sum regs b6) (2 ^ oss) 2000000 8 sumBounds (ossScale_within small)
      have crossFits : Fits 32 (regs.ac2.toInt * b6) := by
        constructor
        all_goals omega
      have cubeFits : Fits 32 (regs.ac3.toInt * b6) := by
        constructor
        all_goals omega
      have x3 : Fits 32 (regs.b2.toInt * (b6 * b6 / 2 ^ 12) / 2 ^ 11 + regs.ac2.toInt * b6 / 2 ^ 11) := by
        obtain ⟨least, greatest⟩ := second
        constructor
        all_goals omega
      have scaled : Fits 32 (regs.ac1.toInt * 4) := by
        constructor
        all_goals omega
      have sum : Fits 32 (b3Sum regs b6) := by
        constructor
        all_goals omega
      have shifted : Fits 32 (b3Sum regs b6 * 2 ^ oss) := by
        constructor
        all_goals omega
      have rounded : Fits 32 (b3Sum regs b6 * 2 ^ oss + 2) := by
        constructor
        all_goals omega
      unfold b3Sum at sum shifted rounded
      rw [checked_bind _ second, checked_bind _ crossFits, checked_bind _ x3, checked_bind _ scaled,
        checked_bind _ sum, checked_bind _ shifted, checked_bind _ rounded, checked_bind _ cubeFits]
      by_cases first : Fits 32 (regs.b1.toInt * (b6 * b6 / 2 ^ 12))
      next =>
        have sumBounds := b4Sum_within within first
        have sum : Fits 32 (b4Sum regs b6) := by
          constructor
          all_goals omega
        have rounded : Fits 32 (b4Sum regs b6 + 2) := by
          constructor
          all_goals omega
        have raised : Fits 32 ((b4Sum regs b6 + 2) / 2 ^ 2 + 32768) := by
          constructor
          all_goals omega
        unfold b4Sum at sum rounded raised
        rw [checked_bind _ first, checked_bind _ sum, checked_bind _ rounded, checked_bind _ raised,
          if_pos ⟨within, second, first⟩]
        rfl
      next => rw [checked_bind_overflow _ first, if_neg fun defined => first defined.2.2]
    next => rw [checked_bind_overflow _ second, if_neg fun defined => second defined.2.1]
  next =>
    rw [checked_bind_overflow _ fun fits => within ((square_fits_iff b6).mp fits), if_neg fun defined => within defined.1]

def CorrectionDefined (p : Int) : Prop := -215040 ≤ p ∧ p ≤ 215295

instance (p : Int) : Decidable (CorrectionDefined p) := inferInstanceAs (Decidable (_ ∧ _))

theorem scaledSquare_fits {root : Int} (fits : Fits 32 (root * root * 3038)) : -840 ≤ root ∧ root ≤ 840 := by
  have greatest := fits.2
  exact @root_within root 840 (by omega)

def correctedPressure (p : Int) : Int :=
  p + (p / 2 ^ 8 * (p / 2 ^ 8) * 3038 / 2 ^ 16 + -7357 * p / 2 ^ 16 + 3791) / 2 ^ 4

theorem correctPressure_eq (p : Int) :
    correctPressure p =
      if CorrectionDefined p then some (correctedPressure p) else none := by
  rw [correctPressure]
  by_cases defined : CorrectionDefined p
  next =>
    obtain ⟨least, greatest⟩ := id defined
    obtain ⟨lower, upper⟩ := @mul_within (p / 2 ^ 8) (p / 2 ^ 8) 840 840 (by omega) (by omega)
    have square : Fits 32 (p / 2 ^ 8 * (p / 2 ^ 8)) := by
      constructor
      all_goals omega
    have scaled : Fits 32 (p / 2 ^ 8 * (p / 2 ^ 8) * 3038) := by
      constructor
      all_goals omega
    have linear : Fits 32 (-7357 * p) := by
      constructor
      all_goals omega
    have sum : Fits 32 (p / 2 ^ 8 * (p / 2 ^ 8) * 3038 / 2 ^ 16 + -7357 * p / 2 ^ 16) := by
      constructor
      all_goals omega
    have offset : Fits 32 (p / 2 ^ 8 * (p / 2 ^ 8) * 3038 / 2 ^ 16 + -7357 * p / 2 ^ 16 + 3791) := by
      constructor
      all_goals omega
    have corrected : Fits 32 (correctedPressure p) := by
      unfold correctedPressure
      constructor
      all_goals omega
    rw [checked_bind _ square, checked_bind _ scaled, checked_bind _ linear, checked_bind _ sum,
      checked_bind _ offset, if_pos defined]
    exact CheckedInt.checked_fits corrected
  next =>
    rw [if_neg defined]
    by_cases square : Fits 32 (p / 2 ^ 8 * (p / 2 ^ 8))
    next =>
      rw [checked_bind _ square]
      have overflow : ¬ Fits 32 (p / 2 ^ 8 * (p / 2 ^ 8) * 3038) := by
        intro fits
        have root := scaledSquare_fits fits
        exact defined (by unfold CorrectionDefined; omega)
      exact checked_bind_overflow _ overflow
    next => exact checked_bind_overflow _ square

variable (regs oss) in
/-- `p` without a limit on the integers but where the code is unsigned. -/
def exactPressure (up : Nat) (b6 : Int) : Int := uncorrectedPressure oss up (exactB3 regs oss b6) (exactB4 regs b6)

variable (regs oss) in
def PressureDefined (up : Nat) (b5 : Int) : Prop :=
  CoefficientsDefined regs (b5 - 4000) ∧ exactB4 regs (b5 - 4000) ≠ 0 ∧
    CorrectionDefined (exactPressure regs oss up (b5 - 4000))

instance (up : Nat) (b5 : Int) : Decidable (PressureDefined regs oss up b5) := inferInstanceAs (Decidable (_ ∧ _))

theorem compensatePressure_eq {up : Nat} {b5 : Int} (small : oss < 4) (within : -67174400 ≤ b5 ∧ b5 ≤ 67174400) :
    compensatePressure regs oss up b5 =
      if PressureDefined regs oss up b5 then some (correctedPressure (exactPressure regs oss up (b5 - 4000)))
      else none := by
  have b6 : Fits 32 (b5 - 4000) := by
    constructor
    all_goals omega
  rw [compensatePressure, checked_bind _ b6, pressureCoefficients_eq small]
  by_cases coefficients : CoefficientsDefined regs (b5 - 4000)
  next =>
    rw [if_pos coefficients]
    change (if exactB4 regs (b5 - 4000) = 0 then none else correctPressure (exactPressure regs oss up (b5 - 4000))) = _
    by_cases divisor : exactB4 regs (b5 - 4000) = 0
    next => rw [if_pos divisor, if_neg fun defined => defined.2.1 divisor]
    next =>
      rw [if_neg divisor, correctPressure_eq]
      exact if_congr ⟨fun corrected => ⟨coefficients, divisor, corrected⟩, fun defined => defined.2.2⟩ rfl rfl
  next =>
    rw [if_neg coefficients, if_neg fun defined => coefficients defined.1]
    rfl

end Pressure

end WatchFirmware.Bmp180Driver
