import Mathlib

set_option autoImplicit false

namespace Decimal

def IsDigit (c : Char) : Prop := 48 ≤ c.toNat ∧ c.toNat ≤ 57

instance (c : Char) : Decidable (IsDigit c) := inferInstanceAs (Decidable (_ ∧ _))

def digit (n : Nat) : Char := Char.ofNat (48 + n % 10)

/-- A number of at most `width` digits with zeros in front. -/
def format : Nat → Nat → List Char
  | 0, _ => []
  | width + 1, n => format width (n / 10) ++ [digit n]

def value (text : List Char) : Nat := text.foldl (fun total c => total * 10 + (c.toNat - 48)) 0

/-- A number of at most `width` digits from the front of a text, with what follows it. -/
def scan (width : Nat) (text : List Char) : Option (Nat × List Char) :=
  let run := (text.take width).takeWhile (IsDigit ·)
  if run = [] then none else some (value run, text.drop run.length)

theorem digit_toNat (n : Nat) : (digit n).toNat = 48 + n % 10 := by
  have small : n % 10 < 10 := Nat.mod_lt _ (by decide)
  unfold digit
  generalize n % 10 = k at small ⊢
  interval_cases k <;> rfl

theorem digit_isDigit (n : Nat) : IsDigit (digit n) := by
  rw [IsDigit, digit_toNat]
  omega

@[simp] theorem format_length (width n : Nat) : (format width n).length = width := by
  induction width generalizing n with
  | zero => rfl
  | succ width ih => rw [format, List.length_append, ih, List.length_singleton]

theorem format_isDigit {width n : Nat} : ∀ c ∈ format width n, IsDigit c := by
  induction width generalizing n with
  | zero => exact fun c member => by cases member
  | succ width ih =>
      intro c member
      rw [format, List.mem_append, List.mem_singleton] at member
      obtain front | rfl := member
      next => exact ih c front
      next => exact digit_isDigit n

theorem value_append_singleton (text : List Char) (c : Char) :
    value (text ++ [c]) = value text * 10 + (c.toNat - 48) := by
  rw [value, List.foldl_append]
  rfl

theorem value_format {width n : Nat} (small : n < 10 ^ width) : value (format width n) = n := by
  induction width generalizing n with
  | zero =>
      rw [Nat.pow_zero, Nat.lt_one_iff] at small
      rw [small]
      rfl
  | succ width ih =>
      have front : n / 10 < 10 ^ width := by
        rw [Nat.pow_succ] at small
        exact Nat.div_lt_of_lt_mul (Nat.mul_comm _ _ ▸ small)
      rw [format, value_append_singleton, ih front, digit_toNat]
      omega

theorem scan_append {text : List Char} (digits : ∀ c ∈ text, IsDigit c) (filled : text ≠ []) (rest : List Char) :
    scan text.length (text ++ rest) = some (value text, rest) := by
  have run : ((text ++ rest).take text.length).takeWhile (fun c => decide (IsDigit c)) = text := by
    rw [List.take_left]
    exact List.takeWhile_eq_self_iff.mpr fun c member => decide_eq_true (digits c member)
  simp only [scan, run, if_neg filled, List.drop_left]

end Decimal
