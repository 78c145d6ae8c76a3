import Mathlib

set_option autoImplicit false

namespace ByteOrder

def value (bytes : List UInt8) : Nat := bytes.foldl (fun high byte => high * 256 + byte.toNat) 0

/-- The lowest `count` bytes of a number, the highest of them first. -/
def bytes : Nat → Nat → List UInt8
  | 0, _ => []
  | count + 1, number => bytes count (number / 256) ++ [UInt8.ofNat number]

@[simp] theorem bytes_length (count number : Nat) : (bytes count number).length = count := by
  induction count generalizing number with
  | zero => rfl
  | succ count ih => rw [bytes, List.length_append, ih, List.length_singleton]

theorem value_concat (front : List UInt8) (last : UInt8) :
    value (front ++ [last]) = value front * 256 + last.toNat := by
  simp [value]

theorem value_lt (list : List UInt8) : value list < 256 ^ list.length := by
  induction list using List.reverseRecOn with
  | nil => decide
  | append_singleton front last ih =>
      have small := last.toNat_lt
      rw [value_concat, List.length_append, List.length_singleton, Nat.pow_succ]
      omega

theorem value_bytes (count number : Nat) : value (bytes count number) = number % 256 ^ count := by
  induction count generalizing number with
  | zero => rw [Nat.pow_zero, Nat.mod_one]; rfl
  | succ count ih =>
      have split : number % 256 ^ (count + 1) = number % 256 + 256 * (number / 256 % 256 ^ count) := by
        rw [Nat.pow_succ', Nat.mod_mul]
      rw [bytes, value_concat, ih, UInt8.toNat_ofNat', split]
      omega

theorem bytes_value (list : List UInt8) : bytes list.length (value list) = list := by
  induction list using List.reverseRecOn with
  | nil => rfl
  | append_singleton front last ih =>
      have small := last.toNat_lt
      have high : (value front * 256 + last.toNat) / 256 = value front := by omega
      have low : UInt8.ofNat (value front * 256 + last.toNat) = last := by
        apply UInt8.toNat_inj.mp
        rw [UInt8.toNat_ofNat']
        omega
      rw [List.length_append, List.length_singleton, bytes, value_concat, high, low, ih]

theorem bytes_value_of_length {list : List UInt8} {count : Nat} (sized : list.length = count) :
    bytes count (value list) = list := by
  rw [← sized, bytes_value]

theorem shift_or_shift {low gap : Nat} (small : low < 2 ^ gap) (high width : Nat) :
    high <<< (gap + width) ||| low <<< width = (high * 2 ^ gap + low) <<< width := by
  rw [Nat.shiftLeft_add, ← Nat.shiftLeft_or_distrib, ← Nat.shiftLeft_add_eq_or_of_lt small, Nat.shiftLeft_eq high]

theorem value_pair (high low : UInt8) : high.toNat <<< 8 ||| low.toNat = value [high, low] := by
  have whole := shift_or_shift low.toNat_lt high.toNat 0
  rw [Nat.shiftLeft_zero, Nat.shiftLeft_zero] at whole
  rw [show value [high, low] = (0 * 256 + high.toNat) * 256 + low.toNat from rfl, Nat.zero_mul, Nat.zero_add]
  exact whole

theorem value_quad (first second third fourth : UInt8) :
    first.toNat <<< 24 ||| second.toNat <<< 16 ||| third.toNat <<< 8 ||| fourth.toNat <<< 0 =
      value [first, second, third, fourth] := by
  have upper := shift_or_shift second.toNat_lt first.toNat 16
  have middle := shift_or_shift third.toNat_lt (first.toNat * 2 ^ 8 + second.toNat) 8
  have lower := shift_or_shift fourth.toNat_lt ((first.toNat * 2 ^ 8 + second.toNat) * 2 ^ 8 + third.toNat) 0
  rw [upper, middle, lower, Nat.shiftLeft_zero]
  simp [value]

end ByteOrder
