/-
Module: DuckPass.Lib.Positional
Purpose: Numbers in positional notation, most significant digit first: the
  value of a list of digits, and the digits of a number in a fixed width.
Trusted boundary: none
Main exports: Positional.value, Positional.value_replicate_zero,
  Positional.digits
-/
import Mathlib.Data.Nat.Bitwise
import Mathlib.Data.List.Basic

namespace Positional

variable {base : Nat}

/-- The number that the digits write. -/
def value (base : Nat) (digits : List Nat) : Nat :=
  digits.foldl (fun number digit => base * number + digit) 0

/-- Horner's rule from any number. -/
theorem foldl_eq (digits : List Nat) (number : Nat) :
    digits.foldl (fun number digit => base * number + digit) number =
      base ^ digits.length * number + value base digits := by
  unfold value
  induction digits generalizing number with
  | nil => simp
  | cons digit digits inductionHypothesis =>
      rw [List.foldl_cons, inductionHypothesis, List.foldl_cons,
        inductionHypothesis (base * 0 + digit), List.length_cons,
        Nat.pow_succ, Nat.mul_zero, Nat.zero_add, Nat.mul_add,
        ← Nat.mul_assoc, Nat.add_assoc]

/-- The first digit counts most. -/
theorem value_cons (digit : Nat) (digits : List Nat) :
    value base (digit :: digits) =
      base ^ digits.length * digit + value base digits := by
  rw [value, List.foldl_cons, foldl_eq, Nat.mul_zero, Nat.zero_add]

/-- Leading zeros do not count. -/
theorem value_replicate_zero (count : Nat) (digits : List Nat) :
    value base (List.replicate count 0 ++ digits) = value base digits := by
  induction count with
  | zero => rfl
  | succ count inductionHypothesis =>
      rw [List.replicate_succ, List.cons_append, value_cons, Nat.mul_zero,
        Nat.zero_add, inductionHypothesis]

/-- The last `width` digits of a number. -/
def digits (base : Nat) : (width number : Nat) → List Nat
  | 0, _ => []
  | width + 1, number =>
      digits base width (number / base) ++ [number % base]

end Positional
