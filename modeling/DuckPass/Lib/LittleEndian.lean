/-
Module: DuckPass.Lib.LittleEndian
Purpose: Reassembling a natural number from its little-endian bytes by
  shifting and or-ing, the way fixed-width readers do it, and cutting it into
  the same bytes again.
Trusted boundary: none
Main exports: LittleEndian.byteAt, LittleEndian.assemble,
  LittleEndian.assemble_byteAt, LittleEndian.byteAt_assemble
-/
import Mathlib.Data.Nat.Bitwise

namespace LittleEndian

/-- The byte of `value` at position `index`, least significant first. -/
def byteAt (value index : Nat) : Nat :=
  (value >>> (8 * index)) % 2 ^ 8

/-- Or together the bytes `bytes 0, …, bytes (width - 1)`, each shifted to
its position. -/
def assemble (bytes : Nat → Nat) : Nat → Nat
  | 0 => 0
  | width + 1 => assemble bytes width ||| (bytes width <<< (8 * width))

theorem byteAt_lt (value index : Nat) : byteAt value index < 2 ^ 8 :=
  Nat.mod_lt _ (by decide)

/-- A byte stays within the word when it is shifted to its position. -/
theorem shiftLeft_byteAt_lt (value : Nat) {index width : Nat}
    (inWord : index < width) :
    byteAt value index <<< (8 * index) < 2 ^ (8 * width) := by
  have byteBound := byteAt_lt value index
  rw [Nat.shiftLeft_eq]
  calc byteAt value index * 2 ^ (8 * index)
      < 2 ^ 8 * 2 ^ (8 * index) :=
        Nat.mul_lt_mul_of_pos_right byteBound (Nat.two_pow_pos _)
    _ = 2 ^ (8 + 8 * index) := (Nat.pow_add 2 8 _).symm
    _ ≤ 2 ^ (8 * width) := Nat.pow_le_pow_right (by decide) (by omega)

/-- One more byte extends the truncation of `value` by eight bits. -/
theorem mod_or_byteAt (value width : Nat) :
    (value % 2 ^ (8 * width)) ||| (byteAt value width <<< (8 * width)) =
      value % 2 ^ (8 * (width + 1)) := by
  apply Nat.eq_of_testBit_eq
  intro bit
  simp only [byteAt, Nat.testBit_lor, Nat.testBit_mod_two_pow,
    Nat.testBit_shiftLeft, Nat.testBit_shiftRight]
  by_cases low : bit < 8 * width
  · simp [low, show bit < 8 * (width + 1) by omega,
      show ¬ bit ≥ 8 * width by omega]
  · have position : 8 * width + (bit - 8 * width) = bit := by omega
    by_cases inByte : bit < 8 * (width + 1)
    · simp [low, inByte, position, show bit ≥ 8 * width by omega,
        show bit - 8 * width < 8 by omega]
    · simp [low, inByte, show ¬ bit - 8 * width < 8 by omega]

/-- Assembling the first `width` bytes truncates the number to them. -/
theorem assemble_byteAt (value width : Nat) :
    assemble (byteAt value) width = value % 2 ^ (8 * width) := by
  induction width with
  | zero => simp [assemble, Nat.mod_one]
  | succ width inductionHypothesis =>
      rw [assemble, inductionHypothesis, mod_or_byteAt]

theorem assemble_byteAt_of_lt {value : Nat} (width : Nat)
    (fits : value < 2 ^ (8 * width)) :
    assemble (byteAt value) width = value := by
  rw [assemble_byteAt, Nat.mod_eq_of_lt fits]

theorem assemble_lt {bytes : Nat → Nat} (small : ∀ index, bytes index < 2 ^ 8)
    (width : Nat) : assemble bytes width < 2 ^ (8 * width) := by
  induction width with
  | zero => exact Nat.one_pos
  | succ width inductionHypothesis =>
      have high : bytes width <<< (8 * width) < 2 ^ (8 * (width + 1)) := by
        rw [Nat.shiftLeft_eq, Nat.mul_succ, Nat.pow_add, Nat.mul_comm]
        exact Nat.mul_lt_mul_of_pos_left (small width) (Nat.two_pow_pos _)
      have low := Nat.lt_of_lt_of_le inductionHypothesis
        (Nat.pow_le_pow_right (by decide : 0 < 2)
          (Nat.mul_le_mul_left 8 (Nat.le_succ width)))
      exact Nat.or_lt_two_pow low high

/-- Each byte is found again where it was put. -/
theorem byteAt_assemble {bytes : Nat → Nat}
    (small : ∀ index, bytes index < 2 ^ 8) {index width : Nat}
    (inWord : index < width) :
    byteAt (assemble bytes width) index = bytes index := by
  induction width with
  | zero => exact absurd inWord (Nat.not_lt_zero index)
  | succ width inductionHypothesis =>
      apply Nat.eq_of_testBit_eq
      intro bit
      rw [byteAt, assemble, Nat.testBit_mod_two_pow, Nat.testBit_shiftRight,
        Nat.testBit_lor, Nat.testBit_shiftLeft]
      by_cases inByte : bit < 8
      · rcases Nat.lt_succ_iff_lt_or_eq.mp inWord with earlier | rfl
        · -- The new byte starts above all bits of an earlier one.
          have below : ¬ 8 * index + bit ≥ 8 * width := by omega
          have same := congrArg (Nat.testBit · bit)
            (inductionHypothesis earlier)
          simp only [byteAt, Nat.testBit_mod_two_pow,
            Nat.testBit_shiftRight, inByte, decide_true,
            Bool.true_and] at same
          simp [inByte, below, same]
        · have beyond : (assemble bytes index).testBit (8 * index + bit) =
              false := by
            apply Nat.testBit_lt_two_pow
            exact Nat.lt_of_lt_of_le (assemble_lt small index)
              (Nat.pow_le_pow_right (by decide) (Nat.le_add_right _ _))
          simp [inByte, beyond]
      · have outside : (bytes index).testBit bit = false := by
          apply Nat.testBit_lt_two_pow
          exact Nat.lt_of_lt_of_le (small index)
            (Nat.pow_le_pow_right (by decide) (Nat.le_of_not_lt inByte))
        simp [inByte, outside]

end LittleEndian
