/-
Module: DuckPass.Lib.BitString
Purpose: Bit strings, most significant bit first: the low bits of a number, the
  bits of a list of numbers of one width, and the same bits cut into numbers of
  another width.
Trusted boundary: none
Main exports: BitString.bits, BitString.bits_append, BitString.concat,
  BitString.concat_inj, BitString.ofBits, BitString.bits_ofBits,
  BitString.regroup, BitString.concat_regroup
-/
import Mathlib.Data.Nat.Bitwise
import Mathlib.Data.List.Basic

namespace BitString

/-! ## The bits of a number -/

/-- The low `width` bits of `value`, most significant first. -/
def bits : (width value : Nat) → List Bool
  | 0, _ => []
  | width + 1, value => value.testBit width :: bits width value

@[simp] theorem length_bits (width value : Nat) :
    (bits width value).length = width := by
  induction width with
  | zero => rfl
  | succ width inductionHypothesis =>
      rw [bits, List.length_cons, inductionHypothesis]

/-- Only the low bits matter. -/
theorem bits_congr {width value other : Nat}
    (same : ∀ index < width, value.testBit index = other.testBit index) :
    bits width value = bits width other := by
  induction width with
  | zero => rfl
  | succ width inductionHypothesis =>
      rw [bits, bits, same width (Nat.lt_succ_self width)]
      congr 1
      apply inductionHypothesis
      intro index lower
      exact same index (Nat.lt_succ_of_lt lower)

/-- Bits above the width do not matter. -/
theorem bits_mod {width exponent : Nat} (within : width ≤ exponent)
    (value : Nat) : bits width (value % 2 ^ exponent) = bits width value := by
  apply bits_congr
  intro index lower
  simp [Nat.testBit_mod_two_pow, Nat.lt_of_lt_of_le lower within]

/-- A longer bit string begins with the higher bits. -/
theorem bits_append (high low value : Nat) :
    bits (high + low) value = bits high (value >>> low) ++ bits low value := by
  induction high with
  | zero => simp [bits]
  | succ high inductionHypothesis =>
      rw [Nat.succ_add, bits, bits, inductionHypothesis,
        Nat.testBit_shiftRight, Nat.add_comm low high]
      rfl

/-- The bits that follow when a number is shifted up and another one put
below. -/
theorem bits_shiftLeft_or {value digit low : Nat} (small : digit < 2 ^ low)
    (high : Nat) :
    bits (high + low) (value <<< low ||| digit) =
      bits high value ++ bits low digit := by
  rw [bits_append]
  congr 1
  · apply bits_congr
    intro index _
    have beyond : digit.testBit (low + index) = false := by
      apply Nat.testBit_lt_two_pow
      exact Nat.lt_of_lt_of_le small
        (Nat.pow_le_pow_right (by decide) (Nat.le_add_right low index))
    simp [Nat.testBit_shiftRight, Nat.testBit_shiftLeft, beyond]
  · apply bits_congr
    intro index lower
    simp [Nat.testBit_shiftLeft, Nat.not_le.mpr lower]

/-- Numbers below `2 ^ width` are told apart by their bits. -/
theorem bits_inj {width value other : Nat} (small : value < 2 ^ width)
    (otherSmall : other < 2 ^ width)
    (same : bits width value = bits width other) : value = other := by
  apply Nat.eq_of_testBit_eq
  intro index
  by_cases lower : index < width
  · induction width generalizing value other with
    | zero => cases lower
    | succ width inductionHypothesis =>
        rw [bits, bits, List.cons.injEq] at same
        rcases Nat.lt_succ_iff_lt_or_eq.mp lower with below | rfl
        · have rest := @inductionHypothesis (value % 2 ^ width)
            (other % 2 ^ width) (Nat.mod_lt _ (Nat.two_pow_pos _))
            (Nat.mod_lt _ (Nat.two_pow_pos _))
            (by rw [bits_mod (Nat.le_refl _), bits_mod (Nat.le_refl _),
              same.2]) below
          simpa [Nat.testBit_mod_two_pow, below] using rest
        · exact same.1
  · have beyond : 2 ^ width ≤ 2 ^ index :=
      Nat.pow_le_pow_right (by decide) (Nat.le_of_not_lt lower)
    rw [Nat.testBit_lt_two_pow (Nat.lt_of_lt_of_le small beyond),
      Nat.testBit_lt_two_pow (Nat.lt_of_lt_of_le otherSmall beyond)]

/-! ## The bits of a list of numbers -/

/-- The bits of numbers of one width, one after the other. -/
def concat (width : Nat) (values : List Nat) : List Bool :=
  values.flatMap (bits width)

@[simp] theorem concat_nil (width : Nat) : concat width [] = [] := rfl

@[simp] theorem concat_cons (width value : Nat) (values : List Nat) :
    concat width (value :: values) =
      bits width value ++ concat width values := rfl

@[simp] theorem concat_append (width : Nat) (values others : List Nat) :
    concat width (values ++ others) =
      concat width values ++ concat width others :=
  List.flatMap_append

@[simp] theorem length_concat (width : Nat) (values : List Nat) :
    (concat width values).length = width * values.length := by
  induction values with
  | nil => rfl
  | cons value values inductionHypothesis =>
      simp [inductionHypothesis, Nat.mul_succ, Nat.add_comm]

/-- Numbers that fit their width are determined by their bits. -/
theorem concat_inj {width : Nat} (positive : 0 < width)
    {values others : List Nat} (small : ∀ value ∈ values, value < 2 ^ width)
    (othersSmall : ∀ value ∈ others, value < 2 ^ width)
    (same : concat width values = concat width others) : values = others := by
  induction values generalizing others with
  | nil =>
      have lengths := congrArg List.length same
      simp only [concat_nil, List.length_nil, length_concat] at lengths
      rcases Nat.mul_eq_zero.mp lengths.symm with none | none
      · exact absurd none (Nat.ne_of_gt positive)
      · exact (List.length_eq_zero_iff.mp none).symm
  | cons value values inductionHypothesis =>
      cases others with
      | nil =>
          have lengths := congrArg List.length same
          simp only [concat_nil, List.length_nil, length_concat,
            List.length_cons] at lengths
          rcases Nat.mul_eq_zero.mp lengths with none | none
          · exact absurd none (Nat.ne_of_gt positive)
          · cases none
      | cons other others =>
          rw [concat_cons, concat_cons] at same
          obtain ⟨first, rest⟩ := List.append_inj same (by simp)
          rw [bits_inj (small value List.mem_cons_self)
              (othersSmall other List.mem_cons_self) first,
            inductionHypothesis
              (fun value member => small value (List.mem_cons_of_mem _ member))
              (fun value member =>
                othersSmall value (List.mem_cons_of_mem _ member)) rest]

/-! ## Cutting a bit string -/

/-- The number that a bit string writes. -/
def ofBits : List Bool → Nat
  | [] => 0
  | bit :: rest => bit.toNat * 2 ^ rest.length + ofBits rest

/-- Bits are a number below `2 ^ width`. -/
theorem ofBits_lt (string : List Bool) : ofBits string < 2 ^ string.length := by
  induction string with
  | nil => exact Nat.one_pos
  | cons bit rest inductionHypothesis =>
      have once : bit.toNat * 2 ^ rest.length ≤ 1 * 2 ^ rest.length :=
        Nat.mul_le_mul_right _ (Bool.toNat_le bit)
      rw [ofBits, List.length_cons, Nat.pow_succ]
      omega

/-- Which has these bits. -/
theorem bits_ofBits (string : List Bool) :
    bits string.length (ofBits string) = string := by
  induction string with
  | nil => rfl
  | cons bit rest inductionHypothesis =>
      have small := ofBits_lt rest
      rw [List.length_cons, bits, ofBits]
      congr 1
      · rw [Nat.mul_comm, Nat.testBit_two_pow_mul_add _ small]
        cases bit <;> simp
      · rw [← bits_mod (Nat.le_refl _), Nat.mul_comm, Nat.mul_add_mod,
          bits_mod (Nat.le_refl _), inductionHypothesis]

/-- The first `width` bits, filled up with zeros. -/
def chunk (width : Nat) (string : List Bool) : List Bool :=
  string.take width ++ List.replicate (width - string.length) false

/-- A chunk has its width, filled up if need be. -/
theorem length_chunk (width : Nat) (string : List Bool) :
    (chunk width string).length = width := by
  simp only [chunk, List.length_append, List.length_take,
    List.length_replicate]
  omega

/-- `count` numbers of the width, cut from the front. -/
def groups (width : Nat) : (count : Nat) → List Bool → List Nat
  | 0, _ => []
  | count + 1, string =>
      ofBits (chunk width string) :: groups width count (string.drop width)

/-- A bit string cut into numbers of the width, the last one filled up with
zeros. -/
def regroup (width : Nat) (string : List Bool) : List Nat :=
  groups width ((string.length + (width - 1)) / width) string

/-- So every group is a number below `2 ^ width`. -/
theorem groups_lt {width count value : Nat} {string : List Bool}
    (member : value ∈ groups width count string) : value < 2 ^ width := by
  induction count generalizing string with
  | zero => cases member
  | succ count inductionHypothesis =>
      rcases List.mem_cons.mp member with rfl | later
      · have small := ofBits_lt (chunk width string)
        rwa [length_chunk] at small
      · exact inductionHypothesis later

/-- Enough groups hold the whole string and zeros behind it. -/
theorem concat_groups {width count : Nat} {string : List Bool}
    (enough : string.length ≤ width * count) :
    concat width (groups width count string) =
      string ++ List.replicate (width * count - string.length) false := by
  induction count generalizing string with
  | zero =>
      rw [Nat.mul_zero, Nat.le_zero, List.length_eq_zero_iff] at enough
      subst enough
      rfl
  | succ count inductionHypothesis =>
      have first := bits_ofBits (chunk width string)
      rw [length_chunk] at first
      rw [groups, concat_cons, first, inductionHypothesis (by
        rw [List.length_drop]
        rw [Nat.mul_succ] at enough
        omega), chunk, List.length_drop, Nat.mul_succ]
      rw [Nat.mul_succ] at enough
      rcases Nat.le_total width string.length with long | short
      · have none : width - string.length = 0 := by omega
        have rest : width * count - (string.length - width) =
            width * count + width - string.length := by omega
        rw [none, rest, List.replicate_zero, List.append_nil,
          ← List.append_assoc, List.take_append_drop]
      · rw [List.take_of_length_le short, List.drop_of_length_le short,
          List.nil_append, List.append_assoc, List.replicate_append_replicate]
        congr 2
        omega

/-- Regrouping keeps the bits and adds fewer zeros than one group has. -/
theorem concat_regroup {width : Nat} (positive : 0 < width)
    (string : List Bool) :
    ∃ zeros, zeros < width ∧
      concat width (regroup width string) =
        string ++ List.replicate zeros false := by
  have split := Nat.div_add_mod (string.length + (width - 1)) width
  have small := Nat.mod_lt (string.length + (width - 1)) positive
  refine ⟨_, ?_, concat_groups (by omega)⟩
  omega

end BitString
