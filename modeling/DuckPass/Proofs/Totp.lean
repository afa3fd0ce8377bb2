/-
Module: DuckPass.Proofs.Totp
Purpose: `generate_totp` against RFC 6238 for every time, step and number of
  digits that it accepts, with all accesses to its arrays in range.
Trusted boundary: HMAC-SHA1 is any function to 20 bytes.
Main exports: Rfc6238.counter, Rfc6238.dynamicTruncation, Rfc6238.Code,
  Rfc6238.Remaining, Access.generateTotp_computes, totp_generation_correct
-/
import DuckPass.Core.TotpAccess
import DuckPass.Lib.Positional
import DuckPass.Proofs.VaultAccess
import DuckPass.System.SymbolicAgent

namespace DuckPass

/-! ## RFC 6238 -/

namespace Rfc6238

/-- The message: the number of the time step in eight bytes, most significant
first. -/
def counter (step : Nat) : SecureBytes :=
  (Positional.digits 256 8 step).map UInt8.ofNat

/-- Four bytes of the digest, at the offset that the low half of its last byte
names, without the sign bit. -/
def dynamicTruncation (digest : SecureBytes) : Nat :=
  let offset := (digest.getD 19 0).toNat % 16
  Positional.value 256 (((digest.drop offset).take 4).map UInt8.toNat) %
    2 ^ 31

def decimalValue (code : SecureString) : Nat :=
  Positional.value 10 (code.map fun ch => ch.toNat - 0x30)

/-- `code` is the truncated value in exactly that many decimal digits. -/
structure Code (truncated digits : Nat) (code : SecureString) : Prop where
  length : code.length = digits
  decimal : ∀ ch ∈ code, 0x30 ≤ ch ∧ ch ≤ 0x39
  value : decimalValue code = truncated % 10 ^ digits

/-- After `remaining` seconds the next time step begins. -/
structure Remaining (timestamp step remaining : Nat) : Prop where
  some : 1 ≤ remaining
  within : remaining ≤ step
  multiple : step ∣ timestamp + remaining
  first : ∀ other, step ∣ other → timestamp < other →
    timestamp + remaining ≤ other

end Rfc6238

/-! ## The message -/

/-- The mask takes the lowest byte. -/
theorem lowByte_eq (value : UInt64) :
    (value &&& 0xFF).toUInt8 = UInt8.ofNat (value.toNat % 256) := by
  apply UInt8.toNat_inj.mp
  rw [UInt64.toNat_toUInt8, UInt64.toNat_and, UInt8.toNat_ofNat']
  change (_ &&& (2 ^ 8 - 1)) % 256 = _
  rw [Nat.and_two_pow_sub_one_eq_mod]

/-- And the shift drops it. -/
theorem shifted_eq (value : UInt64) :
    (value >>> 8).toNat = value.toNat / 256 := by
  rw [UInt64.toNat_shiftRight]
  exact Nat.shiftRight_eq_div_pow _ 8

/-- Each round of the loop puts one more byte in front. -/
theorem foldl_timeBytes (positions : List Nat) (later : SecureBytes)
    (timeStep : UInt64) :
    (positions.foldl
      (fun (state : SecureBytes × UInt64) _ =>
        ((state.2 &&& 0xFF).toUInt8 :: state.1, state.2 >>> 8))
      (later, timeStep)).1 =
      (Positional.digits 256 positions.length timeStep.toNat).map
        UInt8.ofNat ++ later := by
  induction positions generalizing later timeStep with
  | nil => rfl
  | cons position positions inductionHypothesis =>
      rw [List.foldl_cons, inductionHypothesis, List.length_cons,
        Positional.digits, shifted_eq, lowByte_eq]
      simp

/-- So the bytes are those of the counter. -/
theorem timeBytes_eq (timeStep : UInt64) :
    timeBytes timeStep = Rfc6238.counter timeStep.toNat := by
  unfold timeBytes
  rw [foldl_timeBytes, List.append_nil, List.length_range]
  rfl

/-! ## The truncation -/

/-- Bytes shifted to their places and joined are a number in base 256. -/
theorem shifted_or_eq {high byte1 byte2 byte3 : Nat} (small1 : byte1 < 2 ^ 8)
    (small2 : byte2 < 2 ^ 8) (small3 : byte3 < 2 ^ 8) :
    high <<< 24 ||| byte1 <<< 16 ||| byte2 <<< 8 ||| byte3 =
      256 * (256 * (256 * high + byte1) + byte2) + byte3 := by
  have join : ∀ {number byte : Nat}, byte < 2 ^ 8 →
      number <<< 8 ||| byte = 256 * number + byte := by
    intro number byte small
    rw [← Nat.shiftLeft_add_eq_or_of_lt small, Nat.shiftLeft_eq, Nat.mul_comm]
  have nested : high <<< 24 ||| byte1 <<< 16 ||| byte2 <<< 8 ||| byte3 =
      ((high <<< 8 ||| byte1) <<< 8 ||| byte2) <<< 8 ||| byte3 := by
    simp only [Nat.shiftLeft_or_distrib, ← Nat.shiftLeft_add]
  rw [nested, join small1, join small2, join small3]

/-- The four bytes are put together without the sign. -/
theorem joined_eq (byte0 byte1 byte2 byte3 : UInt8) :
    (((byte0.toUInt32 &&& 0x7F) <<< 24) |||
      ((byte1.toUInt32 &&& 0xFF) <<< 16) |||
      ((byte2.toUInt32 &&& 0xFF) <<< 8) |||
      (byte3.toUInt32 &&& 0xFF)).toNat =
      Positional.value 256
        [byte0.toNat, byte1.toNat, byte2.toNat, byte3.toNat] % 2 ^ 31 := by
  have small1 := byte1.toNat_lt
  have small2 := byte2.toNat_lt
  have small3 := byte3.toNat_lt
  have low : ∀ byte : UInt8, (byte.toUInt32 &&& 0xFF).toNat = byte.toNat := by
    intro byte
    rw [UInt32.toNat_and, UInt8.toNat_toUInt32]
    change byte.toNat &&& (2 ^ 8 - 1) = _
    rw [Nat.and_two_pow_sub_one_eq_mod, Nat.mod_eq_of_lt byte.toNat_lt]
  have top : (byte0.toUInt32 &&& 0x7F).toNat = byte0.toNat % 2 ^ 7 := by
    rw [UInt32.toNat_and, UInt8.toNat_toUInt32]
    exact Nat.and_two_pow_sub_one_eq_mod _ 7
  have small0 : byte0.toNat % 2 ^ 7 < 2 ^ 7 := Nat.mod_lt _ (by decide)
  -- No shift loses a bit.
  have fits : ∀ {number shift : Nat}, number * 2 ^ shift < 2 ^ 32 →
      number <<< shift % 2 ^ 32 = number <<< shift := by
    intro number shift small
    rw [Nat.mod_eq_of_lt (by rwa [Nat.shiftLeft_eq])]
  simp only [UInt32.toNat_or, UInt32.toNat_shiftLeft, low, top]
  change ((byte0.toNat % 2 ^ 7) <<< 24 % 2 ^ 32) |||
    (byte1.toNat <<< 16 % 2 ^ 32) ||| (byte2.toNat <<< 8 % 2 ^ 32) |||
      byte3.toNat = _
  rw [fits (by omega), fits (by omega), fits (by omega),
    shifted_or_eq small1 small2 small3]
  simp only [Positional.value, List.foldl_cons, List.foldl_nil]
  omega

/-- The offset leaves room for four bytes in a digest of twenty. -/
theorem offset_lt (byte : UInt8) : (byte &&& 0x0F).toNat < 16 := by
  rw [UInt8.toNat_and]
  exact Nat.lt_of_le_of_lt Nat.and_le_right (by decide)

/-- The offset is the low half of the last byte. -/
theorem offset_eq (byte : UInt8) : (byte &&& 0x0F).toNat = byte.toNat % 16 := by
  rw [UInt8.toNat_and]
  exact Nat.and_two_pow_sub_one_eq_mod _ 4

/-- So the code is the dynamic truncation. -/
theorem binaryCode_toNat {md : SecureBytes} (size : md.length = sha1Bytes) :
    (binaryCode md).toNat = Rfc6238.dynamicTruncation md := by
  have twenty : md.length = 20 := size
  have last : md.length - 1 = 19 := by omega
  have bound := offset_lt (md.getD 19 0)
  unfold binaryCode Rfc6238.dynamicTruncation
  dsimp only
  rw [joined_eq, last, ← offset_eq]
  generalize (md.getD 19 0 &&& 0x0F).toNat = offset at bound
  have taken : (md.drop offset).take 4 =
      [md.getD offset 0, md.getD (offset + 1) 0, md.getD (offset + 2) 0,
        md.getD (offset + 3) 0] := by
    apply List.ext_getElem
    · simp only [List.length_take, List.length_drop, List.length_cons,
        List.length_nil]
      omega
    · intro index first second
      simp only [List.length_cons, List.length_nil] at second
      rw [List.getElem_take, List.getElem_drop]
      rcases index with _ | _ | _ | _ | index
      · exact (List.getD_eq_getElem md 0 (by omega)).symm
      · exact (List.getD_eq_getElem md 0 (by omega)).symm
      · exact (List.getD_eq_getElem md 0 (by omega)).symm
      · exact (List.getD_eq_getElem md 0 (by omega)).symm
      · omega
  rw [taken]
  rfl

/-! ## The code -/

/-- The character of a decimal digit as a byte. -/
theorem digitByte_eq {char : Char} (digit : char.isDigit) :
    (UInt8.ofNat char.toNat).toNat = char.toNat ∧ 48 ≤ char.toNat ∧
      char.toNat ≤ 57 := by
  obtain ⟨low, high⟩ := Char.isDigit_iff_toNat.mp digit
  refine ⟨?_, low, high⟩
  rw [UInt8.toNat_ofNat']
  exact Nat.mod_eq_of_lt (Nat.lt_of_le_of_lt high (by decide))

/-- The zeros in front fill the text up to its length and leave its value. -/
theorem paddedDigits_code {digits : Nat} {value : UInt32} (some : 0 < digits)
    (fits : value.toNat < 10 ^ digits) :
    (paddedDigits digits value).length = digits ∧
      (∀ ch ∈ paddedDigits digits value, 0x30 ≤ ch ∧ ch ≤ 0x39) ∧
      Rfc6238.decimalValue (paddedDigits digits value) = value.toNat := by
  have short : (Nat.toDigits 10 value.toNat).length ≤ digits :=
    (Nat.length_toDigits_le_iff (by decide) some).mpr fits
  have digit : ∀ char ∈ Nat.toDigits 10 value.toNat, char.isDigit :=
    fun char member =>
      Nat.isDigit_of_mem_toDigits (by decide) (by decide) member
  refine ⟨?_, ?_, ?_⟩
  · simp only [paddedDigits, List.length_append, List.length_replicate,
      List.length_map]
    omega
  · intro ch member
    rcases List.mem_append.mp member with zero | written
    · rw [(List.mem_replicate.mp zero).2]
      decide
    · obtain ⟨char, inText, rfl⟩ := List.mem_map.mp written
      obtain ⟨same, low, high⟩ := digitByte_eq (digit char inText)
      rw [UInt8.le_iff_toNat_le, UInt8.le_iff_toNat_le, same]
      exact ⟨low, high⟩
  · have zeros : Rfc6238.decimalValue (paddedDigits digits value) =
        Positional.value 10 ((Nat.toDigits 10 value.toNat).map fun char =>
          (UInt8.ofNat char.toNat).toNat - 0x30) := by
      rw [Rfc6238.decimalValue, paddedDigits, List.map_append,
        List.map_replicate, List.map_map]
      exact Positional.value_replicate_zero _ _
    have plain : (Nat.toDigits 10 value.toNat).map (fun char =>
        (UInt8.ofNat char.toNat).toNat - 0x30) =
          (Nat.toDigits 10 value.toNat).map fun char => char.toNat - 48 := by
      apply List.map_congr_left
      intro char member
      rw [(digitByte_eq (digit char member)).1]
    rw [zeros, plain, Positional.value, List.foldl_map]
    exact Nat.ofDigitChars_ten_toDigits

/-- The product of the loop is the power of ten. -/
theorem modulus_toNat {digits : UInt32} (low : 6 ≤ digits)
    (high : digits ≤ 8) :
    ((List.replicate digits.toNat (10 : UInt32)).foldl (· * ·) 1).toNat =
      10 ^ digits.toNat := by
  rw [UInt32.le_iff_toNat_le] at low high
  change 6 ≤ digits.toNat at low
  change digits.toNat ≤ 8 at high
  generalize digits.toNat = count at low high
  rcases (show count = 6 ∨ count = 7 ∨ count = 8 by omega) with
    rfl | rfl | rfl
  · rfl
  · rfl
  · rfl

/-- Its digits are those of the standard, with zeros in front. -/
theorem code_of_digest {digits : UInt32} (low : 6 ≤ digits)
    (high : digits ≤ 8) (md : Bytes sha1Bytes) :
    Rfc6238.Code (Rfc6238.dynamicTruncation md.val) digits.toNat
      (paddedDigits digits.toNat (binaryCode md.val %
        (List.replicate digits.toNat 10).foldl (· * ·) 1)) := by
  have value : (binaryCode md.val %
      (List.replicate digits.toNat (10 : UInt32)).foldl (· * ·) 1).toNat =
        Rfc6238.dynamicTruncation md.val % 10 ^ digits.toNat := by
    rw [UInt32.toNat_mod, modulus_toNat low high, binaryCode_toNat md.property]
  have some : 0 < digits.toNat := by
    rw [UInt32.le_iff_toNat_le] at low
    exact Nat.lt_of_lt_of_le (by decide) low
  obtain ⟨length, decimal, same⟩ := paddedDigits_code some (by
    rw [value]
    exact Nat.mod_lt _ (Nat.pow_pos (by decide)))
  exact ⟨length, decimal, same.trans value⟩

/-! ## The seconds left -/

/-- The time until the next code. -/
theorem remaining_of_step {timestamp : UInt64} {step : UInt32}
    (positive : step ≠ 0) :
    Rfc6238.Remaining timestamp.toNat step.toNat
      (step - (timestamp % step.toUInt64).toUInt32).toNat := by
  have given : 0 < step.toNat := by
    apply Nat.pos_of_ne_zero
    intro zero
    exact positive (UInt32.toNat_inj.mp zero)
  have small := Nat.mod_lt timestamp.toNat given
  have fits := step.toNat_lt
  have elapsed : ((timestamp % step.toUInt64).toUInt32).toNat =
      timestamp.toNat % step.toNat := by
    rw [UInt64.toNat_toUInt32, UInt64.toNat_mod, UInt32.toNat_toUInt64]
    exact Nat.mod_eq_of_lt (Nat.lt_trans small fits)
  have left : (step - (timestamp % step.toUInt64).toUInt32).toNat =
      step.toNat - timestamp.toNat % step.toNat := by
    rw [UInt32.toNat_sub_of_le _ _ (by
      rw [UInt32.le_iff_toNat_le, elapsed]
      exact Nat.le_of_lt small), elapsed]
  have parts := Nat.div_add_mod timestamp.toNat step.toNat
  have next : timestamp.toNat +
      (step.toNat - timestamp.toNat % step.toNat) =
        step.toNat * (timestamp.toNat / step.toNat + 1) := by
    rw [Nat.mul_succ]
    omega
  rw [left]
  refine ⟨by omega, Nat.sub_le _ _, ⟨_, next⟩, ?_⟩
  rintro other ⟨count, rfl⟩ later
  rw [next]
  apply Nat.mul_le_mul_left
  -- A multiple past the timestamp has a larger quotient.
  apply Nat.succ_le_of_lt
  exact (Nat.div_lt_iff_lt_mul given).mpr (by rwa [Nat.mul_comm])

/-! ## The accesses -/

namespace Access

open Traced (Computes)
open VaultAccess (Local Safe)

/-- A store inside of the buffer. -/
theorem store_computes {bytes : SecureBytes} {index : Nat} (value : UInt8)
    (inside : index < bytes.length) :
    Computes Local (store bytes index value)
      (.ok (bytes.set index value)) :=
  .emit_bind ⟨inside, rfl, rfl⟩ (.pure _)

/-- The loop fills the first positions, the last of them first. -/
theorem fillTimeBytes_computes (count : Nat) {bytes : SecureBytes}
    (room : count ≤ bytes.length) (timeStep : UInt64) :
    Computes Local
      (fillTimeBytes (List.range count).reverse bytes timeStep)
      (.ok ((Positional.digits 256 count timeStep.toNat).map UInt8.ofNat ++
        bytes.drop count)) := by
  induction count generalizing bytes timeStep with
  | zero => exact .pure _
  | succ count inductionHypothesis =>
      have inside : count < bytes.length := room
      have rest := @inductionHypothesis
        (bytes.set count (timeStep &&& 0xFF).toUInt8)
        (by rw [List.length_set]; exact Nat.le_of_lt inside) (timeStep >>> 8)
      have filled : (Positional.digits 256 count
          (timeStep >>> 8).toNat).map UInt8.ofNat ++
            (bytes.set count (timeStep &&& 0xFF).toUInt8).drop count =
          (Positional.digits 256 (count + 1) timeStep.toNat).map
            UInt8.ofNat ++ bytes.drop (count + 1) := by
        rw [List.drop_eq_getElem_cons (by rwa [List.length_set]),
          List.getElem_set_self, List.drop_set_of_lt (Nat.lt_succ_self count),
          shifted_eq, lowByte_eq, Positional.digits]
        simp
      rw [filled] at rest
      rw [List.range_succ, List.reverse_concat]
      exact .ok_bind (store_computes _ inside) rest

/-- The loop over the bytes of the counter. -/
theorem timeBytes_computes (before : Bytes 8) (timeStep : UInt64) :
    Computes Local (timeBytes before timeStep)
      (.ok (DuckPass.timeBytes timeStep)) := by
  have filled := fillTimeBytes_computes 8
    (Nat.le_of_eq before.property.symm) timeStep
  rw [List.drop_of_length_le (Nat.le_of_eq before.property),
    List.append_nil] at filled
  rw [timeBytes_eq]
  exact filled

/-- A byte inside of the buffer. -/
theorem byte_getD_computes {bytes : SecureBytes} {index : Nat}
    (inside : index < bytes.length) :
    Computes Local (byte bytes index) (.ok (bytes.getD index 0)) :=
  .emit_bind ⟨inside, rfl, rfl⟩ (.pure _)

/-- The digest is read inside of its size. -/
theorem binaryCode_computes {md : SecureBytes}
    (size : md.length = sha1Bytes) :
    Computes Local (binaryCode md) (.ok (DuckPass.binaryCode md)) := by
  have twenty : md.length = 20 := size
  have bound := offset_lt (md.getD (md.length - 1) 0)
  unfold DuckPass.binaryCode
  apply Computes.ok_bind (difference_computes (by omega))
  apply Computes.ok_bind (byte_getD_computes (by omega))
  exact .ok_bind (byte_getD_computes (by omega))
    (.ok_bind (byte_getD_computes (by omega))
      (.ok_bind (byte_getD_computes (by omega))
        (.ok_bind (byte_getD_computes (by omega)) (.pure _))))

/-- The recorded function computes what the plain one does, whatever its array
held before, and every access is in range. -/
theorem generateTotp_computes (hmacSha1 : HmacSha1) (secret : SecureString)
    (timestamp : UInt64) (step digits : UInt32) (clock : Clock)
    (before : Bytes 8) :
    Computes Safe
      (generateTotp hmacSha1 secret timestamp step digits clock before)
      (DuckPass.generateTotp hmacSha1 secret timestamp step digits clock) := by
  unfold generateTotp DuckPass.generateTotp
  apply Computes.guard
  intro _
  apply Computes.guard
  intro _
  apply (Computes.quiet _).bind
  intro key _
  apply Computes.ok_bind ((timeBytes_computes before _).mono fun _ fine =>
    fine.1)
  dsimp only
  cases hmacSha1 key _ with
  | none => exact .fail _
  | some md =>
      exact .ok_bind ((binaryCode_computes md.property).mono fun _ fine =>
        fine.1) (.pure _)

end Access

/-! ## Main result -/

/-- The code and the seconds left, given that the arguments are accepted. -/
theorem generateTotp_eq (hmac : SecureBytes → SecureBytes → Bytes sha1Bytes)
    {secret : SecureString} {key : SecureBytes}
    (decoded : decodeBase32 secret = .ok key) {timestamp : UInt64}
    (set : timestamp ≠ 0) {step digits : UInt32} (positive : step ≠ 0)
    (low : 6 ≤ digits) (high : digits ≤ 8) (clock : Clock) :
    generateTotp (fun key message => some (hmac key message)) secret timestamp
        step digits clock =
      .ok (paddedDigits digits.toNat (binaryCode
          (hmac key (Rfc6238.counter
            (timestamp.toNat / step.toNat))).val %
          (List.replicate digits.toNat 10).foldl (· * ·) 1),
        step - (timestamp % step.toUInt64).toUInt32) := by
  have allowed : ¬ (digits < 6 ∨ digits > 8) := by
    rw [not_or, UInt32.not_lt, gt_iff_lt, UInt32.not_lt]
    exact ⟨low, high⟩
  have counted : timeBytes (timestamp / step.toUInt64) =
      Rfc6238.counter (timestamp.toNat / step.toNat) := by
    rw [timeBytes_eq, UInt64.toNat_div, UInt32.toNat_toUInt64]
  unfold generateTotp
  simp only [if_neg positive, if_neg allowed, if_neg set, decoded, counted]
  rfl

/-- For every decodable secret, every time and step that are not zero and six
to eight digits: the code is that of RFC 6238, the same throughout a time step;
the seconds left lead to the next one; and every access to an array is in
range. -/
theorem totp_generation_correct
    (hmac : SecureBytes → SecureBytes → Bytes sha1Bytes)
    {secret : SecureString} {key : SecureBytes}
    (decoded : decodeBase32 secret = .ok key) {timestamp : UInt64}
    (set : timestamp ≠ 0) {step digits : UInt32} (positive : step ≠ 0)
    (low : 6 ≤ digits) (high : digits ≤ 8) (clock : Clock) :
    ∃ code remaining,
      generateTotp (fun key message => some (hmac key message)) secret
          timestamp step digits clock = .ok (code, remaining) ∧
        Rfc6238.Code (Rfc6238.dynamicTruncation
          (hmac key (Rfc6238.counter
            (timestamp.toNat / step.toNat))).val) digits.toNat code ∧
        Rfc6238.Remaining timestamp.toNat step.toNat remaining.toNat ∧
        (∀ other : UInt64, other ≠ 0 →
          other.toNat / step.toNat = timestamp.toNat / step.toNat →
          ∃ left, generateTotp (fun key message => some (hmac key message))
            secret other step digits clock = .ok (code, left)) ∧
        ∀ before, Traced.Computes VaultAccess.Safe
          (Access.generateTotp (fun key message => some (hmac key message))
            secret timestamp step digits clock before)
          (.ok (code, remaining)) := by
  have returned :=
    @generateTotp_eq hmac _ _ decoded _ set _ _ positive low high clock
  refine ⟨_, _, returned, code_of_digest low high _,
    remaining_of_step positive, ?_, ?_⟩
  · intro other otherSet same
    have again :=
      @generateTotp_eq hmac _ _ decoded _ otherSet _ _ positive low high clock
    rw [same] at again
    exact ⟨_, again⟩
  · intro before
    rw [← returned]
    exact Access.generateTotp_computes _ _ _ _ _ _ before

/-- A code of the tests: 59 seconds in, with one second to go. -/
theorem totp_generation_correct_rfc :
    (∃ code remaining,
      generateTotp (fun _ _ => some Symbolic.testDigest) Symbolic.testSecret 59
          30 6 (.constant 0) = .ok (code, remaining) ∧
        Rfc6238.Code (Rfc6238.dynamicTruncation Symbolic.testDigest.val) 6
          code) ∧
      Rfc6238.dynamicTruncation Symbolic.testDigest.val % 10 ^ 6 = 287082 := by
  have decodes : (decodeBase32 Symbolic.testSecret).isOk = true := by
    decide +kernel
  cases decoded : decodeBase32 Symbolic.testSecret with
  | error error =>
      rw [decoded] at decodes
      cases decodes
  | ok key =>
      obtain ⟨code, remaining, returned, correct, _⟩ :=
        @totp_generation_correct (fun _ _ => Symbolic.testDigest) _ _ decoded
          59 (by decide) 30 6 (by decide) (by decide) (by decide)
          (.constant 0)
      exact ⟨⟨code, remaining, returned, correct⟩, by decide⟩

end DuckPass
