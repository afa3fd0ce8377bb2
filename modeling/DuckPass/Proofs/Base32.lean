/-
Module: DuckPass.Proofs.Base32
Purpose: `decode_base32` against RFC 4648 for texts of any length.  The bytes
  pushed and the unread low bits of the accumulator spell out the digits read,
  so that nothing is lost when the accumulator wraps.
Trusted boundary: none
Main exports: Rfc4648.encode, Rfc4648.Writes, base32Digits, Base32State.Holds,
  decodeBase32_eq_ok, decodeBase32_throws_iff, base32_decoding_correct
-/
import DuckPass.Core.Totp
import DuckPass.Lib.BitString

namespace DuckPass

open BitString (bits concat)

/-- The byte values of a byte string. -/
def byteValues (bytes : SecureBytes) : List Nat := bytes.map UInt8.toNat

theorem byteValues_lt {bytes : SecureBytes} {value : Nat}
    (member : value ∈ byteValues bytes) : value < 2 ^ 8 := by
  obtain ⟨byte, _, rfl⟩ := List.mem_map.mp member
  exact byte.toNat_lt

/-! ## RFC 4648 -/

namespace Rfc4648

/-- Table 3: the characters of the 32 digits. -/
def alphabet : SecureString := textBytes "ABCDEFGHIJKLMNOPQRSTUVWXYZ234567"

def toUpper (ch : UInt8) : UInt8 :=
  if 0x61 ≤ ch ∧ ch ≤ 0x7A then ch - 0x20 else ch

/-- The digit that a character stands for, in either case. -/
def digit (ch : UInt8) : Option Nat := alphabet.idxOf? (toUpper ch)

/-- The encoding without padding: the bits in groups of five, the last group
filled up with zeros. -/
def encodeUnpadded (bytes : SecureBytes) : SecureString :=
  (BitString.regroup 5 (concat 8 (byteValues bytes))).map fun value =>
    alphabet.getD value 0

/-- The encoding, padded with `=` to a multiple of eight characters. -/
def encode (bytes : SecureBytes) : SecureString :=
  encodeUnpadded bytes ++
    List.replicate ((8 - (encodeUnpadded bytes).length % 8) % 8) 0x3D

def isSpacing (ch : UInt8) : Bool := ch == 0x20 || ch == 0x2D

/-- A text without spaces and hyphens and in upper case. -/
def plain (text : SecureString) : SecureString :=
  (text.filter fun ch => !isSpacing ch).map toUpper

/-- `text` is the encoding of `bytes`, padded or not, in any case and with
spaces and hyphens anywhere. -/
def Writes (text : SecureString) (bytes : SecureBytes) : Prop :=
  plain text = encode bytes ∨ plain text = encodeUnpadded bytes

instance (text : SecureString) (bytes : SecureBytes) :
    Decidable (Writes text bytes) :=
  inferInstanceAs (Decidable (_ ∨ _))

end Rfc4648

/-- The digits of a text, whatever stands between them. -/
def base32Digits (text : SecureString) : List Nat :=
  text.filterMap Rfc4648.digit

/-- A digit or a separator. -/
def IsBase32Char (ch : UInt8) : Prop :=
  ch ∈ textBytes " -=" ∨ (Rfc4648.digit ch).isSome

/-! ## Characters -/

/-- What the range checks of the source say of every character. -/
theorem base32_chars : ∀ code : Fin 256,
    base32Value (UInt8.ofNat code) =
        (Rfc4648.digit (UInt8.ofNat code)).map UInt32.ofNat ∧
      (isBase32Separator (UInt8.ofNat code) = true ↔
        UInt8.ofNat code ∈ textBytes " -=") ∧
      (isBase32Separator (UInt8.ofNat code) = true →
        Rfc4648.digit (UInt8.ofNat code) = none) := by
  decide +kernel

theorem base32_char (ch : UInt8) :
    base32Value ch = (Rfc4648.digit ch).map UInt32.ofNat ∧
      (isBase32Separator ch = true ↔ ch ∈ textBytes " -=") ∧
      (isBase32Separator ch = true → Rfc4648.digit ch = none) := by
  have facts := base32_chars ⟨ch.toNat, ch.toNat_lt⟩
  rwa [UInt8.ofNat_toNat] at facts

theorem digit_lt {ch : UInt8} {value : Nat}
    (found : Rfc4648.digit ch = some value) : value < 2 ^ 5 := by
  obtain ⟨inAlphabet, _⟩ := List.idxOf?_eq_some_iff.mp found
  exact inAlphabet

/-! ## The loop -/

/-- What the state of the loop says about the digits read so far: the bytes
pushed, followed by the bits not pushed yet, are their bits.  The accumulator
may have wrapped; only its low bits are spoken of. -/
structure Base32State.Holds (digits : List Nat) (state : Base32State) :
    Prop where
  few : state.bitsLeft < 8
  spells : concat 8 (byteValues state.result) ++
    bits state.bitsLeft state.buffer.toNat = concat 5 digits

theorem Base32State.Holds.start : Holds [] ⟨0, 0, []⟩ := ⟨by decide, rfl⟩

/-- The accumulator after one more digit, as far as it can be unread. -/
theorem bits_accumulate {buffer : UInt32} {value high : Nat}
    (small : value < 2 ^ 5) (few : high < 8) :
    bits (high + 5) ((buffer <<< 5) ||| UInt32.ofNat value).toNat =
      bits high buffer.toNat ++ bits 5 value := by
  have wraps : ((buffer <<< 5) ||| UInt32.ofNat value).toNat =
      ((buffer.toNat <<< 5) ||| value) % 2 ^ 32 := by
    have fits : value < 2 ^ 32 := Nat.lt_trans small (by decide)
    rw [UInt32.toNat_or, UInt32.toNat_shiftLeft, UInt32.toNat_ofNat',
      Nat.or_mod_two_pow]
    rfl
  rw [wraps, BitString.bits_mod (by omega),
    BitString.bits_shiftLeft_or small]

/-- The byte that is pushed has the bits next in line. -/
theorem bits_pushed {buffer : UInt32} {low : Nat} (few : low < 8) :
    bits 8 (((buffer >>> UInt32.ofNat low) &&& 0xFF).toUInt8).toNat =
      bits 8 (buffer.toNat >>> low) := by
  have value : (((buffer >>> UInt32.ofNat low) &&& 0xFF).toUInt8).toNat =
      (buffer.toNat >>> low) % 2 ^ 8 := by
    have amount : (UInt32.ofNat low).toNat % 32 = low := by
      rw [UInt32.toNat_ofNat']
      omega
    rw [UInt32.toNat_toUInt8, UInt32.toNat_and, UInt32.toNat_shiftRight,
      amount]
    change (_ &&& (2 ^ 8 - 1)) % 2 ^ 8 = _
    rw [Nat.and_two_pow_sub_one_eq_mod, Nat.mod_mod]
  rw [value, BitString.bits_mod (Nat.le_refl 8)]

/-- One digit more. -/
theorem Base32State.Holds.push {digits : List Nat} {state : Base32State}
    {value : Nat} (holds : Holds digits state) (small : value < 2 ^ 5) :
    Holds (digits ++ [value]) (state.push (UInt32.ofNat value)) := by
  obtain ⟨few, spells⟩ := holds
  have accumulated := @bits_accumulate state.buffer value state.bitsLeft
    small few
  have spelled : concat 8 (byteValues state.result) ++
      bits (state.bitsLeft + 5)
        ((state.buffer <<< 5) ||| UInt32.ofNat value).toNat =
      concat 5 (digits ++ [value]) := by
    rw [accumulated, ← List.append_assoc, spells]
    simp
  unfold Base32State.push
  dsimp only
  split
  · next ready =>
      refine ⟨by dsimp only; omega, ?_⟩
      have cut : state.bitsLeft + 5 = 8 + (state.bitsLeft + 5 - 8) := by
        omega
      rw [cut, BitString.bits_append] at spelled
      rw [← spelled, ← bits_pushed (by omega)]
      simp [byteValues]
  · next notReady => exact ⟨Nat.lt_of_not_le notReady, spelled⟩

/-- A text without invalid characters is read to its end. -/
theorem decodeBase32Loop_of_valid {text : SecureString} {before : List Nat}
    {state : Base32State} (valid : ∀ ch ∈ text, IsBase32Char ch)
    (holds : state.Holds before) :
    ∃ after, decodeBase32Loop text state = .ok after ∧
      after.Holds (before ++ base32Digits text) := by
  induction text generalizing before state with
  | nil => exact ⟨state, rfl, by simpa [base32Digits] using holds⟩
  | cons ch rest inductionHypothesis =>
      obtain ⟨value, separator, skipped⟩ := base32_char ch
      have restValid : ∀ ch ∈ rest, IsBase32Char ch :=
        fun ch member => valid ch (List.mem_cons_of_mem _ member)
      rw [decodeBase32Loop]
      split
      · next isSeparator =>
          rw [base32Digits, List.filterMap_cons, skipped isSeparator]
          exact inductionHypothesis restValid holds
      · next notSeparator =>
          rcases valid ch List.mem_cons_self with isSeparator | isDigit
          · exact absurd (separator.mpr isSeparator) notSeparator
          · obtain ⟨digit, found⟩ := Option.isSome_iff_exists.mp isDigit
            rw [value, found, base32Digits, List.filterMap_cons, found]
            have pushed := holds.push (digit_lt found)
            obtain ⟨after, ended, afterHolds⟩ :=
              inductionHypothesis restValid pushed
            refine ⟨after, ended, ?_⟩
            simpa [base32Digits] using afterHolds

/-- An invalid character ends the loop with an exception. -/
theorem decodeBase32Loop_of_invalid {text : SecureString} {bad : UInt8}
    {state : Base32State} (member : bad ∈ text)
    (invalid : ¬ IsBase32Char bad) :
    ∃ error, decodeBase32Loop text state = .error error := by
  induction text generalizing state with
  | nil => cases member
  | cons ch rest inductionHypothesis =>
      obtain ⟨value, separator, _⟩ := base32_char ch
      rw [decodeBase32Loop]
      rcases List.mem_cons.mp member with rfl | later
      · unfold IsBase32Char at invalid
        rw [not_or, ← separator, Option.not_isSome_iff_eq_none] at invalid
        rw [if_neg invalid.1, value, invalid.2]
        exact ⟨_, rfl⟩
      · split
        · exact inductionHypothesis later
        · split
          · exact inductionHypothesis later
          · exact ⟨_, rfl⟩

/-! ## The function -/

/-- The bytes returned are the leading bits of the digits. -/
theorem Base32State.Holds.leading {digits : List Nat} {state : Base32State}
    (holds : Holds digits state) :
    state.result.length = 5 * digits.length / 8 ∧
      concat 8 (byteValues state.result) =
        (concat 5 digits).take (8 * (5 * digits.length / 8)) := by
  obtain ⟨few, spells⟩ := holds
  have lengths := congrArg List.length spells
  simp only [List.length_append, BitString.length_concat,
    BitString.length_bits, byteValues, List.length_map] at lengths
  have size : state.result.length = 5 * digits.length / 8 := by omega
  refine ⟨size, ?_⟩
  rw [← spells, ← size]
  exact (List.take_left' (by simp [byteValues])).symm

theorem decodeBase32_of_valid {text : SecureString}
    (valid : ∀ ch ∈ text, IsBase32Char ch)
    (enough : 2 ≤ (base32Digits text).length) :
    ∃ bytes, decodeBase32 text = .ok bytes ∧
      bytes.length = 5 * (base32Digits text).length / 8 ∧
      concat 8 (byteValues bytes) = (concat 5 (base32Digits text)).take
        (8 * (5 * (base32Digits text).length / 8)) := by
  obtain ⟨state, ended, holds⟩ := decodeBase32Loop_of_valid valid .start
  obtain ⟨size, leading⟩ := holds.leading
  rw [List.nil_append] at size leading
  have pushed : ¬ state.result.isEmpty = true := by
    intro empty
    rw [List.isEmpty_iff.mp empty, List.length_nil] at size
    omega
  refine ⟨state.result, ?_, size, leading⟩
  unfold decodeBase32
  rw [ended]
  simp [bind, Except.bind, pure, Except.pure, pushed]

/-- `decode_base32` throws exactly for an invalid character and for fewer than
two digits, which do not make a byte. -/
theorem decodeBase32_throws_iff (text : SecureString) :
    (∃ error, decodeBase32 text = .error error) ↔
      (∃ ch ∈ text, ¬ IsBase32Char ch) ∨ (base32Digits text).length < 2 := by
  by_cases valid : ∀ ch ∈ text, IsBase32Char ch
  · constructor
    · rintro ⟨error, threw⟩
      right
      apply Nat.lt_of_not_le
      intro enough
      obtain ⟨bytes, returned, _⟩ := decodeBase32_of_valid valid enough
      rw [threw] at returned
      cases returned
    · rintro (⟨ch, member, invalid⟩ | few)
      · exact absurd (valid ch member) invalid
      · obtain ⟨state, ended, holds⟩ :=
          decodeBase32Loop_of_valid valid .start
        have size := holds.leading.1
        rw [List.nil_append] at size
        have nothing : state.result = [] := by
          apply List.length_eq_zero_iff.mp
          omega
        unfold decodeBase32
        rw [ended]
        simp [bind, Except.bind, nothing, throw, throwThe,
          MonadExceptOf.throw]
  · simp only [not_forall] at valid
    obtain ⟨ch, member, invalid⟩ := valid
    refine iff_of_true ?_ (.inl ⟨ch, member, invalid⟩)
    obtain ⟨error, ended⟩ := @decodeBase32Loop_of_invalid text ch ⟨0, 0, []⟩
      member invalid
    exact ⟨error, by simp [decodeBase32, ended, bind, Except.bind]⟩

/-! ## Encoded texts -/

/-- Upper and lower case are the same digit; a space or a hyphen is none. -/
theorem toUpper_chars : ∀ code : Fin 256,
    Rfc4648.digit (Rfc4648.toUpper (UInt8.ofNat code)) =
        Rfc4648.digit (UInt8.ofNat code) ∧
      (Rfc4648.toUpper (UInt8.ofNat code) ∈ textBytes " -=" →
        UInt8.ofNat code ∈ textBytes " -=") := by
  decide +kernel

theorem toUpper_char (ch : UInt8) :
    Rfc4648.digit (Rfc4648.toUpper ch) = Rfc4648.digit ch ∧
      (Rfc4648.toUpper ch ∈ textBytes " -=" → ch ∈ textBytes " -=") := by
  have facts := toUpper_chars ⟨ch.toNat, ch.toNat_lt⟩
  rwa [UInt8.ofNat_toNat] at facts

theorem isBase32Char_of_toUpper {ch : UInt8}
    (upper : IsBase32Char (Rfc4648.toUpper ch)) : IsBase32Char ch := by
  obtain ⟨same, separator⟩ := toUpper_char ch
  rcases upper with isSeparator | isDigit
  · exact .inl (separator isSeparator)
  · exact .inr (same ▸ isDigit)

theorem spacing_char {ch : UInt8} (spacing : Rfc4648.isSpacing ch = true) :
    ch ∈ textBytes " -=" ∧ Rfc4648.digit ch = none := by
  simp only [Rfc4648.isSpacing, Bool.or_eq_true, beq_iff_eq] at spacing
  rcases spacing with rfl | rfl
  · decide
  · decide

/-- Spaces, hyphens and the case do not matter to the digits. -/
theorem base32Digits_plain (text : SecureString) :
    base32Digits (Rfc4648.plain text) = base32Digits text := by
  induction text with
  | nil => rfl
  | cons ch rest inductionHypothesis =>
      unfold base32Digits Rfc4648.plain at inductionHypothesis ⊢
      by_cases spacing : Rfc4648.isSpacing ch = true
      · rw [List.filter_cons_of_neg (by simp [spacing]), List.filterMap_cons,
          (spacing_char spacing).2, inductionHypothesis]
      · rw [List.filter_cons_of_pos (by simp [spacing]), List.map_cons,
          List.filterMap_cons, List.filterMap_cons, (toUpper_char ch).1,
          inductionHypothesis]

theorem valid_of_plain {text : SecureString}
    (valid : ∀ ch ∈ Rfc4648.plain text, IsBase32Char ch) :
    ∀ ch ∈ text, IsBase32Char ch := by
  intro ch member
  by_cases spacing : Rfc4648.isSpacing ch = true
  · exact .inl (spacing_char spacing).1
  · apply isBase32Char_of_toUpper
    apply valid
    apply List.mem_map_of_mem
    exact List.mem_filter.mpr ⟨member, by simp [spacing]⟩

theorem digit_alphabet : ∀ value : Fin 32,
    Rfc4648.digit (Rfc4648.alphabet.getD value 0) = some value.val := by
  decide +kernel

section Encoding

variable (bytes : SecureBytes)

/-- The digits of the encoding are the groups it was made from. -/
theorem base32Digits_encodeUnpadded :
    base32Digits (Rfc4648.encodeUnpadded bytes) =
      BitString.regroup 5 (concat 8 (byteValues bytes)) := by
  unfold base32Digits Rfc4648.encodeUnpadded
  rw [List.filterMap_map]
  have same : ∀ value ∈ BitString.regroup 5 (concat 8 (byteValues bytes)),
      (Rfc4648.digit ∘ fun value => Rfc4648.alphabet.getD value 0) value =
        some value := by
    intro value member
    exact digit_alphabet ⟨value, BitString.groups_lt member⟩
  rw [List.filterMap_congr same, List.filterMap_some]

theorem encodeUnpadded_valid :
    ∀ ch ∈ Rfc4648.encodeUnpadded bytes, IsBase32Char ch := by
  intro ch member
  obtain ⟨value, inGroups, rfl⟩ := List.mem_map.mp member
  have found := digit_alphabet ⟨value, BitString.groups_lt inGroups⟩
  dsimp only at found
  exact .inr (by rw [found]; rfl)

theorem base32Digits_encode :
    base32Digits (Rfc4648.encode bytes) =
      BitString.regroup 5 (concat 8 (byteValues bytes)) := by
  have padding : Rfc4648.digit 0x3D = none := by decide
  rw [Rfc4648.encode, base32Digits, List.filterMap_append,
    List.filterMap_replicate_of_none padding, List.append_nil]
  exact base32Digits_encodeUnpadded bytes

theorem encode_valid : ∀ ch ∈ Rfc4648.encode bytes, IsBase32Char ch := by
  intro ch member
  rcases List.mem_append.mp member with inText | inPadding
  · exact encodeUnpadded_valid bytes ch inText
  · rw [(List.mem_replicate.mp inPadding).2]
    exact .inl (by decide)

end Encoding

/-- A text that writes the bytes has their groups of five as digits and nothing
else but separators. -/
theorem Rfc4648.Writes.digits {text : SecureString} {bytes : SecureBytes}
    (writes : Rfc4648.Writes text bytes) :
    (∀ ch ∈ text, IsBase32Char ch) ∧
      base32Digits text =
        BitString.regroup 5 (concat 8 (byteValues bytes)) := by
  rw [← base32Digits_plain text]
  rcases writes with padded | unpadded
  · refine ⟨valid_of_plain ?_, ?_⟩
    · rw [padded]
      exact encode_valid bytes
    · rw [padded]
      exact base32Digits_encode bytes
  · refine ⟨valid_of_plain ?_, ?_⟩
    · rw [unpadded]
      exact encodeUnpadded_valid bytes
    · rw [unpadded]
      exact base32Digits_encodeUnpadded bytes

theorem byteValues_inj {bytes others : SecureBytes}
    (same : byteValues bytes = byteValues others) : bytes = others :=
  List.map_injective_iff.mpr (fun _ _ => UInt8.toNat_inj.mp) same

/-- Decoding what was encoded gives the bytes back. -/
theorem decodeBase32_of_writes {text : SecureString} {bytes : SecureBytes}
    (given : bytes ≠ []) (writes : Rfc4648.Writes text bytes) :
    decodeBase32 text = .ok bytes := by
  obtain ⟨valid, digits⟩ := writes.digits
  obtain ⟨zeros, few, regrouped⟩ :=
    BitString.concat_regroup (by decide : 0 < 5)
      (concat 8 (byteValues bytes))
  rw [← digits] at regrouped
  have lengths := congrArg List.length regrouped
  simp only [List.length_append, BitString.length_concat, byteValues,
    List.length_map, List.length_replicate] at lengths
  have some : 0 < bytes.length := List.length_pos_iff.mpr given
  obtain ⟨decoded, returned, _, leading⟩ :=
    decodeBase32_of_valid valid (by omega)
  have whole : 5 * (base32Digits text).length / 8 = bytes.length := by omega
  have size : (concat 8 (byteValues bytes)).length = 8 * bytes.length := by
    simp [byteValues]
  rw [whole, regrouped, List.take_left' size] at leading
  rw [returned, byteValues_inj (BitString.concat_inj (by decide)
    (fun _ => byteValues_lt) (fun _ => byteValues_lt) leading)]

/-! ## Main result -/

/-- For texts of any length: `decode_base32` throws exactly if there is an
invalid character or there are fewer than two digits; otherwise it returns the
bytes that the leading bits of the digits make; and it inverts the encoding of
RFC 4648, however that is formatted. -/
theorem base32_decoding_correct :
    (∀ text, (∃ error, decodeBase32 text = .error error) ↔
      (∃ ch ∈ text, ¬ IsBase32Char ch) ∨ (base32Digits text).length < 2) ∧
    (∀ text bytes, decodeBase32 text = .ok bytes →
      bytes.length = 5 * (base32Digits text).length / 8 ∧
        concat 8 (byteValues bytes) = (concat 5 (base32Digits text)).take
          (8 * (5 * (base32Digits text).length / 8))) ∧
    ∀ text bytes, bytes ≠ [] → Rfc4648.Writes text bytes →
      decodeBase32 text = .ok bytes := by
  refine ⟨decodeBase32_throws_iff, ?_,
    fun _ _ given writes => decodeBase32_of_writes given writes⟩
  intro text bytes returned
  have fine := mt (decodeBase32_throws_iff text).mpr (by
    rintro ⟨error, threw⟩
    rw [returned] at threw
    cases threw)
  simp only [not_or, not_exists, not_and, not_not, Nat.not_lt] at fine
  obtain ⟨decoded, same, facts⟩ := decodeBase32_of_valid fine.1 fine.2
  rw [returned] at same
  cases same
  exact facts

/-- The three bytes `foo`, with a line break into groups and in lower case. -/
theorem base32_decoding_correct_foo :
    decodeBase32 (textBytes "mz-xw 6===") = .ok (textBytes "foo") :=
  base32_decoding_correct.2.2 (textBytes "mz-xw 6===") (textBytes "foo")
    (by decide) (by decide)

end DuckPass
