/-
Module: DuckPass.Proofs.PasswordGenerator
Purpose: A generated password is read off the stream of random bytes, whatever
  the batches they come in, and no password is more likely than another.
Trusted boundary: as for `DuckPass.Core.PasswordGenerator`.
Main exports: sources_eq_two, fillPassword_eq, generateLoop_spec,
  generatePassword_returns, generated_password_unbiased
-/
import DuckPass.Core.PasswordGenerator
import DuckPass.Lib.RejectionSampling
import Mathlib.Data.FinEnum
import Mathlib.Data.List.GetD

namespace DuckPass

open RejectionSampling (collect countStreams sources)

/-! ## The alphabet -/

theorem passwordChars_length : passwordChars.length = 90 := by
  decide +kernel

/-- No character is listed twice. -/
theorem passwordChars_nodup : passwordChars.Nodup := by decide +kernel

/-- The largest multiple of 90 that fits. -/
theorem maxUsable_eq : maxUsable = 180 := by decide +kernel

/-- The bytes that are not rejected. -/
def usable (b : UInt8) : Bool := decide (b < 180)

theorem usable_iff {b : UInt8} : usable b = true ↔ b.toNat < 180 := by
  unfold usable
  rw [decide_eq_true_iff]
  exact UInt8.lt_iff_toNat_lt

/-- The character of a byte is found by the remainder. -/
theorem passwordChar_eq (b : UInt8) :
    passwordChar b = passwordChars.getD (b.toNat % 90) 0 := by
  unfold passwordChar
  rw [passwordChars_length]

/-- Every byte stands for one of the characters. -/
theorem passwordChar_mem (b : UInt8) : passwordChar b ∈ passwordChars := by
  have inside : b.toNat % 90 < passwordChars.length := by
    rw [passwordChars_length]
    exact Nat.mod_lt _ (by omega)
  rw [passwordChar_eq, List.getD_eq_getElem _ _ inside]
  exact List.getElem_mem inside

/-- And for which one is decided by the remainder alone. -/
theorem passwordChar_eq_iff (b : UInt8) {i : Nat}
    (inside : i < passwordChars.length) :
    passwordChar b = passwordChars[i] ↔ b.toNat % 90 = i := by
  have inside' : b.toNat % 90 < passwordChars.length := by
    rw [passwordChars_length]
    exact Nat.mod_lt _ (by omega)
  rw [passwordChar_eq, List.getD_eq_getElem _ _ inside']
  exact passwordChars_nodup.getElem_inj_iff

/-- Every character of the alphabet comes from exactly two bytes. -/
theorem sources_eq_two {c : UInt8} (member : c ∈ passwordChars) :
    sources usable passwordChar c = 2 := by
  obtain ⟨i, inside, rfl⟩ := List.getElem_of_mem member
  have small : i < 90 := passwordChars_length ▸ inside
  unfold sources
  apply Finset.card_eq_two.mpr
  refine ⟨UInt8.ofNat i, UInt8.ofNat (i + 90), ?_, ?_⟩
  · rw [ne_eq, ← UInt8.toNat_inj, UInt8.toNat_ofNat', UInt8.toNat_ofNat']
    omega
  · ext b
    rw [Finset.mem_filter, Finset.mem_insert, Finset.mem_singleton,
      usable_iff, passwordChar_eq_iff b inside, ← UInt8.toNat_inj,
      ← UInt8.toNat_inj, UInt8.toNat_ofNat', UInt8.toNat_ofNat']
    have byte := b.toNat_lt
    constructor
    · rintro ⟨_, below, same⟩
      omega
    · intro either
      exact ⟨Finset.mem_univ b, by omega, by omega⟩

/-! ## The loops -/

/-- A batch adds what can be read off it, up to the length. -/
theorem fillPassword_eq {length : Nat} (randomBytes : SecureBytes)
    {password : SecureString} (short : password.length < length) :
    fillPassword length randomBytes password =
      password ++ collect usable passwordChar (length - password.length)
        randomBytes := by
  induction randomBytes generalizing password with
  | nil => rw [fillPassword, RejectionSampling.collect_nil, List.append_nil]
  | cons b randomBytes inductionHypothesis =>
      obtain ⟨more, left⟩ := Nat.exists_eq_add_of_lt short
      unfold fillPassword
      rw [maxUsable_eq]
      split
      · next below =>
          have accepted : usable b = true := decide_eq_true below
          have remaining : length - password.length = more + 1 := by omega
          rw [remaining, RejectionSampling.collect_cons_accepted accepted]
          dsimp only
          split
          · next full =>
              rw [List.length_append, List.length_singleton] at full
              have none : more = 0 := by omega
              rw [none, RejectionSampling.collect_zero]
          · next unfinished =>
              rw [List.length_append, List.length_singleton] at unfinished
              rw [inductionHypothesis (by simp; omega), List.append_assoc]
              rw [List.length_append, List.length_singleton]
              have fewer : length - (password.length + 1) = more := by omega
              rw [fewer]
              rfl
      · next above =>
          have rejected : usable b = false := decide_eq_false above
          rw [RejectionSampling.collect_cons_rejected rejected]
          exact inductionHypothesis short

/-- What the loop records and what it ends with, from a password on that is
not too long. -/
structure ReadsStream (random : RandomSource) (length call : Nat)
    (password : SecureString) (run : RecordedPassword SecureString) :
    Prop where
  reads : ∀ final, run.result = .ok final →
    final.length = length ∧
      final = password ++ collect usable passwordChar
        (length - password.length) run.events.flatten
  noOverflow : run.result ≠ .error .overflow
  supplied : ∀ i batch, run.events[i]? = some batch →
    ∃ size bytes, random (call + i) size = some bytes ∧ bytes.val = batch

/-- A failure has read the stream as far as it got. -/
theorem ReadsStream.fail {random : RandomSource} {length call : Nat}
    {password : SecureString} {fault : GenerateFault}
    (other : fault ≠ .overflow) :
    ReadsStream random length call password (Traced.fail fault) where
  reads final impossible := by cases impossible
  noOverflow same := other (Except.error.inj same)
  supplied i batch impossible := by cases impossible

/-- A password that is long enough reads nothing more. -/
theorem ReadsStream.done {random : RandomSource} {length call : Nat}
    {password : SecureString} (full : password.length = length) :
    ReadsStream random length call password (pure password) where
  reads final ended := by
    cases ended
    refine ⟨full, ?_⟩
    rw [full, Nat.sub_self, RejectionSampling.collect_zero, List.append_nil]
  noOverflow impossible := by cases impossible
  supplied i batch impossible := by cases impossible

/-- One more batch before the rest. -/
theorem ReadsStream.batch {random : RandomSource} {length call size : Nat}
    {password : SecureString} {bytes : Bytes size}
    {rest : RecordedPassword SecureString}
    (short : password.length < length)
    (given : random call size = some bytes)
    (later : ReadsStream random length (call + 1)
      (fillPassword length bytes.val password) rest) :
    ReadsStream random length call password
      (Traced.emit bytes.val >>= fun _ => rest) where
  reads final ended := by
    obtain ⟨full, result⟩ := later.reads final ended
    refine ⟨full, ?_⟩
    rw [fillPassword_eq _ short] at result
    show final = password ++ collect usable passwordChar
      (length - password.length) (bytes.val :: rest.events).flatten
    rw [List.flatten_cons, RejectionSampling.collect_append, result,
      List.append_assoc, List.length_append, Nat.sub_add_eq]
  noOverflow := later.noOverflow
  supplied i batch recorded := by
    cases i with
    | zero => exact ⟨size, bytes, given, Option.some.inj recorded⟩
    | succ i =>
        obtain ⟨size, bytes, given, same⟩ := later.supplied i batch recorded
        rw [Nat.add_right_comm] at given
        exact ⟨size, bytes, given, same⟩

/-- A batch never makes the password too long. -/
theorem fillPassword_length_le {length : Nat} (randomBytes : SecureBytes)
    {password : SecureString} (short : password.length < length) :
    (fillPassword length randomBytes password).length ≤ length := by
  rw [fillPassword_eq randomBytes short, List.length_append]
  have few : (collect usable passwordChar (length - password.length)
      randomBytes).length ≤ length - password.length := by
    unfold collect
    rw [List.length_map, List.length_take]
    exact Nat.min_le_left _ _
  omega

/-- The number of bytes asked for is an `int` without overflow. -/
theorem asInt_needed {length : Nat} (small : 2 * length ≤ intMax)
    (password : SecureString) (short : password.length < length) :
    asInt ((length - (password.length : Int)) * 2) =
      some ((length - (password.length : Int)) * 2) := by
  unfold intMax at small
  exact if_pos (by omega)

/-- The loop reads the stream from where it is, in batches. -/
theorem generateLoop_spec (random : RandomSource) {length : Nat}
    (small : 2 * length ≤ intMax) (rounds call : Nat)
    {password : SecureString} (bounded : password.length ≤ length) :
    ReadsStream random length call password
      (generateLoop random length rounds call password) := by
  induction rounds generalizing call password with
  | zero => exact ReadsStream.fail (by simp)
  | succ rounds inductionHypothesis =>
      unfold generateLoop
      split
      · next more =>
          have short : password.length < length := by omega
          dsimp only
          rw [asInt_needed small password short]
          dsimp only
          cases given : random call
              (max ((length - (password.length : Int)) * 2) 16).toNat with
          | none => exact ReadsStream.fail (by simp)
          | some bytes =>
              apply ReadsStream.batch short given
              exact inductionHypothesis (call + 1)
                (fillPassword_length_le bytes.val short)
      · next full =>
          exact ReadsStream.done (by omega)

/-! ## The loop comes to an end -/

/-- Batches that never are without a usable byte. -/
def RandomSource.Usable (random : RandomSource) : Prop :=
  ∀ call size, 0 < size → ∃ bytes, random call size = some bytes ∧
    ∃ b ∈ bytes.val, usable b = true

/-- A batch with a usable byte makes the password longer. -/
theorem lt_length_fillPassword {length : Nat} {randomBytes : SecureBytes}
    {password : SecureString} (short : password.length < length)
    (byte : ∃ b ∈ randomBytes, usable b = true) :
    password.length < (fillPassword length randomBytes password).length := by
  obtain ⟨b, member, accepted⟩ := byte
  have kept : b ∈ randomBytes.filter usable :=
    List.mem_filter.mpr ⟨member, accepted⟩
  have nonempty := List.length_pos_of_mem kept
  rw [fillPassword_eq randomBytes short, List.length_append]
  unfold collect
  rw [List.length_map, List.length_take]
  omega

/-- With usable bytes in every batch the loop ends. -/
theorem generateLoop_returns {random : RandomSource} (fed : random.Usable)
    {length : Nat} (small : 2 * length ≤ intMax) {rounds : Nat} (call : Nat)
    {password : SecureString} (bounded : password.length ≤ length)
    (enough : length < rounds + password.length) :
    ∃ final, (generateLoop random length rounds call password).result =
      .ok final := by
  induction rounds generalizing call password with
  | zero => omega
  | succ rounds inductionHypothesis =>
      unfold generateLoop
      split
      · next more =>
          have short : password.length < length := by omega
          dsimp only
          rw [asInt_needed small password short]
          obtain ⟨bytes, given, byte⟩ := fed call
            (max ((length - (password.length : Int)) * 2) 16).toNat (by omega)
          dsimp only
          rw [given]
          have longer := lt_length_fillPassword short byte
          exact inductionHypothesis (call + 1)
            (fillPassword_length_le bytes.val short) (by omega)
      · exact ⟨password, rfl⟩

/-- One round for each character is enough. -/
theorem generatePassword_returns {random : RandomSource}
    (fed : random.Usable) {length : Nat} (positive : 0 < length)
    (small : 2 * length ≤ intMax) :
    ∃ password, (generatePassword random (length + 1) length).result =
      .ok password := by
  unfold generatePassword
  rw [if_neg (by omega)]
  exact generateLoop_returns fed small 0 (Nat.zero_le _) (by simp)

/-! ## The password -/

/-- The characters that a stream of random bytes stands for. -/
def passwordOf (length : Nat) (stream : SecureBytes) : SecureString :=
  ((stream.filter fun b => b < 180).take length).map fun b =>
    passwordChars.getD (b.toNat % 90) 0

/-- Rejection sampling on the stream gives the password. -/
theorem collect_eq_passwordOf (length : Nat) (stream : SecureBytes) :
    collect usable passwordChar length stream = passwordOf length stream := by
  unfold collect passwordOf
  rw [funext passwordChar_eq]
  rfl

/-- All characters of a password are of the list. -/
theorem passwordOf_mem {length : Nat} {stream : SecureBytes} {c : UInt8}
    (member : c ∈ passwordOf length stream) : c ∈ passwordChars := by
  rw [← collect_eq_passwordOf] at member
  obtain ⟨b, _, rfl⟩ := List.mem_map.mp member
  exact passwordChar_mem b

/-- What holds of the passwords of one length, whatever the source of random
bytes. -/
structure Unbiased (length : Nat) : Prop where
  images : ∀ target : SecureString, target.length = length →
    (∀ c ∈ target, c ∈ passwordChars) →
      countStreams length (fun bytes : SecureBytes =>
          (∀ b ∈ bytes, b < 180) ∧
            bytes.map (fun b => passwordChars.getD (b.toNat % 90) 0) =
              target) =
        2 ^ length
  uniform : ∀ first second : SecureString, first.length = length →
    second.length = length → (∀ c ∈ first, c ∈ passwordChars) →
      (∀ c ∈ second, c ∈ passwordChars) → ∀ streamLength,
        countStreams streamLength
            (fun stream : SecureBytes => passwordOf length stream = first) =
          countStreams streamLength
            (fun stream : SecureBytes => passwordOf length stream = second)

/-- The counts of the library at this program's numbers. -/
theorem unbiased (length : Nat) : Unbiased length where
  images target sized inside := by
    subst sized
    have counted := @RejectionSampling.count_images _ _ _ _ usable
      passwordChar 2 target fun c member => sources_eq_two (inside c member)
    rw [← counted]
    apply RejectionSampling.countStreams_congr
    intro stream
    rw [funext passwordChar_eq]
    unfold usable
    simp only [decide_eq_true_iff]
  uniform first second sizedFirst sizedSecond insideFirst insideSecond
      streamLength := by
    have same := @RejectionSampling.count_collect_eq _ _ _ _ usable
      passwordChar 2 first second streamLength
      (fun c member => sources_eq_two (insideFirst c member))
      (fun c member => sources_eq_two (insideSecond c member))
      (sizedFirst.trans sizedSecond.symm)
    simp only [sizedFirst, sizedSecond, collect_eq_passwordOf] at same
    exact same

/-- A generated password is what the supplied batches stand for when they are
joined, and what any longer stream stands for; it has the length asked for
and only characters of the alphabet.  Every word of that length over the
alphabet comes from equally many sequences of bytes. -/
theorem generated_password_unbiased (random : RandomSource) (rounds : Nat)
    {length : Int} (positive : 0 < length) (small : 2 * length ≤ intMax) :
    (generatePassword random rounds length).result ≠ .error .overflow ∧
      (∀ i batch,
        (generatePassword random rounds length).events[i]? = some batch →
          ∃ size bytes, random i size = some bytes ∧ bytes.val = batch) ∧
      (∀ password,
        (generatePassword random rounds length).result = .ok password →
          password = passwordOf length.toNat
            (generatePassword random rounds length).events.flatten ∧
          (∀ stream,
            (generatePassword random rounds length).events.flatten <+:
              stream → password = passwordOf length.toNat stream) ∧
          (password.length : Int) = length ∧
          ∀ c ∈ password, c ∈ passwordChars) ∧
      Unbiased length.toNat := by
  obtain ⟨length, rfl⟩ := Int.eq_ofNat_of_zero_le (Int.le_of_lt positive)
  have spec := @generateLoop_spec random length (by omega) rounds 0 []
    (Nat.zero_le length)
  unfold generatePassword
  rw [if_neg (by omega)]
  refine ⟨spec.noOverflow, ?_, ?_, unbiased length⟩
  · intro i batch recorded
    have given := spec.supplied i batch recorded
    rw [Nat.zero_add] at given
    exact given
  · intro password ended
    obtain ⟨sized, reads⟩ := spec.reads password ended
    rw [List.nil_append, List.length_nil, Nat.sub_zero] at reads
    have result := reads.trans (collect_eq_passwordOf _ _)
    refine ⟨result, ?_, congrArg Nat.cast sized, ?_⟩
    · intro stream begins
      rw [reads] at sized
      rw [reads, ← RejectionSampling.collect_of_prefix begins sized]
      exact collect_eq_passwordOf _ _
    · intro c member
      rw [result] at member
      exact passwordOf_mem member

/-- A source whose batches begin with five bytes that are rejected. -/
def sluggishSource : RandomSource := fun _ size =>
  some ⟨(List.replicate 5 (200 : UInt8) ++ List.replicate size 91).take size,
    List.length_take_of_le (by simp; omega)⟩

/-- The first batch of twenty bytes for ten characters is enough. -/
theorem generated_password_unbiased_sluggish :
    (generatePassword sluggishSource 2 10).result =
        .ok (List.replicate 10 0x62) ∧
      List.replicate 10 0x62 = passwordOf 10
        (generatePassword sluggishSource 2 10).events.flatten := by
  have generated : (generatePassword sluggishSource 2 10).result =
      .ok (List.replicate 10 0x62) := by rfl
  exact ⟨generated, ((generated_password_unbiased sluggishSource 2
    (by decide) (by decide)).2.2.1 _ generated).1⟩

end DuckPass
