/-
Module: DuckPass.Proofs.VaultAccess
Purpose: Loading a vault is safe whatever the file holds: the recorded reading
  code computes what the plain one does, stays within its buffers, derives at
  most one key at a bounded cost, and goes round its loop no more often than
  the buffer has room for entries.
Trusted boundary: the primitives of `DuckPass.Core.Crypto`.
Main exports: Access.readEntry_computes, Access.deserialize_computes,
  Access.loadVault_computes, Access.rounds_le, load_vault_safe
-/
import DuckPass.Core.VaultAccess
import DuckPass.Proofs.LegacyFormat

namespace DuckPass

/-- A safe access to a buffer. -/
def VaultAccess.Local (access : VaultAccess) : Prop :=
  access.Safe ∧ access.isArgon2id = false ∧ access.isRound = false

namespace Access

open Traced (Computes)
open VaultAccess (Local Safe)

/-! ## Readers -/

/-- A byte inside of the buffer. -/
theorem byte_computes {bytes : SecureBytes} {index : Nat}
    (inside : index < bytes.length) :
    Computes Local (byte bytes index) (.ok bytes[index]) := by
  have value : bytes.getD index 0 = bytes[index] :=
    List.getD_eq_getElem bytes 0 inside
  rw [← value]
  exact .emit_bind ⟨inside, rfl, rfl⟩ (.pure _)

/-- A slice inside of the buffer. -/
theorem slice_computes {bytes : SecureBytes} {start count : Nat}
    (inside : start + count ≤ bytes.length) :
    Computes Local (slice bytes start count)
      (.ok ((bytes.drop start).take count)) :=
  .emit_bind ⟨inside, rfl, rfl⟩ (.pure _)

/-- A difference that does not wrap around. -/
theorem difference_computes {minuend subtrahend : Nat}
    (fits : subtrahend ≤ minuend) :
    Computes Local (difference minuend subtrahend)
      (.ok (minuend - subtrahend)) :=
  .emit_bind ⟨fits, rfl, rfl⟩ (.pure _)

/-- `read_uint32` accesses what it has checked. -/
theorem readUint32_computes (bytes : SecureBytes) (offset : Nat) :
    Computes Local (readUint32 bytes offset)
      (DuckPass.readUint32 bytes offset) := by
  unfold readUint32 DuckPass.readUint32
  by_cases short : offset + 4 > bytes.length
  · rw [if_pos short, dif_pos short]
    exact .fail _
  · rw [if_neg short, dif_neg short]
    exact .ok_bind (byte_computes (by omega))
      (.ok_bind (byte_computes (by omega))
        (.ok_bind (byte_computes (by omega))
          (.ok_bind (byte_computes (by omega)) (.pure _))))

/-- The loop over eight bytes. -/
theorem orBytes_computes {bytes : SecureBytes} {offset : Nat}
    (inside : offset + 8 ≤ bytes.length) (positions : List (Fin 8))
    (value : UInt64) :
    Computes Local (orBytes bytes offset positions value)
      (.ok (positions.foldl
        (fun value (i : Fin 8) =>
          value |||
            (bytes[offset + i.val].toUInt64 <<< UInt64.ofNat (i.val * 8)))
        value)) := by
  induction positions generalizing value with
  | nil => exact .pure value
  | cons position positions inductionHypothesis =>
      exact .ok_bind (byte_computes (by omega)) (inductionHypothesis _)

/-- `read_uint64` accesses what it has checked. -/
theorem readUint64_computes (bytes : SecureBytes) (offset : Nat) :
    Computes Local (readUint64 bytes offset)
      (DuckPass.readUint64 bytes offset) := by
  unfold readUint64 DuckPass.readUint64
  by_cases short : offset + 8 > bytes.length
  · rw [if_pos short, dif_pos short]
    exact .fail _
  · rw [if_neg short, dif_neg short]
    exact .ok_bind (orBytes_computes (Nat.le_of_not_lt short) _ _) (.pure _)

/-- `read_string` accesses what it has checked. -/
theorem readString_computes (bytes : SecureBytes) (offset : Nat) :
    Computes Local (readString bytes offset)
      (DuckPass.readString bytes offset) := by
  apply (readUint32_computes bytes offset).bind
  rintro ⟨length, next⟩ read
  have inside := readUint32_next read
  apply Computes.ok_bind (difference_computes (by omega))
  apply Computes.guard
  intro enough
  exact .ok_bind (slice_computes (by omega)) (.pure _)

/-- The fields of an entry. -/
theorem readEntry_computes (bytes : SecureBytes) (version : UInt32)
    (offset : Nat) :
    Computes Local (readEntry bytes version offset)
      (DuckPass.readEntry bytes version offset) := by
  unfold readEntry DuckPass.readEntry
  apply (readString_computes bytes offset).bind
  rintro ⟨service, afterService⟩ _
  apply (readString_computes bytes afterService).bind
  rintro ⟨username, afterUsername⟩ _
  apply (readString_computes bytes afterUsername).bind
  rintro ⟨password, afterPassword⟩ _
  apply Computes.ite_bind
  · intro _
    exact readUint64_computes bytes afterPassword
  · intro _
    exact .pure _
  rintro ⟨lastUpdated, afterTime⟩ _
  apply Computes.ite_bind
  · intro _
    exact readString_computes bytes afterTime
  · intro _
    exact .pure _
  rintro ⟨totpSecret, afterSecret⟩ _
  exact .pure _

/-! ## The payload -/

/-- An access of `Vault::deserialize`: a local one, or a new round. -/
def Payload (access : VaultAccess) : Prop :=
  access.Safe ∧ access.isArgon2id = false

/-- The loop over the entries, by induction on those left. -/
theorem deserializeLoop_computes (bytes : SecureBytes) (version : UInt32)
    (remaining offset : Nat) (vault : Vault) (clock : Clock) :
    Computes Payload (deserializeLoop bytes version remaining offset vault
        clock)
      (DuckPass.deserializeLoop bytes version remaining offset vault
        clock) := by
  induction remaining generalizing offset vault clock with
  | zero => exact .pure _
  | succ remaining inductionHypothesis =>
      apply Computes.emit_bind ⟨trivial, rfl⟩
      apply ((readEntry_computes bytes version offset).mono
        fun _ fine => ⟨fine.1, fine.2.1⟩).bind
      rintro ⟨entry, next⟩ _
      exact inductionHypothesis _ _ _

/-- The payload. -/
theorem deserialize_computes (bytes : SecureBytes) (version : UInt32)
    (clock : Clock) :
    Computes Payload (deserialize bytes version clock)
      (Vault.deserialize bytes version clock) := by
  unfold deserialize Vault.deserialize
  split
  · exact .pure _
  · apply ((readUint32_computes bytes 0).mono
      fun _ fine => ⟨fine.1, fine.2.1⟩).bind
    rintro ⟨numEntries, next⟩ _
    exact deserializeLoop_computes _ _ _ _ _ _

/-- A round that ends normally has moved on by the three lengths of an
entry. -/
theorem readEntry_progress {bytes : SecureBytes} {version : UInt32}
    {offset next : Nat} {entry : VaultEntry}
    (read : DuckPass.readEntry bytes version offset = .ok (entry, next)) :
    offset + 12 ≤ next ∧ next ≤ bytes.length := by
  have taken := readEntry_next read
  simp only [VaultEntry.baseSize, accountSize] at taken
  omega

/-- The measure of the loop: every round but the last pays for itself with
twelve bytes. -/
theorem deserializeLoop_rounds {bytes : SecureBytes} {offset : Nat}
    (inside : offset ≤ bytes.length) (version : UInt32) (remaining : Nat)
    (vault : Vault) (clock : Clock) :
    12 * (deserializeLoop bytes version remaining offset vault clock).count
        VaultAccess.isRound + offset ≤ bytes.length + 12 := by
  induction remaining generalizing offset vault clock with
  | zero =>
      rw [deserializeLoop, Traced.count_pure]
      omega
  | succ remaining inductionHypothesis =>
      have entry := readEntry_computes bytes version offset
      have quiet : (readEntry bytes version offset).count
          VaultAccess.isRound = 0 :=
        entry.count_eq_zero fun _ fine => fine.2.2
      have counted : VaultAccess.round.isRound = true := rfl
      rw [deserializeLoop, Traced.count_emit_bind, Traced.count_bind, quiet,
        entry.result, if_pos counted]
      cases read : DuckPass.readEntry bytes version offset with
      | error error =>
          dsimp only
          omega
      | ok result =>
          obtain ⟨entry, next⟩ := result
          obtain ⟨paid, nextInside⟩ := readEntry_progress read
          have later := inductionHypothesis nextInside
            (vault.addEntry entry clock).1 (vault.addEntry entry clock).2
          dsimp only
          omega

/-- Every round takes at least twelve bytes, whatever count the payload
announces. -/
theorem rounds_le (bytes : SecureBytes) (version : UInt32) (clock : Clock) :
    (deserialize bytes version clock).count VaultAccess.isRound ≤
      (bytes.length - 4) / 12 + 1 := by
  unfold deserialize
  split
  · exact Nat.zero_le _
  · have word := readUint32_computes bytes 0
    have quiet : (readUint32 bytes 0).count VaultAccess.isRound = 0 :=
      word.count_eq_zero fun _ fine => fine.2.2
    rw [Traced.count_bind, quiet, word.result]
    cases read : DuckPass.readUint32 bytes 0 with
    | error error => exact Nat.zero_le _
    | ok result =>
        obtain ⟨numEntries, next⟩ := result
        obtain ⟨rfl, inside⟩ := readUint32_next read
        have rounds := deserializeLoop_rounds inside version
          numEntries.toNat Vault.empty clock
        dsimp only
        omega

/-- A loop that ends normally found twelve bytes for every round. -/
theorem deserializeLoop_room {bytes : SecureBytes} {version : UInt32}
    {remaining offset : Nat} {vault : Vault} {clock : Clock}
    {result : Vault × Clock} (inside : offset ≤ bytes.length)
    (finished : DuckPass.deserializeLoop bytes version remaining offset vault
      clock = .ok result) :
    offset + 12 * remaining ≤ bytes.length := by
  induction remaining generalizing offset vault clock with
  | zero => exact inside
  | succ remaining inductionHypothesis =>
      obtain ⟨entry, next, read, later⟩ := deserializeLoop_succ_eq_ok finished
      obtain ⟨paid, nextInside⟩ := readEntry_progress read
      have rest := inductionHypothesis nextInside later
      omega

/-- So there are not more entries than the payload has room for. -/
theorem deserialize_entries_le {bytes : SecureBytes} {version : UInt32}
    {clock rest : Clock} {vault : Vault}
    (finished : Vault.deserialize bytes version clock = .ok (vault, rest)) :
    vault.entries.length ≤ (bytes.length - 4) / 12 := by
  unfold Vault.deserialize at finished
  split at finished
  · cases finished
    exact Nat.zero_le _
  · obtain ⟨⟨numEntries, next⟩, read, looped⟩ := bind_eq_ok.mp finished
    obtain ⟨rfl, inside⟩ := readUint32_next read
    have room := deserializeLoop_room inside looped
    have count := deserializeLoop_count looped
    rw [show Vault.empty.entries.length = 0 from rfl] at count
    omega

/-! ## The vault file -/

/-- The comparison with the magic bytes. -/
theorem matchesMagic_computes {blob magic : SecureBytes} {offset : Nat}
    (inside : offset + magic.length ≤ blob.length) :
    Computes Local (matchesMagic blob magic offset)
      (.ok (decide ((blob.drop offset).take magic.length = magic))) := by
  induction magic generalizing offset with
  | nil => exact .pure true
  | cons expected magic inductionHypothesis =>
      rw [List.length_cons] at inside ⊢
      have here : offset < blob.length := by omega
      have front : (blob.drop offset).take (magic.length + 1) =
          blob[offset] :: (blob.drop (offset + 1)).take magic.length := by
        rw [List.drop_eq_getElem_cons here, List.take_succ_cons]
      apply Computes.ok_bind (byte_computes here)
      rw [front]
      by_cases differs : blob[offset] ≠ expected
      · rw [if_pos differs]
        have mismatch : ¬ blob[offset] ::
            (blob.drop (offset + 1)).take magic.length =
              expected :: magic := by
          intro same
          exact differs (List.cons.inj same).1
        rw [decide_eq_false mismatch]
        exact .pure false
      · have same := of_not_not differs
        rw [if_neg differs, same]
        have rest := @inductionHypothesis (offset + 1) (by omega)
        simpa only [List.cons.injEq, true_and] using rest

/-- The associated data of a blob that is long enough. -/
theorem headerAad_computes {blob : SecureBytes}
    (long : headerSize ≤ blob.length) (version : UInt32) :
    Computes Local (headerAad blob version)
      (.ok (if version ≥ 2 then blob.take headerSize else [])) := by
  unfold headerAad
  split
  · exact slice_computes (by omega)
  · exact .pure _

/-- The header. -/
theorem parseVaultHeader_computes (blob : SecureBytes) :
    Computes Local (parseVaultHeader blob)
      (DuckPass.parseVaultHeader blob) := by
  unfold parseVaultHeader DuckPass.parseVaultHeader
  apply Computes.guard
  intro long
  have sizes : headerSize = 48 ∧ saltBytes = 16 ∧ ivBytes = 12 :=
    ⟨rfl, rfl, rfl⟩
  have magic : magicBytes.length = 4 := rfl
  have matched := @matchesMagic_computes blob magicBytes 0 (by omega)
  rw [List.drop_zero, magic] at matched
  apply Computes.ok_bind matched
  by_cases isVault : blob.take 4 = magicBytes
  · rw [if_neg (not_not_intro isVault), decide_eq_true isVault,
      if_neg (not_not_intro rfl)]
    apply (readUint32_computes blob 4).bind
    rintro ⟨version, afterVersion⟩ versionRead
    apply Computes.guard
    intro _
    apply Computes.ok_bind (headerAad_computes (by omega) version)
    apply (readUint32_computes blob afterVersion).bind
    rintro ⟨timeCost, afterTime⟩ timeRead
    apply (readUint32_computes blob afterTime).bind
    rintro ⟨memoryCost, afterMemory⟩ memoryRead
    apply (readUint32_computes blob afterMemory).bind
    rintro ⟨parallelism, afterParallelism⟩ parallelismRead
    have versionNext := readUint32_next versionRead
    have timeNext := readUint32_next timeRead
    have memoryNext := readUint32_next memoryRead
    have parallelismNext := readUint32_next parallelismRead
    apply Computes.guard
    intro _
    apply Computes.ok_bind (slice_computes (by omega))
    apply Computes.ok_bind (slice_computes (by omega))
    apply Computes.ok_bind (difference_computes (by omega))
    apply Computes.ok_bind (slice_computes (by omega))
    have rest : (blob.drop (afterParallelism + saltBytes + ivBytes)).take
        (blob.length - (afterParallelism + saltBytes + ivBytes)) =
          blob.drop (afterParallelism + saltBytes + ivBytes) := by
      rw [← List.length_drop, List.take_length]
    rw [rest]
    exact .pure _
  · rw [if_pos isVault, decide_eq_false isVault, if_pos Bool.false_ne_true]
    exact .fail _

/-- What a header that was parsed asks of the key derivation. -/
theorem parseVaultHeader_affordable {blob : SecureBytes}
    {header : VaultHeader}
    (parsed : DuckPass.parseVaultHeader blob = .ok header) :
    (VaultAccess.argon2id header.kdfParams).Safe := by
  unfold DuckPass.parseVaultHeader at parsed
  obtain ⟨_, parsed⟩ := throwIf_eq_ok parsed
  obtain ⟨_, parsed⟩ := throwIf_eq_ok parsed
  obtain ⟨⟨version, _⟩, _, parsed⟩ := bind_eq_ok.mp parsed
  obtain ⟨_, parsed⟩ := throwIf_eq_ok parsed
  obtain ⟨⟨timeCost, _⟩, _, parsed⟩ := bind_eq_ok.mp parsed
  obtain ⟨⟨memoryCost, _⟩, _, parsed⟩ := bind_eq_ok.mp parsed
  obtain ⟨⟨parallelism, _⟩, _, parsed⟩ := bind_eq_ok.mp parsed
  obtain ⟨within, parsed⟩ := throwIf_eq_ok parsed
  cases parsed
  rw [not_or, not_or] at within
  obtain ⟨memory, time, lanes⟩ := within
  exact ⟨UInt32.le_iff_toNat_le.mp (UInt32.not_lt.mp memory),
    UInt32.le_iff_toNat_le.mp (UInt32.not_lt.mp time),
    UInt32.le_iff_toNat_le.mp (UInt32.not_lt.mp lanes)⟩

/-- The decryption, whose blob is long enough for the tag. -/
theorem decryptData_computes (primitives : Primitives)
    (cipherFault : Option String) (encryptedBlob key iv aad : SecureBytes) :
    Computes Local
      (decryptData primitives cipherFault encryptedBlob key iv aad)
      (DuckPass.decryptData primitives cipherFault encryptedBlob key iv
        aad) := by
  unfold decryptData DuckPass.decryptData
  split
  · exact .fail _
  · next long =>
      apply Computes.ok_bind (difference_computes (Nat.le_of_not_lt long))
      apply Computes.ok_bind (slice_computes (by omega))
      apply Computes.ok_bind (difference_computes (Nat.le_of_not_lt long))
      apply Computes.ok_bind (slice_computes (by omega))
      have tail : (encryptedBlob.drop (encryptedBlob.length - tagBytes)).take
          tagBytes =
            encryptedBlob.drop (encryptedBlob.length - tagBytes) := by
        apply List.take_of_length_le
        rw [List.length_drop]
        omega
      rw [tail, List.drop_zero]
      exact .quiet _

/-- `load_vault` is the plain one, with safe accesses only. -/
theorem loadVault_computes (primitives : Primitives) (faults : LoadFaults)
    (files : Files) (vaultPath : Path) (masterPassword : SecureString)
    (clock : Clock) :
    Computes Safe
      (loadVault primitives faults files vaultPath masterPassword clock)
      (DuckPass.loadVault primitives faults files vaultPath masterPassword
        clock) := by
  apply (Computes.quiet _).bind
  intro fullBlob _
  apply ((parseVaultHeader_computes fullBlob).mono fun _ fine => fine.1).bind
  intro header parsed
  have derived : Computes Safe
      (deriveKeyFromPassword primitives masterPassword header.salt
        header.kdfParams)
      (DuckPass.deriveKeyFromPassword primitives masterPassword header.salt
        header.kdfParams) :=
    .emit_bind (parseVaultHeader_affordable parsed) (.quiet _)
  apply derived.bind
  intro key _
  apply ((decryptData_computes primitives faults.cipher header.ciphertext key
    header.iv header.aad).mono fun _ fine => fine.1).bind
  intro plaintextBytes _
  exact (deserialize_computes plaintextBytes header.version clock).mono
    fun _ fine => fine.1

/-- The key is derived at most once. -/
theorem argon2id_le (primitives : Primitives) (faults : LoadFaults)
    (files : Files) (vaultPath : Path) (masterPassword : SecureString)
    (clock : Clock) :
    (loadVault primitives faults files vaultPath masterPassword clock).count
      VaultAccess.isArgon2id ≤ 1 := by
  have read : Computes Local (Traced.quiet _) _ :=
    .quiet (readFile faults.read files vaultPath)
  apply read.count_bind_le fun _ fine => fine.2.1
  intro fullBlob _
  apply (parseVaultHeader_computes fullBlob).count_bind_le
    fun _ fine => fine.2.1
  intro header _
  -- Nothing behind the one derivation derives a key.
  have afterwards : ∀ key,
      (decryptData primitives faults.cipher header.ciphertext key header.iv
        header.aad >>= fun plaintextBytes =>
          deserialize plaintextBytes header.version clock).count
        VaultAccess.isArgon2id ≤ 0 := by
    intro key
    apply (decryptData_computes primitives faults.cipher header.ciphertext key
      header.iv header.aad).count_bind_le fun _ fine => fine.2.1
    intro plaintextBytes _
    exact Nat.le_of_eq ((deserialize_computes plaintextBytes header.version
      clock).count_eq_zero fun _ fine => fine.2)
  have derivation : (deriveKeyFromPassword primitives masterPassword
      header.salt header.kdfParams).count VaultAccess.isArgon2id = 1 := rfl
  rw [Traced.count_bind, derivation]
  cases (deriveKeyFromPassword primitives masterPassword header.salt
      header.kdfParams).result with
  | error error => exact Nat.le_refl 1
  | ok key => exact Nat.add_le_add_left (afterwards key) 1

end Access

/-! ## Main result -/

/-- Whatever bytes the file holds and whatever the password: loading it throws
or returns a vault without ever leaving a buffer, wrapping a size or deriving
more than one, affordable, key; and reading any payload in any version takes as
many rounds as it has room for entries and perhaps one more, whatever count it
declares, and returns no more entries than that, of distinct services. -/
theorem load_vault_safe (primitives : Primitives) (faults : LoadFaults)
    (files : Files) (vaultPath : Path) (masterPassword : SecureString)
    (clock : Clock) :
    (Access.loadVault primitives faults files vaultPath masterPassword
          clock).Computes VaultAccess.Safe
        (loadVault primitives faults files vaultPath masterPassword clock) ∧
      (Access.loadVault primitives faults files vaultPath masterPassword
          clock).count VaultAccess.isArgon2id ≤ 1 ∧
      ∀ (bytes : SecureBytes) (version : UInt32) (now : Clock),
        (Access.deserialize bytes version now).Computes VaultAccess.Safe
            (Vault.deserialize bytes version now) ∧
          (Access.deserialize bytes version now).count VaultAccess.isRound ≤
            (bytes.length - 4) / 12 + 1 ∧
          ∀ vault rest,
            Vault.deserialize bytes version now = .ok (vault, rest) →
              vault.entries.length ≤ (bytes.length - 4) / 12 ∧
                (vault.entries.map VaultEntry.service).Nodup := by
  refine ⟨Access.loadVault_computes primitives faults files vaultPath
      masterPassword clock,
    Access.argon2id_le primitives faults files vaultPath masterPassword clock,
    ?_⟩
  intro bytes version now
  refine ⟨(Access.deserialize_computes bytes version now).mono
      fun _ fine => fine.1, Access.rounds_le bytes version now, ?_⟩
  intro vault rest finished
  exact ⟨Access.deserialize_entries_le finished, vault.distinct⟩

end DuckPass
