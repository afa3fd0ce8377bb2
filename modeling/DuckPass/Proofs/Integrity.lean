/-
Module: DuckPass.Proofs.Integrity
Purpose: No file but the one that was written opens, and that one only under
  its password.  The version field, which decides what is authenticated, and
  the key derivation parameters are read before anything is verified.
Trusted boundary: `Authenticates` names what is asked of the primitives.
Main exports: Sealing, Primitives.Authenticates, parseVaultHeader_eq_ok,
  vault_file_integrity
-/
import DuckPass.Proofs.VaultFile
import DuckPass.System.Symbolic

namespace DuckPass

variable {primitives : Primitives} {env : SealEnv} {vault : Vault}
  {password : SecureString} {blob : SecureBytes}

/-- The tuple that one `serialize_and_encrypt_vault` puts through AES-256-GCM:
key, IV, authenticated data, ciphertext and tag. -/
inductive Sealing (primitives : Primitives) (env : SealEnv) (vault : Vault)
    (password : SecureString) :
    (key iv aad ciphertext tag : SecureBytes) → Prop where
  | made {salt : Bytes saltBytes} {iv : Bytes ivBytes} {key : SecureBytes}
      (saltDrawn : env.salt = some salt) (ivDrawn : env.iv = some iv)
      (derived : primitives.argon2idHashRaw currentKdfParams password
        salt.val = .ok key) :
      Sealing primitives env vault password key iv.val
        (packHeader salt.val iv.val)
        (primitives.gcmSeal key iv.val (packHeader salt.val iv.val)
          vault.serialize).1
        (primitives.gcmSeal key iv.val (packHeader salt.val iv.val)
          vault.serialize).2.val

/-- Decryption accepts nothing but what the one encryption produced, and the
key derivation never maps two inputs to one key. -/
structure Primitives.Authenticates (primitives : Primitives) (env : SealEnv)
    (vault : Vault) (password : SecureString) : Prop where
  produced : ∀ {key iv aad ciphertext tag plaintext},
    primitives.gcmOpen key iv aad ciphertext tag = some plaintext →
      Sealing primitives env vault password key iv aad ciphertext tag
  injective : ∀ {params otherParams one other salt otherSalt key},
    primitives.argon2idHashRaw params one salt = .ok key →
    primitives.argon2idHashRaw otherParams other otherSalt = .ok key →
      params = otherParams ∧ one = other ∧ salt = otherSalt

theorem generateRandomBytes_eq_ok {size : Nat} {random : Option (Bytes size)}
    {bytes : Bytes size} (drawn : generateRandomBytes random = .ok bytes) :
    random = some bytes := by
  cases random with
  | none => cases drawn
  | some value =>
      cases drawn
      rfl

/-- A written blob is its header, its ciphertext and its tag. -/
theorem serializeAndEncryptVault_sealing
    (encrypted :
      serializeAndEncryptVault primitives env vault password = .ok blob) :
    ∃ key iv aad ciphertext tag,
      Sealing primitives env vault password key iv aad ciphertext tag ∧
        blob = aad ++ (ciphertext ++ tag) := by
  unfold serializeAndEncryptVault at encrypted
  obtain ⟨salt, saltDrawn, encrypted⟩ := bind_eq_ok.mp encrypted
  obtain ⟨iv, ivDrawn, encrypted⟩ := bind_eq_ok.mp encrypted
  obtain ⟨key, keyEq, encrypted⟩ := bind_eq_ok.mp encrypted
  obtain ⟨body, bodyEq, encrypted⟩ := bind_eq_ok.mp encrypted
  obtain ⟨_, rfl⟩ := encryptData_eq_ok bodyEq
  exact ⟨_, _, _, _, _,
    .made (generateRandomBytes_eq_ok saltDrawn)
      (generateRandomBytes_eq_ok ivDrawn)
      (deriveKeyFromPassword_eq_ok.mp keyEq),
    (Except.ok.inj encrypted).symm⟩

/-- There is only one such tuple. -/
theorem Sealing.unique
    {key iv aad ciphertext tag key' iv' aad' ciphertext' tag' : SecureBytes}
    (one : Sealing primitives env vault password key iv aad ciphertext tag)
    (two : Sealing primitives env vault password key' iv' aad' ciphertext'
      tag') :
    key = key' ∧ aad = aad' ∧ ciphertext = ciphertext' ∧ tag = tag' := by
  cases one with
  | made saltDrawn ivDrawn derived =>
      cases two with
      | made saltDrawn' ivDrawn' derived' =>
          rw [saltDrawn] at saltDrawn'
          rw [ivDrawn] at ivDrawn'
          cases saltDrawn'
          cases ivDrawn'
          rw [derived] at derived'
          cases derived'
          exact ⟨rfl, rfl, rfl, rfl⟩

theorem Sealing.length_aad {key iv aad ciphertext tag : SecureBytes}
    (made : Sealing primitives env vault password key iv aad ciphertext tag) :
    aad.length = headerSize := by
  cases made with
  | @made salt iv => exact length_packHeader salt iv

/-- Whatever the version, the ciphertext is all that follows the header; the
header itself is authenticated or nothing is. -/
theorem parseVaultHeader_eq_ok {header : VaultHeader}
    (parsed : parseVaultHeader blob = .ok header) :
    (header.aad = [] ∨ header.aad = blob.take headerSize) ∧
      header.ciphertext = blob.drop headerSize := by
  unfold parseVaultHeader at parsed
  obtain ⟨_, parsed⟩ := throwIf_eq_ok parsed
  obtain ⟨_, parsed⟩ := throwIf_eq_ok parsed
  obtain ⟨⟨version, afterVersion⟩, versionRead, parsed⟩ :=
    bind_eq_ok.mp parsed
  obtain ⟨_, parsed⟩ := throwIf_eq_ok parsed
  obtain ⟨⟨timeCost, afterTime⟩, timeRead, parsed⟩ := bind_eq_ok.mp parsed
  obtain ⟨⟨memoryCost, afterMemory⟩, memoryRead, parsed⟩ :=
    bind_eq_ok.mp parsed
  obtain ⟨⟨parallelism, offset⟩, lanesRead, parsed⟩ := bind_eq_ok.mp parsed
  obtain ⟨_, parsed⟩ := throwIf_eq_ok parsed
  cases parsed
  have offsetEq : offset + saltBytes + ivBytes = headerSize := by
    have versionNext := readUint32_next versionRead
    have timeNext := readUint32_next timeRead
    have memoryNext := readUint32_next memoryRead
    have lanesNext := readUint32_next lanesRead
    simp only [headerSize]
    omega
  constructor
  · dsimp only
    split
    · exact .inr rfl
    · exact .inl rfl
  · dsimp only
    rw [offsetEq]

/-- A blob that opens is the one that was written, and the password is the one
it was written with. -/
theorem openVaultBlob_authentic {other : SecureBytes}
    {otherPassword : SecureString} {cipherFault : Option String}
    {clock : Clock} {opened : Vault × Clock}
    (encrypted :
      serializeAndEncryptVault primitives env vault password = .ok blob)
    (authenticates : primitives.Authenticates env vault password)
    (finished : openVaultBlob primitives cipherFault other otherPassword
      clock = .ok opened) :
    other = blob ∧ otherPassword = password := by
  obtain ⟨header, key, plaintext, parsed, derived, decrypted, _⟩ :=
    openVaultBlob_eq_ok finished
  obtain ⟨_, accepted⟩ := decryptData_eq_ok decrypted
  have presented := authenticates.produced accepted
  obtain ⟨_, _, aad, ciphertext, tag, written, rfl⟩ :=
    serializeAndEncryptVault_sealing encrypted
  obtain ⟨sameKey, sameAad, sameCiphertext, sameTag⟩ :=
    presented.unique written
  obtain ⟨authenticated, body⟩ := parseVaultHeader_eq_ok parsed
  constructor
  · rcases authenticated with nothing | whole
    · -- A file marked as version 1 authenticates no header, but the written
      -- tag covers one.
      have size := presented.length_aad
      rw [nothing] at size
      cases size
    · have bodyEq : other.drop headerSize = ciphertext ++ tag := by
        rw [← body, ← sameCiphertext, ← sameTag, List.take_append_drop]
      calc other = other.take headerSize ++ other.drop headerSize :=
            (List.take_append_drop headerSize other).symm
        _ = aad ++ (ciphertext ++ tag) := by
            rw [bodyEq, ← whole, sameAad]
  · cases written with
    | made _ _ derivedThen =>
        rw [sameKey] at derived
        exact (authenticates.injective derived derivedThen).2.1

/-- Whatever is put in the place of the vault file, `load_vault` throws unless
it is the file that was written, and it throws on that file too unless it is
given the password. -/
theorem vault_file_integrity
    (encrypted :
      serializeAndEncryptVault primitives env vault password = .ok blob)
    (authenticates : primitives.Authenticates env vault password)
    (faults : LoadFaults) (files : Files) (path : Path) (clock : Clock) :
    (∀ other otherPassword, files path = some other → other ≠ blob →
      ∃ error, loadVault primitives faults files path otherPassword clock =
        .error error) ∧
    (∀ otherPassword, files path = some blob → otherPassword ≠ password →
      ∃ error, loadVault primitives faults files path otherPassword clock =
        .error error) := by
  have authentic : ∀ other otherPassword, files path = some other →
      (∀ opened, loadVault primitives faults files path otherPassword clock =
        .ok opened → other = blob ∧ otherPassword = password) := by
    intro other otherPassword present opened loaded
    obtain ⟨content, contentEq, _, openedEq⟩ := loadVault_eq_ok loaded
    rw [present] at contentEq
    cases contentEq
    exact openVaultBlob_authentic encrypted authenticates openedEq
  constructor
  · intro other otherPassword present differs
    cases loaded : loadVault primitives faults files path otherPassword
        clock with
    | error error => exact ⟨error, rfl⟩
    | ok opened =>
        exact absurd (authentic other otherPassword present opened loaded).1
          differs
  · intro otherPassword present differs
    cases loaded : loadVault primitives faults files path otherPassword
        clock with
    | error error => exact ⟨error, rfl⟩
    | ok opened =>
        exact absurd (authentic blob otherPassword present opened loaded).2
          differs

/-! ## One encryption -/

theorem writeUint32_inj {one other : UInt32}
    (same : writeUint32 [] one = writeUint32 [] other) : one = other := by
  have oneRead := readUint32_readsBack one [] []
  rw [same, readUint32_readsBack other [] []] at oneRead
  simpa using oneRead.symm

namespace Symbolic

/-- A key that spells out what it was derived from. -/
def derivation (params : KdfParams) (password salt : SecureBytes) :
    SecureBytes :=
  writeUint32 [] params.timeCost ++ (writeUint32 [] params.memoryCost ++
    (writeUint32 [] params.parallelism ++ (frame password ++ salt)))

theorem derivation_inj {params otherParams : KdfParams}
    {password otherPassword salt otherSalt : SecureBytes}
    (same : derivation params password salt =
      derivation otherParams otherPassword otherSalt) :
    params = otherParams ∧ password = otherPassword ∧ salt = otherSalt := by
  obtain ⟨sameTime, same⟩ := List.append_inj same rfl
  obtain ⟨sameMemory, same⟩ := List.append_inj same rfl
  obtain ⟨sameLanes, same⟩ := List.append_inj same rfl
  have samePassword := frame_append_inj same
  subst samePassword
  refine ⟨?_, rfl, List.append_cancel_left same⟩
  cases params
  cases otherParams
  rw [KdfParams.mk.injEq]
  exact ⟨writeUint32_inj sameTime, writeUint32_inj sameMemory,
    writeUint32_inj sameLanes⟩

def singleEntry : Vault := Vault.empty.store (entry 0x41 7)

def zeroSalt : SecureBytes := List.replicate saltBytes 0

def zeroIv : SecureBytes := List.replicate ivBytes 0

def onlyKey : SecureBytes :=
  derivation currentKdfParams masterPassword zeroSalt

def onlyCiphertext : SecureBytes :=
  label onlyKey zeroIv (packHeader zeroSalt zeroIv) ++ singleEntry.serialize

/-- Primitives that have sealed one vault and open nothing else. -/
def onlyOnce : Primitives where
  argon2idHashRaw params password salt := .ok (derivation params password salt)
  gcmSeal key iv aad plaintext := (label key iv aad ++ plaintext, tag)
  gcmOpen key iv aad ciphertext otherTag :=
    if key = onlyKey ∧ iv = zeroIv ∧ aad = packHeader zeroSalt zeroIv ∧
        ciphertext = onlyCiphertext ∧ otherTag = tag.val then
      some singleEntry.serialize
    else none

theorem onlyOnce_authenticates :
    onlyOnce.Authenticates calm.encrypt singleEntry masterPassword where
  produced := by
    intro key iv aad ciphertext otherTag plaintext accepted
    simp only [onlyOnce] at accepted
    split at accepted
    · next tuple =>
        obtain ⟨rfl, rfl, rfl, rfl, rfl⟩ := tuple
        exact @Sealing.made onlyOnce calm.encrypt singleEntry masterPassword
          ⟨zeroSalt, rfl⟩ ⟨zeroIv, rfl⟩ onlyKey rfl rfl rfl
    · cases accepted
  injective := by
    intro params otherParams one other salt otherSalt key derived derivedToo
    simp only [onlyOnce, Except.ok.injEq] at derived derivedToo
    exact derivation_inj (derived.trans derivedToo.symm)

/-- The file that was written. -/
def onlyBlob : SecureBytes :=
  packHeader zeroSalt zeroIv ++ (onlyCiphertext ++ tag.val)

theorem onlyBlob_encrypted :
    serializeAndEncryptVault onlyOnce calm.encrypt singleEntry
      masterPassword = .ok onlyBlob := rfl

end Symbolic

open Symbolic in
/-- The written file with its version field turned back to 1. -/
theorem vault_file_integrity_downgrade :
    onlyBlob.set 4 1 ≠ onlyBlob ∧
      ∃ error, loadVault onlyOnce .none
        (Function.update (fun _ => none) path (some (onlyBlob.set 4 1))) path
        masterPassword (Clock.constant 9) = .error error :=
  have differs : onlyBlob.set 4 1 ≠ onlyBlob := by decide
  ⟨differs,
    (vault_file_integrity onlyBlob_encrypted onlyOnce_authenticates .none
      (Function.update (fun _ => none) path (some (onlyBlob.set 4 1))) path
      (Clock.constant 9)).1 _ masterPassword
      (Function.update_self path _ _) differs⟩

end DuckPass
