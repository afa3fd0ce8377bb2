/-
Module: DuckPass.Core.VaultAccess
Purpose: The reading half of `vault.cpp` and `decrypt_data` once more, with
  every buffer access, every subtraction of sizes, every key derivation and
  every round of the loop of `Vault::deserialize` recorded as it happens.
Trusted boundary: the primitives of `DuckPass.Core.Crypto`.
Main exports: VaultAccess, VaultAccess.Safe, Access.deserialize,
  Access.loadVault
-/
import DuckPass.Core.VaultFile
import DuckPass.Lib.Traced

namespace DuckPass

/-- What the reading code does to its buffers and to the machine. -/
inductive VaultAccess where
  | byte (index size : Nat)
  | slice (start count size : Nat)
  | difference (minuend subtrahend : Nat)
  | argon2id (params : KdfParams)
  | round
deriving Repr, Inhabited, DecidableEq

namespace VaultAccess

/-- The access stays within the buffer, the subtraction does not wrap, and the
key derivation is affordable. -/
def Safe : VaultAccess → Prop
  | byte index size => index < size
  | slice start count size => start + count ≤ size
  | difference minuend subtrahend => subtrahend ≤ minuend
  | argon2id params =>
      params.memoryCost.toNat ≤ 2 ^ 20 ∧ params.timeCost.toNat ≤ 100 ∧
        params.parallelism.toNat ≤ 64
  | round => True

def isArgon2id : VaultAccess → Bool
  | argon2id _ => true
  | _ => false

def isRound : VaultAccess → Bool
  | round => true
  | _ => false

end VaultAccess

/-- A computation of the reading code. -/
abbrev Recorded := Traced DuckpassError VaultAccess

namespace Access

open Traced (emit fail quiet)

/-! ## Accesses

What lies outside the buffer reads as zero or as nothing; no result depends on
it unless an access is out of bounds. -/

/-- `bytes[index]`. -/
def byte (bytes : SecureBytes) (index : Nat) : Recorded UInt8 := do
  emit (.byte index bytes.length)
  pure (bytes.getD index 0)

/-- A copy of, or a span over, `count` bytes from `start` on. -/
def slice (bytes : SecureBytes) (start count : Nat) :
    Recorded SecureBytes := do
  emit (.slice start count bytes.length)
  pure ((bytes.drop start).take count)

/-- A difference of two `size_t` values. -/
def difference (minuend subtrahend : Nat) : Recorded Nat := do
  emit (.difference minuend subtrahend)
  pure (minuend - subtrahend)

/-! ## Readers -/

/-- `read_uint32`. -/
def readUint32 (bytes : SecureBytes) (offset : Nat) :
    Recorded (UInt32 × Nat) :=
  if offset + 4 > bytes.length then
    fail (.runtimeError "Malformed vault data: uint32 overflow")
  else do
    let byte0 ← byte bytes offset
    let byte1 ← byte bytes (offset + 1)
    let byte2 ← byte bytes (offset + 2)
    let byte3 ← byte bytes (offset + 3)
    pure
      (byte0.toUInt32 ||| (byte1.toUInt32 <<< 8) |||
        (byte2.toUInt32 <<< 16) ||| (byte3.toUInt32 <<< 24),
        offset + 4)

/-- The loop of `read_uint64` over the given positions. -/
def orBytes (bytes : SecureBytes) (offset : Nat) :
    List (Fin 8) → UInt64 → Recorded UInt64
  | [], value => pure value
  | i :: positions, value => do
      let next ← byte bytes (offset + i.val)
      orBytes bytes offset positions
        (value ||| (next.toUInt64 <<< UInt64.ofNat (i.val * 8)))

/-- `read_uint64`. -/
def readUint64 (bytes : SecureBytes) (offset : Nat) :
    Recorded (UInt64 × Nat) :=
  if offset + 8 > bytes.length then
    fail (.runtimeError "Malformed vault data: uint64 overflow")
  else do
    let value ← orBytes bytes offset (List.finRange 8) 0
    pure (value, offset + 8)

/-- `read_string`. -/
def readString (bytes : SecureBytes) (offset : Nat) :
    Recorded (SecureString × Nat) := do
  let (length, offset) ← readUint32 bytes offset
  let left ← difference bytes.length offset
  if left < length.toNat then
    fail (.runtimeError "Malformed vault data: string overflow")
  else do
    let str ← slice bytes offset length.toNat
    pure (str, offset + length.toNat)

/-- The reads of one round of the loop in `Vault::deserialize`. -/
def readEntry (bytes : SecureBytes) (version : UInt32) (offset : Nat) :
    Recorded (VaultEntry × Nat) := do
  let (service, offset) ← readString bytes offset
  let (username, offset) ← readString bytes offset
  let (password, offset) ← readString bytes offset
  let (lastUpdated, offset) ←
    if offset + 8 ≤ bytes.length then readUint64 bytes offset
    else pure (0, offset)
  let (totpSecret, offset) ←
    if version ≥ 3 ∧ offset + 4 ≤ bytes.length then readString bytes offset
    else pure ([], offset)
  pure (⟨service, username, password, totpSecret, lastUpdated⟩, offset)

/-- The loop of `Vault::deserialize` with `remaining` rounds to go. -/
def deserializeLoop (bytes : SecureBytes) (version : UInt32) :
    Nat → Nat → Vault → Clock → Recorded (Vault × Clock)
  | 0, _, vault, clock => pure (vault, clock)
  | remaining + 1, offset, vault, clock => do
      emit .round
      let (entry, offset) ← readEntry bytes version offset
      let (vault, clock) := vault.addEntry entry clock
      deserializeLoop bytes version remaining offset vault clock

/-- `Vault::deserialize`. -/
def deserialize (bytes : SecureBytes) (version : UInt32) (clock : Clock) :
    Recorded (Vault × Clock) :=
  if bytes.isEmpty then pure (Vault.empty, clock)
  else do
    let (numEntries, offset) ← readUint32 bytes 0
    deserializeLoop bytes version numEntries.toNat offset Vault.empty clock

/-! ## The vault file -/

/-- The comparisons with the magic bytes, of which `||` skips those behind the
first that fails. -/
def matchesMagic (blob : SecureBytes) :
    (magic : SecureBytes) → (offset : Nat) → Recorded Bool
  | [], _ => pure true
  | expected :: magic, offset => do
      let found ← byte blob offset
      if found ≠ expected then pure false
      else matchesMagic blob magic (offset + 1)

/-- The authenticated header, which version 1 does not have. -/
def headerAad (blob : SecureBytes) (version : UInt32) :
    Recorded SecureBytes :=
  if version ≥ 2 then slice blob 0 headerSize else pure []

/-- Steps 2 to 4 of `load_vault`. -/
def parseVaultHeader (blob : SecureBytes) : Recorded VaultHeader :=
  if blob.length < headerSize + tagBytes then
    fail (.vaultCorrupted "Vault file is truncated.")
  else do
    let matched ← matchesMagic blob magicBytes 0
    if ¬ matched then
      fail (.vaultCorrupted "Invalid file format: Not a DuckPass vault.")
    else do
      let (version, offset) ← readUint32 blob 4
      if version ≠ 1 ∧ version ≠ 2 ∧ version ≠ 3 then
        fail (.vaultCorrupted
          ("Unsupported vault version: " ++ toString version.toNat))
      else do
        let aad ← headerAad blob version
        let (timeCost, offset) ← readUint32 blob offset
        let (memoryCost, offset) ← readUint32 blob offset
        let (parallelism, offset) ← readUint32 blob offset
        if memoryCost > maxMemoryCost ∨ timeCost > maxTimeCost ∨
            parallelism > maxParallelism then
          fail (.vaultCorrupted ("KDF parameters exceed safe limits. " ++
            "File may have been tampered with to cause DoS."))
        else do
          let salt ← slice blob offset saltBytes
          let offset := offset + saltBytes
          let iv ← slice blob offset ivBytes
          let offset := offset + ivBytes
          let left ← difference blob.length offset
          let ciphertext ← slice blob offset left
          pure
            { version := version
              kdfParams := ⟨timeCost, memoryCost, parallelism⟩
              salt := salt
              iv := iv
              aad := aad
              ciphertext := ciphertext }

/-- `decrypt_data`. -/
def decryptData (primitives : Primitives) (cipherFault : Option String)
    (encryptedBlob key iv aad : SecureBytes) : Recorded SecureBytes :=
  if encryptedBlob.length < tagBytes then
    fail (.vaultCorrupted "Encrypted data is too short.")
  else do
    let size ← difference encryptedBlob.length tagBytes
    let ciphertext ← slice encryptedBlob 0 size
    let start ← difference encryptedBlob.length tagBytes
    let tag ← slice encryptedBlob start tagBytes
    quiet <|
      match cipherFault with
      | some message => .error (.crypto message)
      | none =>
          match primitives.gcmOpen key iv aad ciphertext tag with
          | some plaintext => .ok plaintext
          | none => .error .wrongPassword

/-- `derive_key_from_password`. -/
def deriveKeyFromPassword (primitives : Primitives) (password : SecureString)
    (salt : SecureBytes) (params : KdfParams) : Recorded SecureBytes := do
  emit (.argon2id params)
  quiet (DuckPass.deriveKeyFromPassword primitives password salt params)

/-- `load_vault`. -/
def loadVault (primitives : Primitives) (faults : LoadFaults) (files : Files)
    (vaultPath : Path) (masterPassword : SecureString) (clock : Clock) :
    Recorded (Vault × Clock) := do
  let fullBlob ← quiet (readFile faults.read files vaultPath)
  let header ← parseVaultHeader fullBlob
  let key ← deriveKeyFromPassword primitives masterPassword header.salt
    header.kdfParams
  let plaintextBytes ← decryptData primitives faults.cipher header.ciphertext
    key header.iv header.aad
  deserialize plaintextBytes header.version clock

end Access

end DuckPass
