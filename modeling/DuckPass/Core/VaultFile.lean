/-
Module: DuckPass.Core.VaultFile
Purpose: The vault file format of `vault.cpp`: `load_vault`,
  `serialize_and_encrypt_vault` and `save_vault`.
Trusted boundary: the primitives of `DuckPass.Core.Crypto`.
Main exports: openVaultBlob, loadVault, serializeAndEncryptVault, saveVault
-/
import DuckPass.Core.Crypto
import DuckPass.Core.LocalStorage
import DuckPass.Core.VaultCodec

namespace DuckPass

/-- The four bytes `DUCK`. -/
def magicBytes : SecureBytes := [0x44, 0x55, 0x43, 0x4B]

/-- Magic, version, three KDF words, salt and IV. -/
def headerSize : Nat := 8 + 3 * 4 + saltBytes + ivBytes

def maxMemoryCost : UInt32 := 1024 * 1024
def maxTimeCost : UInt32 := 100
def maxParallelism : UInt32 := 64

/-- The header fields that `load_vault` parses before it derives the key. -/
structure VaultHeader where
  version : UInt32
  kdfParams : KdfParams
  salt : SecureBytes
  iv : SecureBytes
  aad : SecureBytes
  ciphertext : SecureBytes
deriving Repr, Inhabited, DecidableEq

/-- Steps 2 to 4 of `load_vault`.  Only versions 2 and 3 authenticate the
header. -/
def parseVaultHeader (blob : SecureBytes) :
    Except DuckpassError VaultHeader := do
  if blob.length < headerSize + tagBytes then
    throw (.vaultCorrupted "Vault file is truncated.")
  if blob.take 4 ≠ magicBytes then
    throw (.vaultCorrupted "Invalid file format: Not a DuckPass vault.")
  let (version, offset) ← readUint32 blob 4
  if version ≠ 1 ∧ version ≠ 2 ∧ version ≠ 3 then
    throw (.vaultCorrupted
      ("Unsupported vault version: " ++ toString version.toNat))
  let aad := if version ≥ 2 then blob.take headerSize else []
  let (timeCost, offset) ← readUint32 blob offset
  let (memoryCost, offset) ← readUint32 blob offset
  let (parallelism, offset) ← readUint32 blob offset
  if memoryCost > maxMemoryCost ∨ timeCost > maxTimeCost ∨
      parallelism > maxParallelism then
    throw (.vaultCorrupted ("KDF parameters exceed safe limits. " ++
      "File may have been tampered with to cause DoS."))
  pure
    { version := version
      kdfParams := ⟨timeCost, memoryCost, parallelism⟩
      salt := (blob.drop offset).take saltBytes
      iv := (blob.drop (offset + saltBytes)).take ivBytes
      aad := aad
      ciphertext := blob.drop (offset + saltBytes + ivBytes) }

/-- Steps 2 to 6 of `load_vault`: everything after the file was read. -/
def openVaultBlob (primitives : Primitives) (cipherFault : Option String)
    (blob : SecureBytes) (masterPassword : SecureString) (clock : Clock) :
    Except DuckpassError (Vault × Clock) := do
  let header ← parseVaultHeader blob
  let key ← deriveKeyFromPassword primitives masterPassword header.salt
    header.kdfParams
  let plaintextBytes ← decryptData primitives cipherFault header.ciphertext key
    header.iv header.aad
  Vault.deserialize plaintextBytes header.version clock

/-- How the system and library calls of one `load_vault` go. -/
structure LoadFaults where
  read : ReadFaults
  cipher : Option String
deriving Repr, Inhabited, DecidableEq

def LoadFaults.none : LoadFaults := ⟨ReadFaults.none, Option.none⟩

/-- `load_vault`. -/
def loadVault (primitives : Primitives) (faults : LoadFaults) (files : Files)
    (vaultPath : Path) (masterPassword : SecureString) (clock : Clock) :
    Except DuckpassError (Vault × Clock) := do
  let fullBlob ← readFile faults.read files vaultPath
  openVaultBlob primitives faults.cipher fullBlob masterPassword clock

/-- The parameters written by this version of the program. -/
def currentKdfParams : KdfParams :=
  ⟨defaultTimeCost, defaultMemoryCost, defaultParallelism⟩

/-- The header of `serialize_and_encrypt_vault`. -/
def packHeader (salt iv : SecureBytes) : SecureBytes :=
  let header := writeUint32 magicBytes 3
  let header := writeUint32 header currentKdfParams.timeCost
  let header := writeUint32 header currentKdfParams.memoryCost
  let header := writeUint32 header currentKdfParams.parallelism
  header ++ salt ++ iv

/-- The random bytes one encryption draws, and how its library calls go. -/
structure SealEnv where
  salt : Option (Bytes saltBytes)
  iv : Option (Bytes ivBytes)
  cipher : Option String

/-- `serialize_and_encrypt_vault`. -/
def serializeAndEncryptVault (primitives : Primitives) (env : SealEnv)
    (vault : Vault) (masterPassword : SecureString) :
    Except DuckpassError SecureBytes := do
  let plaintext := vault.serialize
  let salt ← generateRandomBytes env.salt
  let iv ← generateRandomBytes env.iv
  let header := packHeader salt.val iv.val
  let key ← deriveKeyFromPassword primitives masterPassword salt.val
    currentKdfParams
  let ciphertext ← encryptData primitives env.cipher plaintext key iv.val header
  pure (header ++ ciphertext)

/-- `save_vault`. -/
def saveVault (primitives : Primitives) (env : SealEnv) (faults : WriteFaults)
    (vaultPath : Path) (vault : Vault) (masterPassword : SecureString)
    (createBackup : Bool) (storage : Storage) :
    Except DuckpassError Unit × Storage :=
  match serializeAndEncryptVault primitives env vault masterPassword with
  | .error error => (.error error, storage)
  | .ok fullPackage =>
      writeFileAtomic faults vaultPath fullPackage createBackup storage

end DuckPass
