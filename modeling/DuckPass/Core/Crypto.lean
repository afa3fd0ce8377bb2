/-
Module: DuckPass.Core.Crypto
Purpose: `derive_key_from_password`, `encrypt_data`, `decrypt_data`,
  `compute_sha1` and `compute_sha256` of `crypto.cpp` over the OpenSSL and
  Argon2 primitives they call.
Trusted boundary: the primitives are a parameter; what the vault code relies
  on is named in `Primitives.RoundTrips` and `Primitives.Ideal`.
Main exports: Primitives, deriveKeyFromPassword, encryptData, decryptData,
  Digests, computeSha1, computeSha256
-/
import DuckPass.Core.Types

namespace DuckPass

/-- Argon2id parameters, stored in the vault header. -/
structure KdfParams where
  timeCost : UInt32
  memoryCost : UInt32
  parallelism : UInt32
deriving Repr, Inhabited, DecidableEq

def defaultTimeCost : UInt32 := 2
def defaultMemoryCost : UInt32 := 65536
def defaultParallelism : UInt32 := 1

def saltBytes : Nat := 16
def ivBytes : Nat := 12
def tagBytes : Nat := 16

/-- `std::numeric_limits<int>::max()`. -/
def intMax : Nat := 2147483647

/-- A byte string of a fixed size, such as a random salt or a tag. -/
abbrev Bytes (size : Nat) := { bytes : SecureBytes // bytes.length = size }

/-- The library calls: Argon2id answers a key or an error message, AES-256-GCM
seals a plaintext into a ciphertext and a tag, and opens it again only if the
tag verifies. -/
structure Primitives where
  argon2idHashRaw : KdfParams → SecureString → SecureBytes →
    Except String SecureBytes
  gcmSeal : (key iv aad plaintext : SecureBytes) →
    SecureBytes × Bytes tagBytes
  gcmOpen : (key iv aad ciphertext tag : SecureBytes) → Option SecureBytes

/-- Decryption undoes encryption under equal key, IV and AAD. -/
structure Primitives.RoundTrips (primitives : Primitives) : Prop where
  open_seal : ∀ key iv aad plaintext,
    primitives.gcmOpen key iv aad (primitives.gcmSeal key iv aad plaintext).1
      (primitives.gcmSeal key iv aad plaintext).2 = some plaintext

/-- Ideal authenticated encryption over an injective key derivation: a tag
verifies only for what encryption produced, and never under another key. -/
structure Primitives.Ideal (primitives : Primitives) : Prop
    extends primitives.RoundTrips where
  seal_of_open : ∀ {key iv aad ciphertext tag plaintext},
    primitives.gcmOpen key iv aad ciphertext tag = some plaintext →
      (primitives.gcmSeal key iv aad plaintext).1 = ciphertext ∧
        (primitives.gcmSeal key iv aad plaintext).2.val = tag
  other_key : ∀ {key otherKey iv aad plaintext}, key ≠ otherKey →
    primitives.gcmOpen otherKey iv aad
      (primitives.gcmSeal key iv aad plaintext).1
      (primitives.gcmSeal key iv aad plaintext).2 = none
  password_of_key : ∀ {params password otherPassword salt key},
    primitives.argon2idHashRaw params password salt = .ok key →
    primitives.argon2idHashRaw params otherPassword salt = .ok key →
      password = otherPassword

/-- `generate_random_bytes`: the bytes the generator returned, or none if
`RAND_bytes` failed. -/
def generateRandomBytes {size : Nat} (random : Option (Bytes size)) :
    Except DuckpassError (Bytes size) :=
  match random with
  | some bytes => .ok bytes
  | none => .error (.crypto "Failed to generate random bytes.")

/-- `derive_key_from_password`. -/
def deriveKeyFromPassword (primitives : Primitives) (password : SecureString)
    (salt : SecureBytes) (params : KdfParams) :
    Except DuckpassError SecureBytes :=
  match primitives.argon2idHashRaw params password salt with
  | .ok key => .ok key
  | .error message =>
      .error (.crypto
        ("Failed to derive key from password (Argon2). Error: " ++ message))

/-- `encrypt_data`.  `cipherFault` is the message of the first OpenSSL call
that fails, if one does. -/
def encryptData (primitives : Primitives) (cipherFault : Option String)
    (plaintext key iv aad : SecureBytes) : Except DuckpassError SecureBytes :=
  if plaintext.length > intMax then
    .error (.crypto
      "Vault data size exceeds OpenSSL's encryption limit (2.1GB).")
  else
    match cipherFault with
    | some message => .error (.crypto message)
    | none =>
        .ok ((primitives.gcmSeal key iv aad plaintext).1 ++
          (primitives.gcmSeal key iv aad plaintext).2.val)

/-- `decrypt_data`.  The tag is the last `tagBytes` bytes of the blob. -/
def decryptData (primitives : Primitives) (cipherFault : Option String)
    (encryptedBlob key iv aad : SecureBytes) :
    Except DuckpassError SecureBytes :=
  if encryptedBlob.length < tagBytes then
    .error (.vaultCorrupted "Encrypted data is too short.")
  else
    match cipherFault with
    | some message => .error (.crypto message)
    | none =>
        match primitives.gcmOpen key iv aad
            (encryptedBlob.take (encryptedBlob.length - tagBytes))
            (encryptedBlob.drop (encryptedBlob.length - tagBytes)) with
        | some plaintext => .ok plaintext
        | none => .error .wrongPassword

/-! ## Digests -/

/-- The size of a SHA-1 digest. -/
def sha1Bytes : Nat := 20

/-- The size of a SHA-256 digest. -/
def sha256Bytes : Nat := 32

/-- The two message digests of OpenSSL that are used. -/
structure Digests where
  sha1 : SecureBytes → Bytes sha1Bytes
  sha256 : SecureBytes → Bytes sha256Bytes

def hexChars (uppercase : Bool) : SecureString :=
  textBytes (if uppercase then "0123456789ABCDEF" else "0123456789abcdef")

/-- The two digits of a byte. -/
def hexByte (uppercase : Bool) (byte : UInt8) : SecureString :=
  [(hexChars uppercase).getD ((byte >>> 4) &&& 0x0F).toNat 0,
    (hexChars uppercase).getD (byte &&& 0x0F).toNat 0]

/-- `compute_hash`.  `fault` is the message of the first OpenSSL call that
fails, if one does. -/
def computeHash {size : Nat} (fault : Option String)
    (digest : SecureBytes → Bytes size) (uppercase : Bool)
    (input : SecureString) : Except DuckpassError SecureString :=
  match fault with
  | some message => .error (.crypto message)
  | none => .ok ((digest input).val.flatMap (hexByte uppercase))

/-- `compute_sha1`. -/
def computeSha1 (digests : Digests) (fault : Option String)
    (input : SecureString) : Except DuckpassError SecureString :=
  computeHash fault digests.sha1 true input

/-- `compute_sha256`. -/
def computeSha256 (digests : Digests) (fault : Option String)
    (input : SecureString) : Except DuckpassError SecureString :=
  computeHash fault digests.sha256 false input

section Laws

variable {primitives : Primitives} {plaintext key iv aad blob : SecureBytes}

/-- What comes out is the ciphertext and the tag, and the plaintext was not too
long for OpenSSL. -/
theorem encryptData_eq_ok {cipherFault : Option String}
    (encrypted :
      encryptData primitives cipherFault plaintext key iv aad = .ok blob) :
    plaintext.length ≤ intMax ∧
      blob = (primitives.gcmSeal key iv aad plaintext).1 ++
        (primitives.gcmSeal key iv aad plaintext).2.val := by
  unfold encryptData at encrypted
  split at encrypted
  · cases encrypted
  · next fits =>
      cases cipherFault with
      | some message => cases encrypted
      | none =>
          cases encrypted
          exact ⟨Nat.le_of_not_lt fits, rfl⟩

/-- A blob that is decrypted has a tag that fits. -/
theorem decryptData_eq_ok {cipherFault : Option String}
    (decrypted :
      decryptData primitives cipherFault blob key iv aad = .ok plaintext) :
    cipherFault = none ∧
      primitives.gcmOpen key iv aad (blob.take (blob.length - tagBytes))
        (blob.drop (blob.length - tagBytes)) = some plaintext := by
  unfold decryptData at decrypted
  split at decrypted
  · cases decrypted
  · cases cipherFault with
    | some message => cases decrypted
    | none =>
        refine ⟨rfl, ?_⟩
        revert decrypted
        cases primitives.gcmOpen key iv aad
            (blob.take (blob.length - tagBytes))
            (blob.drop (blob.length - tagBytes)) with
        | none =>
            intro impossible
            cases impossible
        | some opened =>
            intro decrypted
            exact congrArg some (Except.ok.inj decrypted)

/-- Splitting a blob at its tag recovers what was sealed. -/
theorem decryptData_sealed (otherKey : SecureBytes) :
    decryptData primitives none
        ((primitives.gcmSeal key iv aad plaintext).1 ++
          (primitives.gcmSeal key iv aad plaintext).2.val) otherKey iv aad =
      match primitives.gcmOpen otherKey iv aad
          (primitives.gcmSeal key iv aad plaintext).1
          (primitives.gcmSeal key iv aad plaintext).2.val with
      | some plaintext => .ok plaintext
      | none => .error .wrongPassword := by
  obtain ⟨ciphertext, tag, tagSize⟩ := primitives.gcmSeal key iv aad plaintext
  have size : (ciphertext ++ tag).length - tagBytes = ciphertext.length := by
    rw [List.length_append, tagSize, Nat.add_sub_cancel]
  have long : ¬ (ciphertext ++ tag).length < tagBytes := by
    rw [List.length_append, tagSize]
    exact Nat.not_lt.mpr (Nat.le_add_left _ _)
  simp only [decryptData, if_neg long, size, List.take_left', List.drop_left']

theorem Primitives.RoundTrips.decryptData_sealed
    (roundTrips : primitives.RoundTrips) :
    decryptData primitives none
        ((primitives.gcmSeal key iv aad plaintext).1 ++
          (primitives.gcmSeal key iv aad plaintext).2.val) key iv aad =
      .ok plaintext := by
  rw [DuckPass.decryptData_sealed, roundTrips.open_seal]

end Laws

end DuckPass
