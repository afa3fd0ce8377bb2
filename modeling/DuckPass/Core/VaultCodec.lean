/-
Module: DuckPass.Core.VaultCodec
Purpose: The little-endian payload format of `vault.cpp`: the writers, the
  bounds-checked readers, `Vault::serialize` and `Vault::deserialize`.
Trusted boundary: none
Main exports: writeUint32, writeUint64, writeString, readUint32, readUint64,
  readString, Vault.serialize, Vault.deserialize
-/
import DuckPass.Core.Vault
import Mathlib.Data.List.FinRange

namespace DuckPass

/-! ## Writers -/

/-- `write_uint32`. -/
def writeUint32 (buffer : SecureBytes) (value : UInt32) : SecureBytes :=
  buffer ++
    [(value &&& 0xFF).toUInt8,
      ((value >>> 8) &&& 0xFF).toUInt8,
      ((value >>> 16) &&& 0xFF).toUInt8,
      ((value >>> 24) &&& 0xFF).toUInt8]

/-- `write_uint64`: the loop pushes the byte at `i * 8` for `i = 0, …, 7`. -/
def writeUint64 (buffer : SecureBytes) (value : UInt64) : SecureBytes :=
  (List.range 8).foldl
    (fun buffer i =>
      buffer ++ [((value >>> UInt64.ofNat (i * 8)) &&& 0xFF).toUInt8])
    buffer

/-- `write_string`.  The length is cast to 32 bits; the bytes are not. -/
def writeString (buffer : SecureBytes) (str : SecureString) : SecureBytes :=
  writeUint32 buffer (UInt32.ofNat str.length) ++ str

/-! ## Readers

The offset is a `size_t` that the source passes by reference; a reader returns
its next value.  No offset exceeds the buffer size by more than eight, so the
sums below do not wrap. -/

/-- `read_uint32`. -/
def readUint32 (bytes : SecureBytes) (offset : Nat) :
    Except DuckpassError (UInt32 × Nat) :=
  if short : offset + 4 > bytes.length then
    .error (.runtimeError "Malformed vault data: uint32 overflow")
  else
    .ok
      (bytes[offset].toUInt32 |||
        (bytes[offset + 1].toUInt32 <<< 8) |||
        (bytes[offset + 2].toUInt32 <<< 16) |||
        (bytes[offset + 3].toUInt32 <<< 24),
        offset + 4)

/-- `read_uint64`. -/
def readUint64 (bytes : SecureBytes) (offset : Nat) :
    Except DuckpassError (UInt64 × Nat) :=
  if short : offset + 8 > bytes.length then
    .error (.runtimeError "Malformed vault data: uint64 overflow")
  else
    .ok
      ((List.finRange 8).foldl
        (fun value (i : Fin 8) =>
          value |||
            (bytes[offset + i.val].toUInt64 <<< UInt64.ofNat (i.val * 8)))
        0,
        offset + 8)

/-- `read_string`. -/
def readString (bytes : SecureBytes) (offset : Nat) :
    Except DuckpassError (SecureString × Nat) := do
  let (length, offset) ← readUint32 bytes offset
  if bytes.length - offset < length.toNat then
    throw (.runtimeError "Malformed vault data: string overflow")
  pure ((bytes.drop offset).take length.toNat, offset + length.toNat)

/-! ## Vault payload -/

/-- The body of the loop in `Vault::serialize`. -/
def writeEntry (buffer : SecureBytes) (entry : VaultEntry) : SecureBytes :=
  let buffer := writeString buffer entry.service
  let buffer := writeString buffer entry.username
  let buffer := writeString buffer entry.password
  let buffer := writeUint64 buffer entry.lastUpdated
  writeString buffer entry.totpSecret

/-- `Vault::serialize` (format version 3). -/
def Vault.serialize (vault : Vault) : SecureBytes :=
  vault.entries.foldl writeEntry
    (writeUint32 [] (UInt32.ofNat vault.entries.length))

/-- The reads of one round of the loop in `Vault::deserialize`.  Whether the
two newer fields are present is decided by the bytes that are left. -/
def readEntry (bytes : SecureBytes) (version : UInt32) (offset : Nat) :
    Except DuckpassError (VaultEntry × Nat) := do
  let (service, offset) ← readString bytes offset
  let (username, offset) ← readString bytes offset
  let (password, offset) ← readString bytes offset
  let (lastUpdated, offset) ←
    if offset + 8 ≤ bytes.length then readUint64 bytes offset
    else pure (0, offset)
  let (totpSecret, offset) ←
    if version ≥ 3 ∧ offset + 4 ≤ bytes.length then readString bytes offset
    else pure ([], offset)
  pure (⟨service, username, password, totpSecret, lastUpdated⟩, offset)

/-- The loop of `Vault::deserialize` with `remaining` rounds to go. -/
def deserializeLoop (bytes : SecureBytes) (version : UInt32) :
    Nat → Nat → Vault → Clock → Except DuckpassError (Vault × Clock)
  | 0, _, vault, clock => pure (vault, clock)
  | remaining + 1, offset, vault, clock => do
      let (entry, offset) ← readEntry bytes version offset
      let (vault, clock) := vault.addEntry entry clock
      deserializeLoop bytes version remaining offset vault clock

/-- `Vault::deserialize`, together with the clock after the stamping done by
`add_entry` for entries that carry no time. -/
def Vault.deserialize (bytes : SecureBytes) (version : UInt32)
    (clock : Clock) : Except DuckpassError (Vault × Clock) :=
  if bytes.isEmpty then
    pure (Vault.empty, clock)
  else do
    let (numEntries, offset) ← readUint32 bytes 0
    deserializeLoop bytes version numEntries.toNat offset Vault.empty clock

end DuckPass
