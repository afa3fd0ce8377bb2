/-
Module: DuckPass.Core.TotpAccess
Purpose: `generate_totp` once more, with every access to its two arrays
  recorded as it happens.
Trusted boundary: HMAC-SHA1 is a parameter.
Main exports: Access.store, Access.timeBytes, Access.binaryCode,
  Access.generateTotp
-/
import DuckPass.Core.Totp
import DuckPass.Core.VaultAccess

namespace DuckPass.Access

open Traced (emit fail quiet)

/-- `bytes[index] = value`. -/
def store (bytes : SecureBytes) (index : Nat) (value : UInt8) :
    Recorded SecureBytes := do
  emit (.byte index bytes.length)
  pure (bytes.set index value)

/-- The loop that fills `time_bytes`, over the given positions. -/
def fillTimeBytes : List Nat → SecureBytes → UInt64 → Recorded SecureBytes
  | [], bytes, _ => pure bytes
  | i :: positions, bytes, timeStep => do
      let bytes ← store bytes i (timeStep &&& 0xFF).toUInt8
      fillTimeBytes positions bytes (timeStep >>> 8)

/-- `time_bytes`, from whatever the array held before. -/
def timeBytes (before : Bytes 8) (timeStep : UInt64) : Recorded SecureBytes :=
  fillTimeBytes [7, 6, 5, 4, 3, 2, 1, 0] before.val timeStep

/-- Dynamic truncation of the bytes that `HMAC` wrote to `md`. -/
def binaryCode (md : SecureBytes) : Recorded UInt32 := do
  let last ← difference md.length 1
  let lastByte ← byte md last
  let offset := (lastByte &&& 0x0F).toNat
  let byte0 ← byte md offset
  let byte1 ← byte md (offset + 1)
  let byte2 ← byte md (offset + 2)
  let byte3 ← byte md (offset + 3)
  pure
    (((byte0.toUInt32 &&& 0x7F) <<< 24) |||
      ((byte1.toUInt32 &&& 0xFF) <<< 16) |||
      ((byte2.toUInt32 &&& 0xFF) <<< 8) |||
      (byte3.toUInt32 &&& 0xFF))

/-- `generate_totp`. -/
def generateTotp (hmacSha1 : HmacSha1) (base32Secret : SecureString)
    (timestamp : UInt64) (timeStepSeconds digits : UInt32) (clock : Clock)
    (before : Bytes 8) : Recorded (SecureString × UInt32) :=
  if timeStepSeconds = 0 then
    fail (.invalidArgument "Time step seconds must be greater than zero.")
  else if digits < 6 ∨ digits > 8 then
    fail (.invalidArgument "TOTP digits must be between 6 and 8.")
  else do
    let timestamp := if timestamp = 0 then clock.time else timestamp
    let remaining := timeStepSeconds -
      (timestamp % timeStepSeconds.toUInt64).toUInt32
    let key ← quiet (decodeBase32 base32Secret)
    let message ← timeBytes before (timestamp / timeStepSeconds.toUInt64)
    match hmacSha1 key message with
    | none => fail (.runtimeError "HMAC-SHA1 computation failed.")
    | some md => do
        let code ← binaryCode md.val
        let modulus := (List.replicate digits.toNat 10).foldl (· * ·) 1
        pure (paddedDigits digits.toNat (code % modulus), remaining)

end DuckPass.Access
