/-
Module: DuckPass.Core.Totp
Purpose: `totp.cpp`: `decode_base32`, which the service also uses to validate a
  TOTP secret, and `generate_totp`.
Trusted boundary: HMAC-SHA1 is a parameter.
Main exports: decodeBase32, HmacSha1, generateTotp
-/
import DuckPass.Core.Crypto

namespace DuckPass

/-- The loop state of `decode_base32`: the 32-bit accumulator, the bits in it
that were not pushed yet, and the bytes pushed. -/
structure Base32State where
  buffer : UInt32
  bitsLeft : Nat
  result : SecureBytes
deriving Repr, Inhabited, DecidableEq

/-- `' '`, `'-'` and `'='` are skipped. -/
def isBase32Separator (ch : UInt8) : Bool :=
  ch == 0x20 || ch == 0x2D || ch == 0x3D

/-- The five-bit value of a digit: `A` to `Z` in either case, then `2` to
`7`. -/
def base32Value (ch : UInt8) : Option UInt32 :=
  if 0x41 ≤ ch ∧ ch ≤ 0x5A then some (ch.toUInt32 - 0x41)
  else if 0x61 ≤ ch ∧ ch ≤ 0x7A then some (ch.toUInt32 - 0x61)
  else if 0x32 ≤ ch ∧ ch ≤ 0x37 then some (ch.toUInt32 - 0x32 + 26)
  else none

/-- Shift one digit in and push a byte once eight bits are there. -/
def Base32State.push (state : Base32State) (value : UInt32) : Base32State :=
  let buffer := (state.buffer <<< 5) ||| value
  let bitsLeft := state.bitsLeft + 5
  if bitsLeft ≥ 8 then
    { buffer := buffer
      bitsLeft := bitsLeft - 8
      result := state.result ++
        [((buffer >>> UInt32.ofNat (bitsLeft - 8)) &&& 0xFF).toUInt8] }
  else { state with buffer := buffer, bitsLeft := bitsLeft }

/-- The loop of `decode_base32`. -/
def decodeBase32Loop : SecureString → Base32State →
    Except DuckpassError Base32State
  | [], state => .ok state
  | ch :: rest, state =>
      if isBase32Separator ch then decodeBase32Loop rest state
      else
        match base32Value ch with
        | some value => decodeBase32Loop rest (state.push value)
        | none =>
            .error (.invalidArgument
              ("Invalid Base32 character encountered: '" ++
                String.singleton (Char.ofNat ch.toNat) ++ "'"))

/-- `decode_base32`. -/
def decodeBase32 (base32Secret : SecureString) :
    Except DuckpassError SecureBytes := do
  let state ← decodeBase32Loop base32Secret ⟨0, 0, []⟩
  if state.result.isEmpty then
    throw (.invalidArgument
      "Base32 secret is empty or contains no valid data.")
  pure state.result

/-! ## Codes -/

/-- OpenSSL's `HMAC` with SHA-1: a digest of the message under the key, unless
the call fails. -/
abbrev HmacSha1 := (key message : SecureBytes) → Option (Bytes sha1Bytes)

/-- The loop that fills the eight bytes of the counter from the last one
down. -/
def timeBytes (timeStep : UInt64) : SecureBytes :=
  ((List.range 8).foldl
    (fun (state : SecureBytes × UInt64) _ =>
      ((state.2 &&& 0xFF).toUInt8 :: state.1, state.2 >>> 8))
    ([], timeStep)).1

/-- Dynamic truncation: 31 bits of the digest, at the offset that its last byte
names. -/
def binaryCode (md : SecureBytes) : UInt32 :=
  let offset := (md.getD (md.length - 1) 0 &&& 0x0F).toNat
  (((md.getD offset 0).toUInt32 &&& 0x7F) <<< 24) |||
    (((md.getD (offset + 1) 0).toUInt32 &&& 0xFF) <<< 16) |||
    (((md.getD (offset + 2) 0).toUInt32 &&& 0xFF) <<< 8) |||
    ((md.getD (offset + 3) 0).toUInt32 &&& 0xFF)

/-- `std::to_string` and the zeros put in front of it. -/
def paddedDigits (digits : Nat) (value : UInt32) : SecureString :=
  let text := (Nat.toDigits 10 value.toNat).map fun char =>
    UInt8.ofNat char.toNat
  List.replicate (digits - text.length) 0x30 ++ text

/-- `generate_totp`: the code and the seconds it is still good for.  A zero
`timestamp` stands for the current time. -/
def generateTotp (hmacSha1 : HmacSha1) (base32Secret : SecureString)
    (timestamp : UInt64) (timeStepSeconds digits : UInt32) (clock : Clock) :
    Except DuckpassError (SecureString × UInt32) := do
  if timeStepSeconds = 0 then
    throw (.invalidArgument "Time step seconds must be greater than zero.")
  if digits < 6 ∨ digits > 8 then
    throw (.invalidArgument "TOTP digits must be between 6 and 8.")
  let timestamp := if timestamp = 0 then clock.time else timestamp
  let remaining := timeStepSeconds -
    (timestamp % timeStepSeconds.toUInt64).toUInt32
  let key ← decodeBase32 base32Secret
  match hmacSha1 key (timeBytes (timestamp / timeStepSeconds.toUInt64)) with
  | none => throw (.runtimeError "HMAC-SHA1 computation failed.")
  | some md =>
      let modulus := (List.replicate digits.toNat 10).foldl (· * ·) 1
      pure (paddedDigits digits.toNat (binaryCode md.val % modulus), remaining)

end DuckPass
