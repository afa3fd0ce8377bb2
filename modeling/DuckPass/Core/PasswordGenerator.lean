/-
Module: DuckPass.Core.PasswordGenerator
Purpose: `generate_password` of `crypto.cpp`, with the batches of random bytes
  it uses recorded.
Trusted boundary: `RAND_bytes`, as a source that each call asks for a number
  of bytes.
Main exports: RandomSource, GenerateFault, passwordChars, maxUsable,
  fillPassword, generateLoop, generatePassword
-/
import DuckPass.Core.Crypto
import DuckPass.Core.VaultQueries
import DuckPass.Lib.Traced

namespace DuckPass

/-- The answers of `RAND_bytes` to one call after the other. -/
abbrev RandomSource := (call size : Nat) → Option (Bytes size)

/-- Why there is no password: an exception, an overflow of an `int`, or rounds
of the loop still to come. -/
inductive GenerateFault where
  | threw (error : DuckpassError)
  | overflow
  | running
deriving Repr, DecidableEq

/-- `chars`. -/
def passwordChars : SecureBytes :=
  textBytes ("abcdefghijklmnopqrstuvwxyz" ++ "ABCDEFGHIJKLMNOPQRSTUVWXYZ" ++
    "0123456789" ++ "!@#$%^&*()-_=+[]\x7b\x7d|;:',.<>?/")

/-- `max_usable`: bytes from here on are rejected. -/
def maxUsable : UInt8 :=
  UInt8.ofNat (256 / passwordChars.length * passwordChars.length)

/-- `chars[b % charset_len]`. -/
def passwordChar (b : UInt8) : UInt8 :=
  passwordChars.getD (b.toNat % passwordChars.length) 0

/-- The loop over the bytes of one batch, up to its `break`. -/
def fillPassword (length : Int) :
    (randomBytes : SecureBytes) → (password : SecureString) → SecureString
  | [], password => password
  | b :: randomBytes, password =>
      if b < maxUsable then
        let password := password ++ [passwordChar b]
        if (password.length : Int) = length then password
        else fillPassword length randomBytes password
      else fillPassword length randomBytes password

/-- A computation that records each batch of random bytes. -/
abbrev RecordedPassword := Traced GenerateFault SecureBytes

/-- The outer loop, with a bound on its rounds. -/
def generateLoop (random : RandomSource) (length : Int) :
    (rounds call : Nat) → (password : SecureString) →
    RecordedPassword SecureString
  | 0, _, _ => Traced.fail .running
  | rounds + 1, call, password =>
      if (password.length : Int) < length then
        let needed := length - (password.length : Int)
        match asInt (needed * 2) with
        | none => Traced.fail .overflow
        | some doubled =>
            let batchSize := (max doubled 16).toNat
            match generateRandomBytes (random call batchSize) with
            | .error error => Traced.fail (.threw error)
            | .ok randomBytes => do
                Traced.emit randomBytes.val
                generateLoop random length rounds (call + 1)
                  (fillPassword length randomBytes.val password)
      else pure password

/-- `generate_password`. -/
def generatePassword (random : RandomSource) (rounds : Nat) (length : Int) :
    RecordedPassword SecureString :=
  if length ≤ 0 then
    Traced.fail
      (.threw (.invalidArgument "Password length must be positive."))
  else generateLoop random length rounds 0 []

end DuckPass
