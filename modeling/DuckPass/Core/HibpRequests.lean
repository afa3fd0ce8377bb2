/-
Module: DuckPass.Core.HibpRequests
Purpose: `HibpChecker::check_password` once more, with every request it sends
  and every wait before a retry recorded as it happens.
Trusted boundary: as for `DuckPass.Core.HibpChecker`.
Main exports: LookupStep, rangeUrl, RecordedLookup, Online.requestLoop,
  Online.checkPassword
-/
import DuckPass.Core.HibpChecker
import DuckPass.Lib.Traced

namespace DuckPass

/-- What an observer of the machine sees of the online check. -/
inductive LookupStep where
  | requested (url : SecureBytes)
  | slept (seconds : Nat)
deriving Repr, Inhabited, DecidableEq

namespace LookupStep

def url? : LookupStep → Option SecureBytes
  | requested url => some url
  | slept _ => none

def isRetry : LookupStep → Bool
  | requested _ => false
  | slept _ => true

end LookupStep

/-- `url.c_str()`, as `CURLOPT_URL` reads it: up to the first NUL byte. -/
def rangeUrl (range : SecureString) : SecureBytes :=
  (textBytes "https://api.pwnedpasswords.com/range/" ++ range).takeWhile
    (· ≠ 0)

/-- A computation of the online check; it fails only where the scanner would
not come to an end. -/
abbrev RecordedLookup := Traced Unit LookupStep

namespace Online

open Traced (emit quiet)

def finished : Option HibpResult → Except Unit HibpResult
  | some result => .ok result
  | none => .error ()

/-- The loop of `check_password`, with `left` rounds left until its condition
fails. -/
def requestLoop (url : SecureBytes) (replies : Nat → CurlReply)
    (suffix : SecureString) :
    (left retryCount : Nat) → HibpResult → RecordedLookup HibpResult
  | 0, _, result => pure result
  | left + 1, retryCount, result => do
      emit (.requested url)
      match replies retryCount with
      | .failed strerror =>
          pure { result with
            errorMessage := textBytes "CURL request failed: " ++ strerror }
      | .response code body =>
          if code = 429 then
            if retryCount + 1 > maxRetries then
              pure { result with
                errorMessage :=
                  textBytes "HIBP Rate Limit Exceeded after retries." }
            else do
              emit (.slept (1 <<< (retryCount + 1)))
              requestLoop url replies suffix left (retryCount + 1) result
          else if code ≠ 200 then
            pure { result with
              errorMessage := textBytes ("API returned error code: " ++
                toString code.toInt) }
          else
            quiet (finished
              (scanResponse body suffix (body.length + 1) 0 result))

/-- `check_password`. -/
def checkPassword (env : LookupEnv) (sha1 : SecureString) :
    RecordedLookup HibpResult :=
  if sha1.length < 5 then
    pure ⟨false, 0, textBytes "Invalid SHA-1 hash."⟩
  else if !env.initialized then
    pure ⟨false, 0, textBytes "Failed to initialize CURL."⟩
  else
    requestLoop (rangeUrl (sha1.take 5)) (env.replies (sha1.take 5))
      (sha1.drop 5) (maxRetries + 1) 0 ⟨false, 0, []⟩

/-- The URLs requested, first to last. -/
def requests (lookup : RecordedLookup HibpResult) : List SecureBytes :=
  lookup.events.filterMap LookupStep.url?

def retries (lookup : RecordedLookup HibpResult) : Nat :=
  lookup.count LookupStep.isRetry

end Online

end DuckPass
