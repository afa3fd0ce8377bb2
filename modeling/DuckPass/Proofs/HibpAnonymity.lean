/-
Module: DuckPass.Proofs.HibpAnonymity
Purpose: The requests of `check_password` tell nothing about a hash beyond its
  first five characters, whatever the server answers.
Trusted boundary: as for `DuckPass.Core.HibpChecker`.
Main exports: Online.requestLoop_computes, Online.checkPassword_computes,
  Online.requestLoop_events, Online.retries_le, requests_hide_suffix
-/
import DuckPass.Core.HibpRequests
import Mathlib.Tactic.IntervalCases

namespace DuckPass

/-! ## The record is one of the plain check -/

/-- A request asks for the range of the hash, and a wait is one of 2, 4 or 8
seconds. -/
def LookupStep.About (range : SecureString) : LookupStep → Prop
  | requested url => url = rangeUrl range
  | slept seconds => seconds ∈ [2, 4, 8]

namespace Online

open Traced (Computes)

/-- A pause tells of the range at most. -/
theorem slept_about (range : SecureString) {retryCount : Nat}
    (more : ¬ retryCount + 1 > maxRetries) :
    LookupStep.About range (.slept (1 <<< (retryCount + 1))) := by
  have few : retryCount < 3 := by
    unfold maxRetries at more
    omega
  show 1 <<< (retryCount + 1) ∈ [2, 4, 8]
  interval_cases retryCount <;> decide

/-- The retries ask for the range alone, by induction on those left. -/
theorem requestLoop_computes (range suffix : SecureString)
    (replies : Nat → CurlReply) (left retryCount : Nat)
    (result : HibpResult) :
    Computes (LookupStep.About range)
      (requestLoop (rangeUrl range) replies suffix left retryCount result)
      (finished
        (DuckPass.requestLoop replies suffix left retryCount result)) := by
  induction left generalizing retryCount with
  | zero => exact Computes.pure result
  | succ left inductionHypothesis =>
      unfold requestLoop DuckPass.requestLoop
      have requested : LookupStep.About range (.requested (rangeUrl range)) :=
        rfl
      apply Computes.emit_bind requested
      cases replies retryCount with
      | failed strerror => exact Computes.pure _
      | response code body =>
          dsimp only
          split
          · split
            · exact Computes.pure _
            · next more =>
                exact Computes.emit_bind (slept_about range more)
                  (inductionHypothesis (retryCount + 1))
          · split
            · exact Computes.pure _
            · exact Computes.quiet _

/-- So does the whole lookup. -/
theorem checkPassword_computes (env : LookupEnv) (sha1 : SecureString) :
    Computes (LookupStep.About (sha1.take 5)) (checkPassword env sha1)
      (finished (DuckPass.checkPassword env sha1)) := by
  unfold checkPassword DuckPass.checkPassword
  split
  · exact Computes.pure _
  · split
    · exact Computes.pure _
    · exact requestLoop_computes _ _ _ _ _ _

/-! ## Two runs -/

/-- The suffix is looked at only once the last request is answered, so two
loops that differ in it go through the same rounds. -/
theorem requestLoop_events (url : SecureBytes) (replies : Nat → CurlReply)
    (suffix other : SecureString) (left retryCount : Nat)
    (result : HibpResult) :
    (requestLoop url replies suffix left retryCount result).events =
      (requestLoop url replies other left retryCount result).events := by
  induction left generalizing retryCount with
  | zero => rfl
  | succ left inductionHypothesis =>
      unfold requestLoop
      apply congrArg (LookupStep.requested url :: ·)
      cases replies retryCount with
      | failed strerror => rfl
      | response code body =>
          dsimp only
          split
          · split
            · rfl
            · exact congrArg (LookupStep.slept _ :: ·)
                (inductionHypothesis (retryCount + 1))
          · split
            · rfl
            · rfl

/-- Two hashes that agree in five characters make the same requests and pauses.
-/
theorem checkPassword_events (env : LookupEnv) {first second : SecureString}
    (sameLength : first.length = second.length)
    (sameRange : first.take 5 = second.take 5) :
    (checkPassword env first).events = (checkPassword env second).events := by
  unfold checkPassword
  rw [sameLength, sameRange]
  split
  · rfl
  · split
    · rfl
    · exact requestLoop_events _ _ _ _ _ _ _

/-- Every retry uses up a round. -/
theorem requestLoop_retries_le (url : SecureBytes)
    (replies : Nat → CurlReply) (suffix : SecureString)
    (left retryCount : Nat) (result : HibpResult) :
    retries (requestLoop url replies suffix left retryCount result) ≤
      maxRetries - retryCount := by
  induction left generalizing retryCount with
  | zero => exact Nat.zero_le _
  | succ left inductionHypothesis =>
      unfold requestLoop retries
      rw [Traced.count_emit_bind]
      cases replies retryCount with
      | failed strerror => exact Nat.zero_le _
      | response code body =>
          dsimp only
          split
          · split
            · exact Nat.zero_le _
            · next more =>
                rw [Traced.count_emit_bind]
                have later := inductionHypothesis (retryCount + 1)
                unfold retries at later
                simp only [LookupStep.isRetry, if_true, Bool.false_eq_true,
                  if_false]
                omega
          · split
            · exact Nat.zero_le _
            · exact Nat.zero_le _

/-- There are three retries at most. -/
theorem retries_le (env : LookupEnv) (sha1 : SecureString) :
    retries (checkPassword env sha1) ≤ maxRetries := by
  unfold checkPassword
  split
  · exact Nat.zero_le _
  · split
    · exact Nat.zero_le _
    · exact requestLoop_retries_le _ _ _ _ _ _

/-- Every request is for the first five characters. -/
theorem requests_eq_rangeUrl (env : LookupEnv) (sha1 : SecureString) :
    ∀ url ∈ requests (checkPassword env sha1),
      url = rangeUrl (sha1.take 5) := by
  intro url member
  obtain ⟨step, recorded, named⟩ := List.mem_filterMap.mp member
  have about := (checkPassword_computes env sha1).allowed step recorded
  cases step with
  | requested sent =>
      cases named
      exact about
  | slept seconds => cases named

end Online

/-- Whatever the server answers, two hashes of one length that share their
first five characters lead to the same requests and the same retries.  All
requests are for the range of these characters, and the record is one of
`check_password` itself. -/
theorem requests_hide_suffix (env : LookupEnv)
    {first second : SecureString}
    (sameLength : first.length = second.length)
    (sameRange : first.take 5 = second.take 5) :
    Online.requests (Online.checkPassword env first) =
        Online.requests (Online.checkPassword env second) ∧
      Online.retries (Online.checkPassword env first) =
        Online.retries (Online.checkPassword env second) ∧
      (∀ url ∈ Online.requests (Online.checkPassword env first),
        url = rangeUrl (first.take 5)) ∧
      ∀ sha1, (Online.checkPassword env sha1).result =
        Online.finished (checkPassword env sha1) := by
  have same := Online.checkPassword_events env sameLength sameRange
  refine ⟨congrArg (List.filterMap LookupStep.url?) same,
    congrArg (List.countP LookupStep.isRetry) same,
    Online.requests_eq_rangeUrl env first, ?_⟩
  intro sha1
  exact (Online.checkPassword_computes env sha1).result

/-- A server that asks to wait once and then lists one suffix. -/
def busyServer : LookupEnv where
  initialized := true
  replies _ call :=
    if call = 0 then .response 429 [] else .response 200 (textBytes "XYZ:7")

/-- Only one of the two hashes is listed, and what was sent is the same. -/
theorem requests_hide_suffix_busy :
    checkPassword busyServer (textBytes "ABCDEXYZ") ≠
        checkPassword busyServer (textBytes "ABCDEUVW") ∧
      Online.requests
          (Online.checkPassword busyServer (textBytes "ABCDEXYZ")) =
        Online.requests
          (Online.checkPassword busyServer (textBytes "ABCDEUVW")) ∧
      Online.retries
          (Online.checkPassword busyServer (textBytes "ABCDEXYZ")) =
        Online.retries
          (Online.checkPassword busyServer (textBytes "ABCDEUVW")) := by
  have hidden := @requests_hide_suffix busyServer (textBytes "ABCDEXYZ")
    (textBytes "ABCDEUVW") (by decide) (by decide)
  exact ⟨by decide, hidden.1, hidden.2.1⟩

end DuckPass
