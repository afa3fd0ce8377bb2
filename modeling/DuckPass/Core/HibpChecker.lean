/-
Module: DuckPass.Core.HibpChecker
Purpose: `HibpChecker::check_password` of `hibp_checker.cpp`: the requests with
  their retries, and the scanner over the response.
Trusted boundary: libcurl, as the replies to the requests for a hash prefix.
Main exports: HibpResult, CurlReply, LookupEnv, scanResponse, checkPassword,
  checkPassword_isSome
-/
import DuckPass.Core.Types
import DuckPass.Lib.MaximalRun

namespace DuckPass

/-- A `long` is 64 bits wide, and its arithmetic wraps around. -/
structure HibpResult where
  isPwned : Bool
  breachCount : Int64
  errorMessage : SecureBytes
deriving Repr, Inhabited, DecidableEq

/-- How one `curl_easy_perform` goes: the text of the error, or the status of
the response and its body. -/
inductive CurlReply where
  | failed (strerror : SecureBytes)
  | response (code : Int64) (body : SecureBytes)
deriving Repr, Inhabited, DecidableEq

/-- Whether `curl_easy_init` succeeds, and the replies to the requests for the
range of a hash prefix, one after the other. -/
structure LookupEnv where
  initialized : Bool
  replies : (range : SecureString) → Nat → CurlReply

/-! ## The response -/

/-- `'\r'` and `'\n'`. -/
def isLineEnd (c : UInt8) : Bool := c == 0x0D || c == 0x0A

def notLineEnd (c : UInt8) : Bool := !isLineEnd c

/-- `find_first_of("\r\n", pos)`, or the end of the buffer if there is none. -/
def lineEndFrom (buffer : SecureBytes) (pos : Nat) : Nat :=
  Scan.extent notLineEnd buffer pos

/-- The loop that advances to the next line. -/
def nextLine (buffer : SecureBytes) (lineEnd : Nat) : Nat :=
  Scan.extent isLineEnd buffer lineEnd

/-- What stands behind the colon of a line whose first part is the suffix. -/
def countStr (suffix : SecureString) (line : SecureBytes) :
    Option SecureBytes :=
  if line.isEmpty then none
  else
    match line.findIdx? (· = 0x3A) with
    | none => none
    | some colonPos =>
        if line.take colonPos = suffix then some (line.drop (colonPos + 1))
        else none

/-- The loop over the characters of the count. -/
def parseCount : (count : SecureBytes) → (breachCount : Int64) → Int64
  | [], breachCount => breachCount
  | c :: rest, breachCount =>
      if 0x30 ≤ c ∧ c ≤ 0x39 then
        parseCount rest (breachCount * 10 + Int64.ofNat (c.toNat - 0x30))
      else if isLineEnd c then breachCount
      else parseCount rest breachCount

/-- The loop over the lines from `pos` on, with a bound on its rounds. -/
def scanResponse (buffer : SecureBytes) (suffix : SecureString) :
    (rounds pos : Nat) → HibpResult → Option HibpResult
  | 0, _, _ => none
  | rounds + 1, pos, result =>
      if pos < buffer.length then
        let lineEnd := lineEndFrom buffer pos
        match countStr suffix (Scan.slice buffer pos lineEnd) with
        | some count =>
            some { result with
              isPwned := true
              breachCount := parseCount count 0 }
        | none =>
            scanResponse buffer suffix rounds (nextLine buffer lineEnd) result
      else some result

/-! ## Requests -/

def maxRetries : Nat := 3

/-- The loop of `check_password`, with `left` rounds left until its condition
fails. -/
def requestLoop (replies : Nat → CurlReply) (suffix : SecureString) :
    (left retryCount : Nat) → HibpResult → Option HibpResult
  | 0, _, result => some result
  | left + 1, retryCount, result =>
      match replies retryCount with
      | .failed strerror =>
          some { result with
            errorMessage := textBytes "CURL request failed: " ++ strerror }
      | .response code body =>
          if code = 429 then
            if retryCount + 1 > maxRetries then
              some { result with
                errorMessage :=
                  textBytes "HIBP Rate Limit Exceeded after retries." }
            else requestLoop replies suffix left (retryCount + 1) result
          else if code ≠ 200 then
            some { result with
              errorMessage := textBytes ("API returned error code: " ++
                toString code.toInt) }
          else scanResponse body suffix (body.length + 1) 0 result

/-- `check_password`; it answers nothing only if the scanner does not come to
an end. -/
def checkPassword (env : LookupEnv) (sha1 : SecureString) :
    Option HibpResult :=
  if sha1.length < 5 then
    some ⟨false, 0, textBytes "Invalid SHA-1 hash."⟩
  else if !env.initialized then
    some ⟨false, 0, textBytes "Failed to initialize CURL."⟩
  else
    requestLoop (env.replies (sha1.take 5)) (sha1.drop 5) (maxRetries + 1) 0
      ⟨false, 0, []⟩

/-! ## The scanner comes to an end -/

/-- A round gets at least one byte further. -/
theorem lt_nextLine {buffer : SecureBytes} {pos : Nat}
    (more : pos < buffer.length) :
    pos < nextLine buffer (lineEndFrom buffer pos) :=
  Scan.lt_extent_extent more

/-- With a round for every byte that is left, the scan of the response comes to
its end. -/
theorem scanResponse_isSome (buffer : SecureBytes) (suffix : SecureString)
    (result : HibpResult) {rounds pos : Nat}
    (enough : buffer.length - pos < rounds) :
    (scanResponse buffer suffix rounds pos result).isSome := by
  induction rounds generalizing pos with
  | zero => exact absurd enough (Nat.not_lt_zero _)
  | succ rounds inductionHypothesis =>
      unfold scanResponse
      split
      · next more =>
          dsimp only
          split
          · rfl
          · have further := lt_nextLine more
            apply inductionHypothesis
            omega
      · rfl

/-- The retries come to an end, whatever libcurl replies. -/
theorem requestLoop_isSome (replies : Nat → CurlReply) (suffix : SecureString)
    (result : HibpResult) (left retryCount : Nat) :
    (requestLoop replies suffix left retryCount result).isSome := by
  induction left generalizing retryCount with
  | zero => rfl
  | succ left inductionHypothesis =>
      unfold requestLoop
      split
      · rfl
      · split
        · split
          · rfl
          · exact inductionHypothesis (retryCount + 1)
        · split
          · rfl
          · apply scanResponse_isSome
            omega

/-- So every lookup has a result. -/
theorem checkPassword_isSome (env : LookupEnv) (sha1 : SecureString) :
    (checkPassword env sha1).isSome := by
  unfold checkPassword
  split
  · rfl
  · split
    · rfl
    · exact requestLoop_isSome _ _ _ _ _

end DuckPass
