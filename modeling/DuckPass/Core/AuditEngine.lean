/-
Module: DuckPass.Core.AuditEngine
Purpose: `AuditEngine::run_audit` of `audit_engine.cpp` and the text of its
  report.
Trusted boundary: the worker, OpenSSL, libcurl and the threads, as the calls
  listed in an `AuditEnv`; the order in which the hash map is iterated.
Main exports: AuditConfig, EntryAuditResult, AuditReport, AuditEnv, runAudit,
  issuesColumn, printReport
-/
import DuckPass.Core.Crypto
import DuckPass.Core.EntropyEvaluator
import DuckPass.Core.HibpChecker
import DuckPass.Core.Vault
import DuckPass.Lib.Grouping

namespace DuckPass

/-! ## Results -/

structure EntryAuditResult where
  service : SecureBytes
  username : SecureBytes
  entropy : EntropyScore
  hibp : HibpResult
  isReused : Bool
  reusedWith : List SecureBytes
  isStale : Bool
  lastUpdated : UInt64
deriving Repr, Inhabited, DecidableEq

structure AuditReport where
  entries : List EntryAuditResult
  totalEntries : Nat
  weakPasswords : Nat
  pwnedPasswords : Nat
  reusedPasswords : Nat
  stalePasswords : Nat
deriving Repr, Inhabited, DecidableEq

structure AuditConfig where
  checkOnline : Bool := false
  staleThresholdSeconds : UInt64 := 31536000
deriving Repr, Inhabited, DecidableEq

/-! ## Surroundings -/

/-- What leaves the thread of a lookup instead of a result: an exception with
its `what()`, or one of another type. -/
inductive ThreadException where
  | standard (what : SecureBytes)
  | unknown
deriving Repr, Inhabited, DecidableEq

/-- What the fields of an `EntryAuditResult` that nothing initialises hold. -/
structure Indeterminate where
  isReused : Bool
  isPwned : Bool
  breachCount : Int64
deriving Repr, Inhabited, DecidableEq

/-- How the calls for one entry go. -/
structure EntryCalls where
  exchange : Exchange
  sha256Fault : Option String
  sha1Fault : Option String
  asyncFault : Option String
  lookup : LookupEnv
  thread : Option ThreadException
  indeterminate : Indeterminate

/-- `std::unordered_map`: it may be iterated in any order. -/
structure IterationOrder where
  visit : List (SecureString × List Nat) → List (SecureString × List Nat)
  perm : ∀ buckets, (visit buckets).Perm buckets

structure AuditEnv where
  now : UInt64
  digests : Digests
  calls : (index : Nat) → EntryCalls
  order : IterationOrder

/-! ## The loop over the entries -/

/-- The report, the hash map and the futures. -/
structure AuditProgress where
  report : AuditReport
  hashToIndices : List (SecureString × List Nat)
  hibpFutures : List (Except ThreadException HibpResult)

/-- A `std::string` made of a `c_str()`. -/
def cString (text : SecureString) : SecureBytes := text.takeWhile (· ≠ 0)

def liftError {α : Type} : Except DuckpassError α → Except AuditFault α
  | .error error => .error (.threw error)
  | .ok value => .ok value

/-- What `get` on the future of a lookup gives. -/
def EntryCalls.outcome (calls : EntryCalls) (sha1 : SecureString) :
    Except ThreadException HibpResult :=
  match calls.thread with
  | some exception => .error exception
  | none =>
      .ok ((checkPassword calls.lookup sha1).get (checkPassword_isSome _ _))

/-- Step 2.  The difference of the times wraps around. -/
def isStale (now : UInt64) (config : AuditConfig) (lastUpdated : UInt64) :
    Bool :=
  decide (lastUpdated > 0 ∧ now - lastUpdated > config.staleThresholdSeconds)

/-- Step 4: `hibp` of the result for now, and the future that is pushed. -/
def startLookup (env : AuditEnv) (config : AuditConfig) (index : Nat)
    (password : SecureString) :
    Except AuditFault
      (HibpResult × List (Except ThreadException HibpResult)) := do
  let calls := env.calls index
  if config.checkOnline then
    let sha1 ← liftError (computeSha1 env.digests calls.sha1Fault password)
    match calls.asyncFault with
    | some message => throw (.threw (.runtimeError message))
    | none =>
        return (⟨calls.indeterminate.isPwned, calls.indeterminate.breachCount,
          []⟩, [calls.outcome sha1])
  else
    return (⟨false, 0, textBytes "Online check disabled"⟩, [])

/-- The report with one more result. -/
def AuditReport.push (report : AuditReport) (result : EntryAuditResult) :
    AuditReport :=
  { report with
    entries := report.entries ++ [result]
    weakPasswords :=
      if result.entropy.isWeak then report.weakPasswords + 1
      else report.weakPasswords
    stalePasswords :=
      if result.isStale then report.stalePasswords + 1
      else report.stalePasswords }

/-- One round. -/
def auditEntry (env : AuditEnv) (config : AuditConfig) (index : Nat)
    (entry : VaultEntry) (progress : AuditProgress) :
    Except AuditFault AuditProgress := do
  let calls := env.calls index
  let entropy ← EntropyEvaluator.evaluate calls.exchange entry.password
  let hash256 ← liftError
    (computeSha256 env.digests calls.sha256Fault entry.password)
  let (hibp, started) ← startLookup env config index entry.password
  let result : EntryAuditResult :=
    { service := cString entry.service
      username := cString entry.username
      entropy := entropy
      hibp := hibp
      isReused := calls.indeterminate.isReused
      reusedWith := []
      isStale := isStale env.now config entry.lastUpdated
      lastUpdated := entry.lastUpdated }
  return ⟨progress.report.push result,
    Grouping.insert hash256 index progress.hashToIndices,
    progress.hibpFutures ++ started⟩

def auditEntries (env : AuditEnv) (config : AuditConfig) :
    (index : Nat) → List VaultEntry → AuditProgress →
      Except AuditFault AuditProgress
  | _, [], progress => .ok progress
  | index, entry :: entries, progress => do
      let progress ← auditEntry env config index entry progress
      auditEntries env config (index + 1) entries progress

/-! ## Finalisation -/

/-- The service of a result, by its index. -/
def AuditReport.serviceAt (report : AuditReport) (index : Nat) : SecureBytes :=
  (report.entries.map EntryAuditResult.service).getD index []

/-- The two loops of step 5 over the indices that share a hash, for `idx`. -/
def markReused (indices : List Nat) (report : AuditReport) (idx : Nat) :
    AuditReport :=
  { report with
    entries := report.entries.modify idx fun result =>
      { result with
        isReused := true
        reusedWith := result.reusedWith ++
          (indices.filter (idx ≠ ·)).map report.serviceAt } }

def finalizeIndices (report : AuditReport) (indices : List Nat) :
    AuditReport :=
  if indices.length > 1 then
    indices.foldl (markReused indices)
      { report with reusedPasswords := report.reusedPasswords + 1 }
  else report

/-- Step 5. -/
def finalizeReuses (order : IterationOrder)
    (hashToIndices : List (SecureString × List Nat)) (report : AuditReport) :
    AuditReport :=
  ((order.visit hashToIndices).map Prod.snd).foldl finalizeIndices report

/-- What step 6 makes of a future. -/
def finalHibp : Except ThreadException HibpResult → HibpResult
  | .ok hibp => hibp
  | .error (.standard what) =>
      ⟨false, 0, textBytes "HIBP check error: " ++ what⟩
  | .error .unknown =>
      ⟨false, 0, textBytes "HIBP check error: unknown exception"⟩

/-- Step 6. -/
def finalizeHibp : (index : Nat) → List (Except ThreadException HibpResult) →
    AuditReport → AuditReport
  | _, [], report => report
  | index, future :: futures, report =>
      finalizeHibp (index + 1) futures
        { report with
          entries := report.entries.modify index fun result =>
            { result with hibp := finalHibp future }
          pwnedPasswords :=
            if (finalHibp future).isPwned then report.pwnedPasswords + 1
            else report.pwnedPasswords }

/-- `run_audit`. -/
def runAudit (env : AuditEnv) (vault : Vault) (config : AuditConfig) :
    Except AuditFault AuditReport := do
  let progress ← auditEntries env config 0 vault.entries
    ⟨⟨[], vault.entries.length, 0, 0, 0, 0⟩, [], []⟩
  let report := finalizeReuses env.order progress.hashToIndices progress.report
  if config.checkOnline then
    return finalizeHibp 0 progress.hibpFutures report
  else return report

/-! ## The text of a report -/

/-- `std::left << std::setw(width) << text`. -/
def setw (width : Nat) (text : SecureBytes) : SecureBytes :=
  text ++ List.replicate (width - text.length) 0x20

/-- `issues`. -/
def issues (result : EntryAuditResult) : List SecureBytes :=
  (if result.entropy.isWeak then [textBytes "WEAK"] else []) ++
    (if result.hibp.isPwned then
      [textBytes ("PWNED(" ++ toString result.hibp.breachCount.toInt ++ ")")]
    else []) ++
    (if result.isReused then [textBytes "REUSED"] else []) ++
    (if result.isStale then [textBytes "STALE"] else [])

/-- What stands in the last column for an entry. -/
def issuesColumn (result : EntryAuditResult) : SecureBytes :=
  if (issues result).isEmpty then textBytes "Secure"
  else (textBytes ", ").intercalate (issues result)

/-- The columns before the last. -/
def printColumns (result : EntryAuditResult) : SecureBytes :=
  setw 20 result.service ++ setw 20 result.username ++
    setw 10 (textBytes (toString result.entropy.score.toInt))

def printEntry (result : EntryAuditResult) : SecureBytes :=
  printColumns result ++ issuesColumn result ++ textBytes "\n"

def reportHeader : SecureBytes :=
  textBytes "\n--- AUDIT REPORT ---\n" ++
    setw 20 (textBytes "Service") ++ setw 20 (textBytes "User") ++
    setw 10 (textBytes "Score") ++ textBytes "Issues\n" ++
    List.replicate 60 0x2D ++ textBytes "\n"

def reportSummary (report : AuditReport) : SecureBytes :=
  textBytes "\nSummary:\n" ++
    textBytes ("  - Total entries:    " ++ toString report.totalEntries ++
      "\n") ++
    textBytes ("  - Weak passwords:   " ++ toString report.weakPasswords ++
      "\n") ++
    textBytes ("  - Pwned passwords:  " ++ toString report.pwnedPasswords ++
      "\n") ++
    textBytes ("  - Reused passwords: " ++ toString report.reusedPasswords ++
      "\n") ++
    textBytes ("  - Stale passwords:  " ++ toString report.stalePasswords ++
      "\n")

/-- `operator<<`. -/
def printReport (report : AuditReport) : SecureBytes :=
  reportHeader ++ report.entries.flatMap printEntry ++ reportSummary report

end DuckPass
