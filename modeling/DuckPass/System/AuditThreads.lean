/-
Module: DuckPass.System.AuditThreads
Purpose: `AuditEngine::run_audit` with the threads that it starts: the loop
  over the entries, which takes a permit of `network_sem` before it starts a
  lookup, and the lookups, which go on by themselves until their futures are
  ready.
Trusted boundary: as for `DuckPass.Core.AuditEngine`; the lists of `run_audit`
  find the memory to grow (where that of the futures does not, once the thread
  of a lookup has been started, its permit is given back twice).
Main exports: LookupThread, AuditRound, AuditMain, AuditThreads, AuditEvent,
  AuditThreads.start, AuditThreads.step
-/
import DuckPass.Core.AuditEngine

namespace DuckPass

/-- Where the thread of a lookup is: in `check_password`, before the destructor
of its `PermitGuard`, before its result is stored, or at its end. -/
inductive LookupThread where
  | requesting (calls : EntryCalls) (sha1 : SecureString)
  | leaving (outcome : Except ThreadException HibpResult)
  | storing (outcome : Except ThreadException HibpResult)
  | ready (outcome : Except ThreadException HibpResult)

namespace LookupThread

def isRequesting : LookupThread → Bool
  | requesting _ _ => true
  | _ => false

/-- The thread has a permit, which it was given at its start. -/
def hasPermit : LookupThread → Bool
  | requesting _ _ => true
  | leaving _ => true
  | storing _ => false
  | ready _ => false

def isReady : LookupThread → Bool
  | ready _ => true
  | _ => false

end LookupThread

/-- What a round of the loop has computed before it takes a permit. -/
structure AuditRound where
  index : Nat
  entry : VaultEntry
  entropy : EntropyScore
  hash256 : SecureString
  sha1 : SecureString

/-- Where the thread is that called `run_audit`: at the head of its loop, in
`acquire`, before `std::async`, in the loop over the futures, in the destructor
of the futures after an exception, or at the end. -/
inductive AuditMain where
  | entries (index : Nat) (left : List VaultEntry)
  | acquiring (round : AuditRound) (left : List VaultEntry)
  | spawning (round : AuditRound) (left : List VaultEntry)
  | collecting (collected : Nat)
  | unwinding (fault : AuditFault)
  | ended (result : Except AuditFault AuditReport)

/-- `permits` is the counter of `network_sem`; the threads stand in the order
of their futures. -/
structure AuditThreads where
  main : AuditMain
  report : AuditReport
  hashToIndices : List (SecureString × List Nat)
  permits : Nat
  lookups : List LookupThread

/-- Whose turn it is. -/
inductive AuditEvent where
  | main
  | lookup (position : Nat)
deriving Repr, Inhabited, DecidableEq

namespace AuditThreads

/-- `std::counting_semaphore<8>`. -/
def maxPermits : Nat := 8

def start (vault : Vault) : AuditThreads :=
  ⟨.entries 0 vault.entries, ⟨[], vault.entries.length, 0, 0, 0, 0⟩, [],
    maxPermits, []⟩

/-- Steps 1 to 3 of a round, and the hash for step 4. -/
def prepareRound (env : AuditEnv) (config : AuditConfig) (index : Nat)
    (entry : VaultEntry) : Except AuditFault AuditRound := do
  let calls := env.calls index
  let entropy ← EntropyEvaluator.evaluate calls.exchange entry.password
  let hash256 ← liftError
    (computeSha256 env.digests calls.sha256Fault entry.password)
  if config.checkOnline then
    let sha1 ← liftError
      (computeSha1 env.digests calls.sha1Fault entry.password)
    return ⟨index, entry, entropy, hash256, sha1⟩
  else return ⟨index, entry, entropy, hash256, []⟩

/-- The result of a round; `hibp` is what the member holds for now. -/
def roundResult (env : AuditEnv) (config : AuditConfig) (round : AuditRound)
    (hibp : HibpResult) : EntryAuditResult :=
  { service := cString round.entry.service
    username := cString round.entry.username
    entropy := round.entropy
    hibp := hibp
    isReused := (env.calls round.index).indeterminate.isReused
    reusedWith := []
    isStale := isStale env.now config round.entry.lastUpdated
    lastUpdated := round.entry.lastUpdated }

/-- `hibp` of a result whose lookup has been started. -/
def pendingHibp (env : AuditEnv) (round : AuditRound) : HibpResult :=
  let indeterminate := (env.calls round.index).indeterminate
  ⟨indeterminate.isPwned, indeterminate.breachCount, []⟩

def onlineDisabled : HibpResult :=
  ⟨false, 0, textBytes "Online check disabled"⟩

/-- The end of a round. -/
def finishRound (env : AuditEnv) (config : AuditConfig) (round : AuditRound)
    (hibp : HibpResult) (threads : AuditThreads) : AuditThreads :=
  { threads with
    report := threads.report.push (roundResult env config round hibp)
    hashToIndices :=
      Grouping.insert round.hash256 round.index threads.hashToIndices }

/-- A round of step 6, with what `get` gives. -/
def collect (index : Nat) (future : Except ThreadException HibpResult)
    (report : AuditReport) : AuditReport :=
  { report with
    entries := report.entries.modify index fun result =>
      { result with hibp := finalHibp future }
    pwnedPasswords :=
      if (finalHibp future).isPwned then report.pwnedPasswords + 1
      else report.pwnedPasswords }

/-- The head of the loop over the entries. -/
def loopStep (env : AuditEnv) (config : AuditConfig) (threads : AuditThreads)
    (index : Nat) : (left : List VaultEntry) → AuditThreads
  | [] =>
      let report :=
        finalizeReuses env.order threads.hashToIndices threads.report
      { threads with
        report := report
        main :=
          if config.checkOnline then .collecting 0 else .ended (.ok report) }
  | entry :: left =>
      match prepareRound env config index entry with
      | .error fault => { threads with main := .unwinding fault }
      | .ok round =>
          if config.checkOnline then
            { threads with main := .acquiring round left }
          else
            { threads.finishRound env config round onlineDisabled with
              main := .entries (index + 1) left }

/-- `std::async`.  If it throws, the permit is given back. -/
def spawnStep (env : AuditEnv) (config : AuditConfig) (threads : AuditThreads)
    (round : AuditRound) (left : List VaultEntry) : AuditThreads :=
  let calls := env.calls round.index
  match calls.asyncFault with
  | some message =>
      { threads with
        permits := threads.permits + 1
        main := .unwinding (.threw (.runtimeError message)) }
  | none =>
      { threads.finishRound env config round (pendingHibp env round) with
        main := .entries (round.index + 1) left
        lookups := threads.lookups ++ [.requesting calls round.sha1] }

/-- The thread of `run_audit`, unless it has to wait. -/
def mainStep (env : AuditEnv) (config : AuditConfig) (threads : AuditThreads) :
    Option AuditThreads :=
  match threads.main with
  | .entries index left => some (threads.loopStep env config index left)
  | .acquiring round left =>
      if threads.permits = 0 then none
      else
        some { threads with
          permits := threads.permits - 1
          main := .spawning round left }
  | .spawning round left => some (threads.spawnStep env config round left)
  | .collecting collected =>
      match threads.lookups[collected]? with
      | none => some { threads with main := .ended (.ok threads.report) }
      | some (.ready outcome) =>
          some { threads with
            report := collect collected outcome threads.report
            main := .collecting (collected + 1) }
      | some _ => none
  | .unwinding fault =>
      if threads.lookups.all LookupThread.isReady then
        some { threads with main := .ended (.error fault) }
      else none
  | .ended _ => none

/-- The thread of a lookup. -/
def lookupStep (threads : AuditThreads) (position : Nat) :
    Option AuditThreads :=
  match threads.lookups[position]? with
  | some (.requesting calls sha1) =>
      some { threads with
        lookups := threads.lookups.set position
          (.leaving (calls.outcome sha1)) }
  | some (.leaving outcome) =>
      some { threads with
        permits := threads.permits + 1
        lookups := threads.lookups.set position (.storing outcome) }
  | some (.storing outcome) =>
      some { threads with
        lookups := threads.lookups.set position (.ready outcome) }
  | some (.ready _) => none
  | none => none

def step (env : AuditEnv) (config : AuditConfig) (threads : AuditThreads)
    (event : AuditEvent) : Option (AuditThreads × Unit) :=
  match event with
  | .main => (threads.mainStep env config).map (·, ())
  | .lookup position => (threads.lookupStep position).map (·, ())

end AuditThreads

end DuckPass
