/-
Module: DuckPass.Proofs.AuditThreads
Purpose: However the threads of an audit are scheduled, at most eight lookups
  are at work, nothing gets stuck, and the report is the one that `runAudit`
  computes with one thread.
Trusted boundary: none
Main exports: AuditThreads.ahead_step, AuditThreads.sound_step,
  AuditThreads.enabled, audit_threads_refine, audit_threads_end
-/
import DuckPass.Lib.InFlight
import DuckPass.Lib.Permits
import DuckPass.Lib.Run
import DuckPass.System.AuditThreads
import DuckPass.System.Symbolic
import DuckPass.System.SymbolicAudit

namespace DuckPass

/-- What the future of a lookup will give. -/
def LookupThread.outcome :
    LookupThread → Except ThreadException HibpResult
  | requesting calls sha1 => calls.outcome sha1
  | leaving outcome => outcome
  | storing outcome => outcome
  | ready outcome => outcome

namespace AuditThreads

/-! ## What is still to come -/

def futures (threads : AuditThreads) :
    List (Except ThreadException HibpResult) :=
  threads.lookups.map LookupThread.outcome

/-- The progress of an audit with one thread, where a lookup takes no time. -/
def progress (threads : AuditThreads) : AuditProgress :=
  ⟨threads.report, threads.hashToIndices, threads.futures⟩

/-- Steps 5 and 6. -/
def finalReport (env : AuditEnv) (config : AuditConfig)
    (progress : AuditProgress) : AuditReport :=
  let report := finalizeReuses env.order progress.hashToIndices progress.report
  if config.checkOnline then finalizeHibp 0 progress.hibpFutures report
  else report

section

variable (env : AuditEnv) (config : AuditConfig)

def entriesAhead (index : Nat) (left : List VaultEntry)
    (progress : AuditProgress) : Except AuditFault AuditReport :=
  (auditEntries env config index left progress).map (finalReport env config)

/-- A round whose lookup has been started. -/
def spawnedProgress (round : AuditRound) (progress : AuditProgress) :
    AuditProgress :=
  ⟨progress.report.push
      (roundResult env config round (pendingHibp env round)),
    Grouping.insert round.hash256 round.index progress.hashToIndices,
    progress.hibpFutures ++ [(env.calls round.index).outcome round.sha1]⟩

/-- A round without a lookup. -/
def offlineProgress (round : AuditRound) (progress : AuditProgress) :
    AuditProgress :=
  ⟨progress.report.push (roundResult env config round onlineDisabled),
    Grouping.insert round.hash256 round.index progress.hashToIndices,
    progress.hibpFutures⟩

def spawnAhead (round : AuditRound) (progress : AuditProgress) :
    Except AuditFault AuditProgress :=
  match (env.calls round.index).asyncFault with
  | some message => .error (.threw (.runtimeError message))
  | none => .ok (spawnedProgress env config round progress)

def roundAhead (round : AuditRound) (left : List VaultEntry)
    (progress : AuditProgress) : Except AuditFault AuditReport :=
  spawnAhead env config round progress >>=
    entriesAhead env config (round.index + 1) left

/-- What `run_audit` will end with, if lookups take no time from now on. -/
def aheadOf (progress : AuditProgress) :
    AuditMain → Except AuditFault AuditReport
  | .entries index left => entriesAhead env config index left progress
  | .acquiring round left => roundAhead env config round left progress
  | .spawning round left => roundAhead env config round left progress
  | .collecting collected =>
      .ok (finalizeHibp collected (progress.hibpFutures.drop collected)
        progress.report)
  | .unwinding fault => .error fault
  | .ended result => result

def ahead (threads : AuditThreads) : Except AuditFault AuditReport :=
  aheadOf env config threads.progress threads.main

end

variable {env : AuditEnv} {config : AuditConfig}
  {threads next : AuditThreads} {progress : AuditProgress}

/-- At the start all of the audit is ahead. -/
theorem ahead_start (env : AuditEnv) (config : AuditConfig) (vault : Vault) :
    ahead env config (start vault) = runAudit env vault config := by
  change entriesAhead env config 0 vault.entries
      ⟨⟨[], vault.entries.length, 0, 0, 0, 0⟩, [], []⟩ = _
  unfold entriesAhead runAudit finalReport
  cases auditEntries env config 0 vault.entries
      ⟨⟨[], vault.entries.length, 0, 0, 0, 0⟩, [], []⟩ with
  | error fault => rfl
  | ok progress =>
      cases online : config.checkOnline with
      | false => rfl
      | true => rfl

/-- A round in the two steps in which it is made. -/
theorem auditEntry_eq (index : Nat) (entry : VaultEntry) :
    auditEntry env config index entry progress =
      prepareRound env config index entry >>= fun round =>
        if config.checkOnline then spawnAhead env config round progress
        else .ok (offlineProgress env config round progress) := by
  unfold auditEntry prepareRound startLookup
  dsimp only
  cases EntropyEvaluator.evaluate (env.calls index).exchange entry.password with
  | error fault => rfl
  | ok entropy =>
      cases liftError (computeSha256 env.digests (env.calls index).sha256Fault
          entry.password) with
      | error fault => rfl
      | ok hash256 =>
          cases online : config.checkOnline with
          | false =>
              simp only [offlineProgress, roundResult, onlineDisabled, bind,
                Except.bind, pure, Except.pure, Bool.false_eq_true, if_false,
                List.append_nil]
          | true =>
              cases liftError (computeSha1 env.digests
                  (env.calls index).sha1Fault entry.password) with
              | error fault => rfl
              | ok sha1 =>
                  simp only [spawnAhead, bind, Except.bind, pure, Except.pure,
                    if_true]
                  cases (env.calls index).asyncFault with
                  | some message => rfl
                  | none => rfl

/-- The rounds that are ahead begin with the next one. -/
theorem entriesAhead_cons (index : Nat) (entry : VaultEntry)
    (left : List VaultEntry) :
    entriesAhead env config index (entry :: left) progress =
      auditEntry env config index entry progress >>=
        entriesAhead env config (index + 1) left := by
  unfold entriesAhead
  rw [auditEntries]
  cases auditEntry env config index entry progress with
  | error fault => rfl
  | ok progress => rfl

/-- A round knows its place in the vault. -/
theorem prepareRound_index {index : Nat} {entry : VaultEntry}
    {round : AuditRound}
    (prepared : prepareRound env config index entry = .ok round) :
    round.index = index := by
  unfold prepareRound at prepared
  dsimp only at prepared
  obtain ⟨entropy, _, prepared⟩ := bind_eq_ok.mp prepared
  obtain ⟨hash256, _, prepared⟩ := bind_eq_ok.mp prepared
  cases online : config.checkOnline with
  | false =>
      rw [online] at prepared
      cases prepared
      rfl
  | true =>
      rw [online] at prepared
      obtain ⟨sha1, _, prepared⟩ := bind_eq_ok.mp prepared
      cases prepared
      rfl

/-! ## What one step does -/

/-- A lookup goes on; the number is that of the permits it gives back. -/
inductive Goes : LookupThread → LookupThread → Nat → Prop where
  | answered {calls sha1} :
      Goes (.requesting calls sha1) (.leaving (calls.outcome sha1)) 0
  | released {outcome} : Goes (.leaving outcome) (.storing outcome) 1
  | stored {outcome} : Goes (.storing outcome) (.ready outcome) 0

/-- One step of one of the threads. -/
inductive Moves (env : AuditEnv) (config : AuditConfig)
    (threads : AuditThreads) : AuditThreads → Prop where
  | endLoop {index} (here : threads.main = .entries index []) :
      Moves env config threads (threads.loopStep env config index [])
  | failRound {index entry left fault}
      (here : threads.main = .entries index (entry :: left))
      (failed : prepareRound env config index entry = .error fault) :
      Moves env config threads { threads with main := .unwinding fault }
  | startRound {index entry left round}
      (here : threads.main = .entries index (entry :: left))
      (prepared : prepareRound env config index entry = .ok round)
      (online : config.checkOnline = true) :
      Moves env config threads { threads with main := .acquiring round left }
  | offlineRound {index entry left round}
      (here : threads.main = .entries index (entry :: left))
      (prepared : prepareRound env config index entry = .ok round)
      (offline : config.checkOnline = false) :
      Moves env config threads
        { threads.finishRound env config round onlineDisabled with
          main := .entries (index + 1) left }
  | acquire {round left others} (here : threads.main = .acquiring round left)
      (free : threads.permits = others + 1) :
      Moves env config threads
        { threads with permits := others, main := .spawning round left }
  | refused {round left message}
      (here : threads.main = .spawning round left)
      (fault : (env.calls round.index).asyncFault = some message) :
      Moves env config threads
        { threads with
          permits := threads.permits + 1
          main := .unwinding (.threw (.runtimeError message)) }
  | spawned {round left} (here : threads.main = .spawning round left)
      (noFault : (env.calls round.index).asyncFault = none) :
      Moves env config threads
        { threads.finishRound env config round (pendingHibp env round) with
          main := .entries (round.index + 1) left
          lookups := threads.lookups ++
            [.requesting (env.calls round.index) round.sha1] }
  | collected {index outcome} (here : threads.main = .collecting index)
      (found : threads.lookups[index]? = some (.ready outcome)) :
      Moves env config threads
        { threads with
          report := collect index outcome threads.report
          main := .collecting (index + 1) }
  | returned {index} (here : threads.main = .collecting index)
      (last : threads.lookups[index]? = none) :
      Moves env config threads
        { threads with main := .ended (.ok threads.report) }
  | threw {fault} (here : threads.main = .unwinding fault)
      (all : threads.lookups.all LookupThread.isReady = true) :
      Moves env config threads { threads with main := .ended (.error fault) }
  | lookup {position thread after freed}
      (found : threads.lookups[position]? = some thread)
      (goes : Goes thread after freed) :
      Moves env config threads
        { threads with
          permits := threads.permits + freed
          lookups := threads.lookups.set position after }

/-- The head of the loop. -/
theorem moves_of_loopStep {index : Nat} {left : List VaultEntry}
    (here : threads.main = .entries index left) :
    Moves env config threads (threads.loopStep env config index left) := by
  cases left with
  | nil => exact .endLoop here
  | cons entry left =>
      unfold loopStep
      dsimp only
      cases prepared : prepareRound env config index entry with
      | error fault => exact .failRound here prepared
      | ok round =>
          cases online : config.checkOnline with
          | false => exact .offlineRound here prepared online
          | true => exact .startRound here prepared online

/-- The thread that called `run_audit`. -/
theorem moves_of_mainStep (stepped : threads.mainStep env config = some next) :
    Moves env config threads next := by
  unfold mainStep at stepped
  cases here : threads.main with
  | entries index left =>
      rw [here] at stepped
      cases stepped
      exact moves_of_loopStep here
  | acquiring round left =>
      rw [here] at stepped
      cases permits : threads.permits with
      | zero =>
          rw [permits] at stepped
          cases stepped
      | succ free =>
          rw [permits] at stepped
          cases stepped
          exact .acquire here permits
  | spawning round left =>
      rw [here] at stepped
      cases stepped
      cases fault : (env.calls round.index).asyncFault with
      | some message =>
          unfold spawnStep
          simp only [fault]
          exact .refused here fault
      | none =>
          unfold spawnStep
          simp only [fault]
          exact .spawned here fault
  | collecting index =>
      rw [here] at stepped
      cases found : threads.lookups[index]? with
      | none =>
          simp only [found] at stepped
          cases stepped
          exact .returned here found
      | some thread =>
          simp only [found] at stepped
          cases thread with
          | requesting _ _ => cases stepped
          | leaving _ => cases stepped
          | storing _ => cases stepped
          | ready outcome =>
              cases stepped
              exact .collected here found
  | unwinding fault =>
      rw [here] at stepped
      cases all : threads.lookups.all LookupThread.isReady with
      | false =>
          simp only [all] at stepped
          cases stepped
      | true =>
          simp only [all] at stepped
          cases stepped
          exact .threw here all
  | ended result =>
      rw [here] at stepped
      cases stepped

/-- The threads of the lookups. -/
theorem moves_of_lookupStep {position : Nat}
    (stepped : threads.lookupStep position = some next) :
    Moves env config threads next := by
  unfold lookupStep at stepped
  cases found : threads.lookups[position]? with
  | none =>
      rw [found] at stepped
      cases stepped
  | some thread =>
      rw [found] at stepped
      cases thread with
      | requesting calls sha1 =>
          cases stepped
          exact .lookup found .answered
      | leaving outcome =>
          cases stepped
          exact .lookup found .released
      | storing outcome =>
          cases stepped
          exact .lookup found .stored
      | ready outcome => cases stepped

/-- Every step is one of the moves. -/
theorem moves_of_step {event : AuditEvent} {reply : Unit}
    (stepped : step env config threads event = some (next, reply)) :
    Moves env config threads next := by
  cases event with
  | main =>
      obtain ⟨after, taken, same⟩ := Option.map_eq_some_iff.mp stepped
      cases same
      exact moves_of_mainStep taken
  | lookup position =>
      obtain ⟨after, taken, same⟩ := Option.map_eq_some_iff.mp stepped
      cases same
      exact moves_of_lookupStep taken

/-! ## The result stays the same -/

/-- A lookup that goes on keeps the outcome that it will have. -/
theorem map_outcome_set {lookups : List LookupThread} {position freed : Nat}
    {thread after : LookupThread} (found : lookups[position]? = some thread)
    (goes : Goes thread after freed) :
    (lookups.set position after).map LookupThread.outcome =
      lookups.map LookupThread.outcome := by
  have same : after.outcome = thread.outcome := by
    cases goes with
    | answered | released | stored => rfl
  obtain ⟨inside, rfl⟩ := List.getElem?_eq_some_iff.mp found
  have kept := @List.set_getElem_self _
    (lookups.map LookupThread.outcome) position (by simpa using inside)
  rw [List.getElem_map] at kept
  rw [List.map_set, same, kept]

/-- No move changes the report that the audit with one thread would have ended
with: this is what makes the interleaving irrelevant. -/
theorem ahead_moves (moves : Moves env config threads next) :
    ahead env config next = ahead env config threads := by
  unfold ahead
  cases moves with
  | endLoop here =>
      rw [here]
      unfold loopStep
      cases online : config.checkOnline with
      | false =>
          simp only [aheadOf, entriesAhead, auditEntries, Except.map,
            finalReport, online, Bool.false_eq_true, if_false, progress]
      | true =>
          simp only [aheadOf, entriesAhead, auditEntries, Except.map,
            finalReport, online, if_true, progress, futures, List.drop_zero]
  | failRound here failed =>
      rw [here]
      simp only [aheadOf]
      rw [entriesAhead_cons, auditEntry_eq, failed]
      rfl
  | startRound here prepared online =>
      rw [here]
      simp only [aheadOf]
      rw [entriesAhead_cons, auditEntry_eq, prepared, online, roundAhead,
        prepareRound_index prepared]
      rfl
  | offlineRound here prepared offline =>
      rw [here]
      simp only [aheadOf]
      rw [entriesAhead_cons, auditEntry_eq, prepared, offline]
      rfl
  | acquire here free =>
      rw [here]
      rfl
  | refused here fault =>
      rw [here]
      simp only [aheadOf]
      rw [roundAhead, spawnAhead, fault]
      rfl
  | spawned here noFault =>
      rw [here]
      simp only [aheadOf]
      rw [roundAhead, spawnAhead, noFault]
      simp only [progress, futures, List.map_append, List.map_cons,
        List.map_nil, LookupThread.outcome]
      rfl
  | @collected index outcome here found =>
      rw [here]
      have answered : threads.futures[index]? = some outcome := by
        rw [futures, List.getElem?_map, found]
        rfl
      obtain ⟨more, first⟩ := List.getElem?_eq_some_iff.mp answered
      have split := List.drop_eq_getElem_cons more
      rw [first] at split
      simp only [aheadOf, progress]
      rw [split]
      rfl
  | @returned index here last =>
      rw [here]
      have nothing : threads.futures.drop index = [] := by
        rw [futures, ← List.map_drop,
          List.drop_eq_nil_of_le (List.getElem?_eq_none_iff.mp last)]
        rfl
      simp only [aheadOf, progress]
      rw [nothing]
      rfl
  | threw here all =>
      rw [here]
      rfl
  | lookup found goes =>
      have same := map_outcome_set found goes
      simp only [progress, futures]
      rw [same]

/-! ## What holds between two steps -/

/-- The permits that the thread of `run_audit` has taken and not handed over. -/
def held : AuditMain → Nat
  | .entries _ _ => 0
  | .acquiring _ _ => 0
  | .spawning _ _ => 1
  | .collecting _ => 0
  | .unwinding _ => 0
  | .ended _ => 0

/-- The lookups that are known to be at their end. -/
def Settled (config : AuditConfig) (lookups : List LookupThread) :
    AuditMain → Prop
  | .entries _ _ => config.checkOnline = false → lookups = []
  | .acquiring _ _ => config.checkOnline = true
  | .spawning _ _ => config.checkOnline = true
  | .collecting collected =>
      ∀ thread ∈ lookups.take collected, thread.isReady = true
  | .unwinding _ => True
  | .ended _ => ∀ thread ∈ lookups, thread.isReady = true

structure Sound (env : AuditEnv) (config : AuditConfig) (vault : Vault)
    (threads : AuditThreads) : Prop where
  ahead : ahead env config threads = runAudit env vault config
  permits : Permits.Balanced LookupThread.hasPermit maxPermits
    (threads.permits + held threads.main) threads.lookups
  settled : Settled config threads.lookups threads.main

variable {vault : Vault}

/-- All of it holds at the start. -/
theorem sound_start (env : AuditEnv) (config : AuditConfig) (vault : Vault) :
    Sound env config vault (start vault) :=
  ⟨ahead_start env config vault, rfl, fun _ => rfl⟩

/-- A permit is always free, or held by one lookup, or by the loop between
`acquire` and `std::async`. -/
theorem balanced_moves (moves : Moves env config threads next)
    (permits : Permits.Balanced LookupThread.hasPermit maxPermits
      (threads.permits + held threads.main) threads.lookups) :
    Permits.Balanced LookupThread.hasPermit maxPermits
      (next.permits + held next.main) next.lookups := by
  cases moves with
  | endLoop here =>
      rw [here] at permits
      unfold loopStep
      cases config.checkOnline with
      | false => exact permits
      | true => exact permits
  | failRound here _ | startRound here _ _ | offlineRound here _ _
  | refused here _ | collected here _ | returned here _ | threw here _ =>
      rw [here] at permits
      exact permits
  | acquire here free =>
      rw [here, free] at permits
      exact permits
  | spawned here noFault =>
      rw [here] at permits
      exact permits.handOver rfl
  | lookup found goes =>
      cases goes with
      | answered | stored => exact permits.keep found rfl
      | @released outcome =>
          have given := @Permits.Balanced.release _ _ _ _ _ _
            (.storing outcome) _ permits found rfl rfl
          rwa [Nat.add_right_comm] at given

/-- A lookup that goes on is not one of those that are at their end. -/
theorem settled_set {lookups : List LookupThread} {main : AuditMain}
    {position freed : Nat} {thread after : LookupThread}
    (settled : Settled config lookups main)
    (found : lookups[position]? = some thread)
    (goes : Goes thread after freed) :
    Settled config (lookups.set position after) main := by
  have busy : thread.isReady = false := by
    cases goes with
    | answered | released | stored => rfl
  have member := List.mem_of_getElem? found
  cases main with
  | entries index left =>
      intro offline
      rw [settled offline] at found
      cases found
  | acquiring round left => exact settled
  | spawning round left => exact settled
  | collecting collected =>
      -- A future that has been collected was ready, and stays so.
      by_cases early : position < collected
      · have among : thread ∈ lookups.take collected := by
          refine List.mem_of_getElem? (i := position) ?_
          rw [List.getElem?_take_of_lt early, found]
        rw [settled thread among] at busy
        cases busy
      · intro other among
        rw [List.take_set_of_le (Nat.le_of_not_lt early)] at among
        exact settled other among
  | unwinding fault => exact trivial
  | ended result =>
      rw [settled thread member] at busy
      cases busy

/-- Lookups whose result has been collected are over, and all of them are at the
end. -/
theorem settled_moves (moves : Moves env config threads next)
    (settled : Settled config threads.lookups threads.main) :
    Settled config next.lookups next.main := by
  cases moves with
  | endLoop here =>
      rw [here] at settled
      unfold loopStep
      cases online : config.checkOnline with
      | false =>
          intro thread member
          rw [settled online] at member
          cases member
      | true =>
          intro thread member
          cases member
  | failRound here failed => exact trivial
  | startRound here prepared online => exact online
  | offlineRound here prepared offline =>
      rw [here] at settled
      exact settled
  | acquire here free =>
      rw [here] at settled
      exact settled
  | refused here fault => exact trivial
  | spawned here noFault =>
      rw [here] at settled
      intro offline
      rw [show config.checkOnline = true from settled] at offline
      cases offline
  | @collected index outcome here found =>
      rw [here] at settled
      intro thread member
      rw [List.take_add_one, found] at member
      obtain earlier | last := List.mem_append.mp member
      · exact settled thread earlier
      · rw [Option.toList_some, List.mem_singleton] at last
        rw [last]
        rfl
  | @returned index here last =>
      rw [here] at settled
      intro thread member
      have whole := List.take_of_length_le (List.getElem?_eq_none_iff.mp last)
      exact settled thread (whole.symm ▸ member)
  | threw here all => exact fun thread => List.all_eq_true.mp all thread
  | lookup found goes => exact settled_set settled found goes

/-- All of it is kept by every step. -/
theorem sound_step {event : AuditEvent} {reply : Unit}
    (sound : Sound env config vault threads)
    (stepped : step env config threads event = some (next, reply)) :
    Sound env config vault next := by
  have moves := moves_of_step stepped
  exact ⟨(ahead_moves moves).trans sound.ahead,
    balanced_moves moves sound.permits, settled_moves moves sound.settled⟩

/-! ## Every schedule comes to an end -/

def lookupSteps : LookupThread → Nat
  | .requesting _ _ => 3
  | .leaving _ => 2
  | .storing _ => 1
  | .ready _ => 0

/-- A bound on the steps of `run_audit`, with room for the lookups that it
starts. -/
def mainSteps (lookups : Nat) : AuditMain → Nat
  | .entries _ left => 8 * left.length + lookups + 4
  | .acquiring _ left => 8 * left.length + lookups + 11
  | .spawning _ left => 8 * left.length + lookups + 10
  | .collecting collected => lookups - collected + 2
  | .unwinding _ => 1
  | .ended _ => 0

def stepsLeft (threads : AuditThreads) : Nat :=
  mainSteps threads.lookups.length threads.main +
    (threads.lookups.map lookupSteps).sum

/-- Every move brings the end nearer. -/
theorem stepsLeft_moves (moves : Moves env config threads next) :
    stepsLeft next < stepsLeft threads := by
  unfold stepsLeft
  cases moves with
  | endLoop here =>
      rw [here]
      unfold loopStep
      cases config.checkOnline with
      | false | true => simp [mainSteps]
  | failRound here _ | acquire here _ | refused here _ | returned here _
  | threw here _ =>
      rw [here]
      simp only [mainSteps]
      omega
  | startRound here prepared online =>
      rw [here]
      simp only [mainSteps, List.length_cons]
      omega
  | offlineRound here prepared offline =>
      rw [here]
      simp only [mainSteps, finishRound, List.length_cons]
      omega
  | spawned here noFault =>
      rw [here]
      simp only [mainSteps, List.length_append, List.length_cons,
        List.length_nil, List.map_append, List.map_cons, List.map_nil,
        List.sum_append, List.sum_cons, List.sum_nil, lookupSteps]
      omega
  | collected here found =>
      have inside := (List.getElem?_eq_some_iff.mp found).1
      rw [here]
      simp only [mainSteps]
      omega
  | @lookup position thread after freed found goes =>
      have total := InFlight.sum_set_add lookupSteps after found
      have fewer : lookupSteps after < lookupSteps thread := by
        cases goes with
        | answered => exact Nat.lt_succ_self 2
        | released => exact Nat.lt_succ_self 1
        | stored => exact Nat.lt_succ_self 0
      simp only [List.length_set]
      omega

/-! ## Nothing gets stuck -/

/-- A lookup that is not over can always go on. -/
theorem lookup_enabled {position : Nat} {thread : LookupThread}
    (found : threads.lookups[position]? = some thread)
    (busy : thread.isReady = false) :
    ∃ event next reply, step env config threads event = some (next, reply) := by
  have goesOn : (threads.lookupStep position).isSome = true := by
    unfold lookupStep
    rw [found]
    cases thread with
    | requesting calls sha1 => rfl
    | leaving outcome => rfl
    | storing outcome => rfl
    | ready outcome => cases busy
  obtain ⟨after, stepped⟩ := Option.isSome_iff_exists.mp goesOn
  exact ⟨.lookup position, after, (), by rw [step, stepped]; rfl⟩

/-- Wherever it stands in the list. -/
theorem lookup_enabled_of_mem {thread : LookupThread}
    (member : thread ∈ threads.lookups) (busy : thread.isReady = false) :
    ∃ event next reply, step env config threads event = some (next, reply) := by
  obtain ⟨position, found⟩ := List.mem_iff_getElem?.mp member
  exact lookup_enabled found busy

def Ended (threads : AuditThreads) : Prop :=
  ∃ result, threads.main = .ended result

/-- The thread of `run_audit` can go on when nothing holds it up. -/
theorem main_enabled (goesOn : (threads.mainStep env config).isSome = true) :
    ∃ event next reply,
      step env config threads event = some (next, reply) := by
  obtain ⟨after, stepped⟩ := Option.isSome_iff_exists.mp goesOn
  exact ⟨.main, after, (), by rw [step, stepped]; rfl⟩

/-- Whoever `run_audit` waits for can go on. -/
theorem enabled (sound : Sound env config vault threads)
    (running : ¬ Ended threads) :
    ∃ event next reply, step env config threads event = some (next, reply) := by
  cases here : threads.main with
  | entries index left => exact main_enabled (by rw [mainStep, here]; rfl)
  | acquiring round left =>
      cases permits : threads.permits with
      | zero =>
          -- Every permit is held, by a lookup that can go on.
          have balanced := sound.permits
          rw [here, permits] at balanced
          obtain ⟨thread, member, holds⟩ :=
            balanced.exists_holder (by decide)
          refine lookup_enabled_of_mem member ?_
          cases thread with
          | requesting _ _ => rfl
          | leaving _ => rfl
          | storing _ => cases holds
          | ready _ => cases holds
      | succ others =>
          refine main_enabled ?_
          rw [mainStep, here]
          dsimp only
          rw [permits, if_neg (Nat.succ_ne_zero others)]
          rfl
  | spawning round left => exact main_enabled (by rw [mainStep, here]; rfl)
  | collecting index =>
      cases found : threads.lookups[index]? with
      | none =>
          refine main_enabled ?_
          rw [mainStep, here]
          dsimp only
          rw [found]
          rfl
      | some thread =>
          cases ready : thread.isReady with
          | false => exact lookup_enabled found ready
          | true =>
              cases thread with
              | requesting _ _ => cases ready
              | leaving _ => cases ready
              | storing _ => cases ready
              | ready outcome =>
                  refine main_enabled ?_
                  rw [mainStep, here]
                  dsimp only
                  rw [found]
                  rfl
  | unwinding fault =>
      cases all : threads.lookups.all LookupThread.isReady with
      | true =>
          refine main_enabled ?_
          rw [mainStep, here]
          dsimp only
          rw [if_pos all]
          rfl
      | false =>
          obtain ⟨thread, member, busy⟩ := List.all_eq_false.mp all
          exact lookup_enabled_of_mem member (Bool.eq_false_iff.mpr busy)
  | ended result => exact absurd ⟨result, here⟩ running

end AuditThreads

/-! ## Every run -/

namespace AuditThreads

/-- Two accounts, and an audit that looks their passwords up. -/
def accounts : Vault :=
  (Vault.empty.store (Symbolic.entry 0x41 7)).store
    ⟨[0x74], [1], [0x42], [], 7⟩

def online : AuditConfig := { checkOnline := true }

/-- The second lookup is over before the first one begins. -/
def overlapping : List AuditEvent :=
  [.main, .main, .main, .main, .main, .main, .lookup 1, .lookup 1, .lookup 1,
    .main, .lookup 0, .lookup 0, .lookup 0, .main, .main, .main]

def overlapped : AuditThreads :=
  Run.reached (step (Symbolic.audit 7 false accounts) online) (start accounts)
    overlapping

theorem run_overlapping :
    Run.run (step (Symbolic.audit 7 false accounts) online) (start accounts)
      overlapping = some (overlapped, List.replicate 16 ()) :=
  Run.run_reached rfl

end AuditThreads

section

variable {env : AuditEnv} {config : AuditConfig} {vault : Vault}
  {last : AuditThreads} {events : List AuditEvent} {replies : List Unit}

open AuditThreads

/-- Whichever thread goes on at each moment, at most eight lookups are in
`check_password`, the semaphore is never released above its maximum, and when
`run_audit` ends, no lookup is left and it has ended as the audit in which
lookups take no time. -/
theorem audit_threads_refine
    (ran : Run.run (AuditThreads.step env config) (start vault) events =
      some (last, replies)) :
    last.lookups.countP LookupThread.isRequesting ≤ 8 ∧ last.permits ≤ 8 ∧
      ∀ result, last.main = .ended result →
        result = runAudit env vault config ∧
          ∀ thread ∈ last.lookups, thread.isReady = true := by
  have sound := Run.invariant_of_step AuditThreads.sound_step
    (sound_start env config vault) ran
  obtain ⟨free, holders⟩ := sound.permits.le
  have requesting : last.lookups.countP LookupThread.isRequesting ≤
      last.lookups.countP LookupThread.hasPermit := by
    refine List.countP_mono_left fun thread _ asks => ?_
    cases thread with
    | requesting _ _ => rfl
    | leaving _ => rfl
    | storing _ => cases asks
    | ready _ => cases asks
  refine ⟨requesting.trans holders, (Nat.le_add_right _ _).trans free, ?_⟩
  intro result here
  have ahead := sound.ahead
  have settled := sound.settled
  rw [here] at settled
  rw [AuditThreads.ahead, here] at ahead
  exact ⟨ahead, settled⟩

theorem audit_threads_refine_overlapping :
    overlapped.lookups.countP LookupThread.isRequesting ≤ 8 ∧
      overlapped.permits ≤ 8 ∧
      ∀ result, overlapped.main = .ended result →
        result = runAudit (Symbolic.audit 7 false accounts) accounts online ∧
          ∀ thread ∈ overlapped.lookups, thread.isReady = true :=
  audit_threads_refine run_overlapping

/-- No schedule is longer than the bound, and from wherever one has got to, the
threads can go on until `run_audit` has ended. -/
theorem audit_threads_end
    (ran : Run.run (AuditThreads.step env config) (start vault) events =
      some (last, replies)) :
    events.length ≤ 8 * vault.entries.length + 4 ∧
      ∃ later final answers,
        Run.run (AuditThreads.step env config) last later =
            some (final, answers) ∧
          final.main = .ended (runAudit env vault config) := by
  have sound := Run.invariant_of_step AuditThreads.sound_step
    (sound_start env config vault) ran
  have decreases : ∀ {state next : AuditThreads} {event : AuditEvent}
      {reply : Unit}, AuditThreads.step env config state event =
        some (next, reply) → stepsLeft next < stepsLeft state :=
    fun stepped => stepsLeft_moves (moves_of_step stepped)
  have bounded := Run.length_add_le decreases ran
  have whole : stepsLeft (start vault) = 8 * vault.entries.length + 4 := rfl
  refine ⟨by omega, ?_⟩
  obtain ⟨later, final, answers, onward, result, here⟩ :=
    Run.completes AuditThreads.sound_step decreases AuditThreads.enabled sound
  have ended := Run.invariant_of_step AuditThreads.sound_step sound onward
  have ahead := ended.ahead
  rw [AuditThreads.ahead, here] at ahead
  exact ⟨later, final, answers, onward, here.trans (congrArg _ ahead)⟩

theorem audit_threads_end_overlapping :
    overlapping.length ≤ 8 * accounts.entries.length + 4 ∧
      ∃ later final answers,
        Run.run (AuditThreads.step (Symbolic.audit 7 false accounts) online)
            overlapped later = some (final, answers) ∧
          final.main =
            .ended (runAudit (Symbolic.audit 7 false accounts) accounts
              online) :=
  audit_threads_end run_overlapping

end

end DuckPass
