/-
Module: DuckPass.Proofs.FailedOperations
Purpose: What an `add_entry`, `update_entry` or `delete_entry` that throws
  leaves behind, at once and once later calls of the instance have saved.  The
  calls change the cached vault and the deletion list before the save that may
  fail, and only `rekey` takes its change back.
Trusted boundary: none beyond the named properties of the primitives.
Main exports: OnDisk, LeavesNoTrace, HarmlessFailure, LaterEvent,
  failed_call_leaves_no_trace_iff, failed_add_is_saved_later
-/
import DuckPass.Lib.Run
import DuckPass.Proofs.SingleWriter

namespace DuckPass

variable {primitives : Primitives} {service : SecureString}

/-! ## The entry on disk -/

/-- What a vault file has for the service: nothing if there is no file, else
what the vault has that whoever knows the password opens. -/
inductive OnDisk (primitives : Primitives) (service : SecureString) :
    Option SecureBytes → Option VaultEntry → Prop where
  | missing : OnDisk primitives service none none
  | opened {blob : SecureBytes} {password : SecureString}
      {clock rest : Clock} {disk : Vault} {entry : Option VaultEntry}
      (opens : openVaultBlob primitives none blob password clock =
        .ok (disk, rest))
      (found : disk.getEntry service = entry) :
      OnDisk primitives service (some blob) entry

/-- A vault file shows nothing but allowed credentials for the service. -/
def ShowsOnly (primitives : Primitives) (service : SecureString)
    (allowed : Option Credentials → Prop) (content : Option SecureBytes) :
    Prop :=
  ∀ entry, OnDisk primitives service content entry →
    allowed (entry.map VaultEntry.credentials)

theorem SealedBlob.showsOnly {password : SecureString} {vault : Vault}
    {blob : SecureBytes} {allowed : Option Credentials → Prop}
    (encrypted : SealedBlob primitives password vault blob)
    (ideal : primitives.Ideal)
    (holds : allowed (vault.credentials service)) :
    ShowsOnly primitives service allowed (some blob) := by
  intro entry onDisk
  cases onDisk with
  | opened opens found =>
      have same := encrypted.reads_credentials ideal service _ _ _ _ _ rfl opens
      rw [← found]
      change allowed (Vault.credentials _ service)
      rw [same]
      exact holds

/-! ## What comes later -/

/-- What may happen after the failed call: the instance is called again, or
another process changes the directory. -/
inductive LaterEvent where
  | call (call : Call)
  | external (files : Files)

/-- One later event, with the result of a call. -/
def LaterEvent.step (primitives : Primitives) (state : SoleWriter.State) :
    LaterEvent → Option (SoleWriter.State × Except DuckpassError Unit)
  | .call made => SoleWriter.serve primitives state made
  | .external files => some ((state.1, files), .ok ())

/-- The event is a call on another service, or leaves a vault file with nothing
but allowed credentials. -/
def LaterEvent.Spares (primitives : Primitives) (service : SecureString)
    (allowed : Option Credentials → Prop) (path : Path) : LaterEvent → Prop
  | .call made => made.request.target ≠ some service
  | .external files => ShowsOnly primitives service allowed (files path)

/-! ## No trace -/

/-- A call on the service that has thrown has left no trace: not in the vault
file, the cached entry or the deletion list, and not in the vault file either
once later calls on other services have saved.  For the last part every set of
credentials is looked at that has those the instance had before the call and
those on disk, and whatever other processes write is in it too. -/
structure LeavesNoTrace (primitives : Primitives) (service : SecureString)
    (state : SoleWriter.State) (outcome : Outcome) : Prop where
  file : outcome.storage.files state.1.vaultPath = state.2 state.1.vaultPath
  entry : outcome.self.getEntry service = state.1.getEntry service ∨
    OnDisk primitives service (state.2 state.1.vaultPath)
      (outcome.self.getEntry service)
  deletions : outcome.self.deletedServices = state.1.deletedServices
  later : ∀ (allowed : Option Credentials → Prop) (events : List LaterEvent)
      (last : SoleWriter.State) (replies : List (Except DuckpassError Unit)),
    allowed (state.1.vault.credentials service) →
    ShowsOnly primitives service allowed (state.2 state.1.vaultPath) →
    (∀ event ∈ events,
      event.Spares primitives service allowed state.1.vaultPath) →
    Run.run (LaterEvent.step primitives)
        (outcome.self, outcome.storage.files) events = some (last, replies) →
    ShowsOnly primitives service allowed (last.2 state.1.vaultPath)

/-! ## The condition -/

/-- One of the checks before the first change fails. -/
def Request.FailsCheck (request : Request) (self : VaultService) : Prop :=
  match request with
  | addEntry service username password totpSecret =>
      service = [] ∨ (self.getEntry service).isSome ∨ username = [] ∨
        password = [] ∨ VaultService.checkTotpSecret totpSecret ≠ .ok ()
  | updateEntry service newUsername newPassword newTotpSecret =>
      self.getEntry service = none ∨ newUsername = some [] ∨
        newPassword = some [] ∨
        ∃ secret, newTotpSecret = some secret ∧
          VaultService.checkTotpSecret secret ≠ .ok ()
  | deleteEntry service => self.getEntry service = none
  | save => False
  | rekey newMasterPassword => newMasterPassword = []

/-- The entry that an add or an update puts into the cached vault. -/
def Request.written (request : Request) (clock : Clock)
    (self : VaultService) : Option VaultEntry :=
  match request with
  | addEntry service username password totpSecret =>
      some ⟨service, username, password, totpSecret, clock.stamp⟩
  | updateEntry service newUsername newPassword newTotpSecret =>
      (self.getEntry service).map fun existing =>
        ⟨service, newUsername.getD existing.username,
          newPassword.getD existing.password,
          newTotpSecret.getD existing.totpSecret, clock.stamp⟩
  | _ => none

/-- The lock is granted and the merge reads this vault from the file. -/
structure ReachesMerge (primitives : Primitives) (env : CommitEnv)
    (vaultService : VaultService) (files : Files) (clock : Clock)
    (disk : Vault) (rest : Clock) : Prop where
  opened : env.lock.openErrno = none
  locked : env.lock.flockErrno = none
  loaded : loadVault primitives env.load files vaultService.vaultPath
    vaultService.masterPassword clock = .ok (disk, rest)

/-- The call gets as far as the merge, and the vault file has a newer entry of
the service than the one the call has put into the cached vault. -/
def OvertakenOnDisk (primitives : Primitives) (service : SecureString)
    (state : SoleWriter.State) (call : Call) (entry : VaultEntry) : Prop :=
  ∃ disk rest newer,
    ReachesMerge primitives call.env state.1 state.2
      (call.request.clockAfter call.clock) disk rest ∧
    disk.getEntry service = some newer ∧
    Supersedes state.1.deletedServices service entry newer

/-- The failures that do no harm: a check fails; or the entry that the call puts
into the cached vault is there or on disk already, or the merge replaces it
with a newer one from disk before the write fails. -/
def HarmlessFailure (primitives : Primitives) (service : SecureString)
    (state : SoleWriter.State) (call : Call) : Prop :=
  call.request.FailsCheck state.1 ∨
    ∃ entry, call.request.written call.clock state.1 = some entry ∧
      (state.1.getEntry service = some entry ∨
        OnDisk primitives service (state.2 state.1.vaultPath) (some entry) ∨
        OvertakenOnDisk primitives service state call entry)

/-! ## Later calls -/

/-- The instance and the vault file have nothing but allowed credentials. -/
structure KeepsTo (primitives : Primitives) (service : SecureString)
    (allowed : Option Credentials → Prop) (path : Path)
    (state : SoleWriter.State) : Prop where
  onPath : state.1.vaultPath = path
  cached : allowed (state.1.vault.credentials service)
  file : ShowsOnly primitives service allowed (state.2 path)

/-- The merge has what the instance or the file has. -/
theorem MergesTo.allowed {self : VaultService}
    {content : Option SecureBytes} {clock : Clock} {merged : Vault}
    {allowed : Option Credentials → Prop}
    (merges : MergesTo primitives self content clock merged)
    (cached : allowed (self.vault.credentials service))
    (file : ShowsOnly primitives service allowed content) :
    allowed (merged.credentials service) := by
  rcases merges.getEntry service with
    ⟨_, same⟩ | ⟨blob, disk, rest, rfl, opens, merge⟩
  · rw [Vault.credentials_congr same]
    exact cached
  · rcases merge.mine_or_disk with mine | ⟨_, entry, onDisk, taken, _⟩
    · rw [Vault.credentials_congr mine]
      exact cached
    · have shown := file (some entry) (.opened opens onDisk)
      rw [Vault.credentials, taken]
      exact shown

/-- A call on another service keeps to what the instance and the file have. -/
theorem KeepsTo.call (ideal : primitives.Ideal)
    {allowed : Option Credentials → Prop} {path : Path}
    {state : SoleWriter.State}
    (keeps : KeepsTo primitives service allowed path state) (call : Call)
    (other : call.request.target ≠ some service) :
    KeepsTo primitives service allowed path
      ((SoleWriter.outcome primitives state call).self,
        (SoleWriter.outcome primitives state call).storage.files) := by
  obtain ⟨self, files⟩ := state
  obtain ⟨rfl, cached, file⟩ := keeps
  dsimp only at cached file
  unfold SoleWriter.outcome
  have executed := execute_cases primitives call.request call.env call.clock
    self files
  dsimp only
  generalize call.request.execute primitives call.env call.clock self
    (.start files) = outcome at executed ⊢
  cases executed with
  | rejected => exact ⟨rfl, cached, file⟩
  | @ran after _ staging ended =>
      have samePath := staging.vaultPath_eq
      have spared := (staging.frame other).1
      have stillCached : allowed (after.vault.credentials service) := by
        rw [Vault.credentials_congr spared]
        exact cached
      cases ended with
      | refused vaultFile =>
          have same := vaultFile.now
          rw [samePath] at same
          refine ⟨samePath, stillCached, ?_⟩
          dsimp only
          rw [same]
          exact file
      | failed merges vaultFile =>
          have same := vaultFile.now
          rw [samePath] at same merges
          refine ⟨samePath, merges.allowed stillCached file, ?_⟩
          dsimp only
          rw [same]
          exact file
      | returned merges encrypted replaced =>
          rw [samePath] at merges replaced
          have mergedAllowed := merges.allowed stillCached file
          refine ⟨samePath, mergedAllowed, ?_⟩
          cases replaced with
          | returned _ content =>
              have shows := encrypted.showsOnly ideal mergedAllowed
              rw [← content] at shows
              exact shows
      | unkept _ _ merges encrypted replaced =>
          rw [samePath] at merges replaced
          have mergedAllowed := merges.allowed stillCached file
          refine ⟨samePath, mergedAllowed, ?_⟩
          cases replaced with
          | returned _ content =>
              have shows := encrypted.showsOnly ideal mergedAllowed
              rw [← content] at shows
              exact shows

theorem KeepsTo.step (ideal : primitives.Ideal)
    {allowed : Option Credentials → Prop} {path : Path}
    {state next : SoleWriter.State} {event : LaterEvent}
    {reply : Except DuckpassError Unit}
    (keeps : KeepsTo primitives service allowed path state)
    (spares : event.Spares primitives service allowed path)
    (stepped : event.step primitives state = some (next, reply)) :
    KeepsTo primitives service allowed path next := by
  cases event with
  | call call =>
      cases stepped
      exact keeps.call ideal call spares
  | external files =>
      cases stepped
      exact ⟨keeps.onPath, keeps.cached, spares⟩

theorem KeepsTo.run (ideal : primitives.Ideal)
    {allowed : Option Credentials → Prop} {path : Path}
    {state last : SoleWriter.State} {events : List LaterEvent}
    {replies : List (Except DuckpassError Unit)}
    (keeps : KeepsTo primitives service allowed path state)
    (spares : ∀ event ∈ events,
      event.Spares primitives service allowed path)
    (finished : Run.run (LaterEvent.step primitives) state events =
      some (last, replies)) :
    KeepsTo primitives service allowed path last :=
  Run.invariant (fun keeps now stepped => keeps.step ideal now stepped) keeps
    (Run.along_of_forall spares state) finished

/-! ## The checks -/

/-- A call that has passed its checks has failed none of them. -/
theorem Staging.not_failsCheck {clock : Clock} {self after : VaultService}
    {request : Request} (staging : Staging clock self request after) :
    ¬ request.FailsCheck self := by
  cases staging with
  | added serviceGiven usernameGiven passwordGiven secretValid absent =>
      rintro (empty | present | empty | empty | invalid)
      · exact serviceGiven empty
      · rw [VaultService.getEntry, absent] at present
        cases present
      · exact usernameGiven empty
      · exact passwordGiven empty
      · exact invalid secretValid
  | updated usernameGiven passwordGiven secretValid present =>
      rintro (absent | empty | empty | ⟨secret, given, invalid⟩)
      · rw [VaultService.getEntry, present] at absent
        cases absent
      · exact usernameGiven empty
      · exact passwordGiven empty
      · exact invalid (secretValid secret given)
  | deleted present =>
      intro absent
      change VaultService.getEntry self _ = none at absent
      rw [VaultService.getEntry, present] at absent
      cases absent
  | save => exact id
  | rekey given => exact given

theorem checkedField_of_ne {message : String} {new : Option SecureString}
    {old : SecureString} (given : new ≠ some []) :
    VaultService.checkedField message new old = .ok (new.getD old) := by
  cases new with
  | none => rfl
  | some value =>
      cases value with
      | nil => exact absurd rfl given
      | cons byte rest => rfl

theorem checkedTotpSecret_of_valid {new : Option SecureString}
    {old : SecureString}
    (valid : ∀ secret, new = some secret →
      VaultService.checkTotpSecret secret = .ok ()) :
    VaultService.checkedTotpSecret new old = .ok (new.getD old) := by
  cases new with
  | none => rfl
  | some value =>
      unfold VaultService.checkedTotpSecret
      dsimp only
      rw [valid value rfl]
      rfl

/-- A call that fails no check goes on to the lock. -/
theorem stage_of_not_failsCheck {request : Request} {clock : Clock}
    {self : VaultService} (passes : ¬ request.FailsCheck self) :
    ∃ staged, request.stage clock self = .ok staged := by
  cases request with
  | addEntry service username password totpSecret =>
      simp only [Request.FailsCheck, VaultService.getEntry, not_or, not_not,
        Option.not_isSome_iff_eq_none] at passes
      obtain ⟨serviceGiven, absent, usernameGiven, passwordGiven, valid⟩ :=
        passes
      unfold Request.stage VaultService.stageAdd
      simp only [List.isEmpty_iff, serviceGiven, absent, usernameGiven,
        passwordGiven, valid, if_false, Option.isSome_none, Bool.false_eq_true]
      exact ⟨_, rfl⟩
  | updateEntry service newUsername newPassword newTotpSecret =>
      simp only [Request.FailsCheck, VaultService.getEntry, not_or,
        not_exists, not_and, not_not] at passes
      obtain ⟨present, usernameGiven, passwordGiven, valid⟩ := passes
      obtain ⟨existing, found⟩ := Option.ne_none_iff_exists'.mp present
      unfold Request.stage VaultService.stageUpdate
      simp only [found, checkedField_of_ne usernameGiven,
        checkedField_of_ne passwordGiven, checkedTotpSecret_of_valid valid]
      exact ⟨_, rfl⟩
  | deleteEntry service =>
      have found : (self.vault.removeEntry service).2 = true := by
        rw [Vault.removeEntry_snd, Option.isSome_iff_ne_none]
        exact passes
      change ∃ staged, self.stageDelete service = .ok staged
      unfold VaultService.stageDelete
      rw [if_pos found]
      exact ⟨_, rfl⟩
  | save => exact ⟨self, rfl⟩
  | rekey newMasterPassword =>
      unfold Request.stage VaultService.checkNewMasterPassword
      have given : ¬ newMasterPassword.isEmpty := by
        rw [List.isEmpty_iff]
        exact passes
      simp only [if_neg given]
      exact ⟨self, rfl⟩

theorem failsCheck_iff {request : Request} {clock : Clock}
    {self : VaultService} :
    request.FailsCheck self ↔
      ∃ error, request.stage clock self = .error error := by
  constructor
  · intro fails
    cases staged : request.stage clock self with
    | error error => exact ⟨error, rfl⟩
    | ok after => exact absurd fails (stage_eq_ok staged).not_failsCheck
  · rintro ⟨error, rejected⟩
    by_contra passes
    obtain ⟨staged, finished⟩ := stage_of_not_failsCheck passes
    rw [rejected] at finished
    cases finished

/-! ## The half under the lock -/

theorem acquireFileLock_granted {faults : LockFaults} {path : Path}
    {storage after : Storage}
    (acquired : acquireFileLock faults path storage = (.ok (), after)) :
    faults.openErrno = none ∧ faults.flockErrno = none := by
  unfold acquireFileLock at acquired
  split at acquired
  · cases acquired
  · next opened =>
      dsimp only at acquired
      split at acquired
      · cases acquired
      · next locked => exact ⟨opened, locked⟩

theorem acquireFileLock_denied {faults : LockFaults} {path : Path}
    {storage after : Storage} {error : DuckpassError}
    (denied : acquireFileLock faults path storage = (.error error, after)) :
    ¬ (faults.openErrno = none ∧ faults.flockErrno = none) := by
  rintro ⟨opened, locked⟩
  unfold acquireFileLock at denied
  rw [opened] at denied
  dsimp only at denied
  rw [locked] at denied
  cases denied

/-- A commit that throws leaves the instance as the merge has made it. -/
theorem commit_threw {env : CommitEnv} {password : SecureString}
    {self : VaultService} {storage : Storage} {error : DuckpassError}
    (threw : (self.commitVaultWithLockHeld primitives env password
      storage).result = .error error) :
    (self.commitVaultWithLockHeld primitives env password storage).self =
      self := by
  unfold VaultService.commitVaultWithLockHeld at threw ⊢
  split at threw
  · rfl
  · cases threw

/-- A `save` that throws leaves the instance alone if it does not reach the
merge, and with the merged vault if it does. -/
theorem save_threw {env : CommitEnv} {clock : Clock} {self : VaultService}
    {files : Files} {error : DuckpassError}
    (threw : (self.save primitives env clock (.start files)).result =
      .error error) :
    ((∀ disk rest, ¬ ReachesMerge primitives env self files clock disk rest) ∧
        (self.save primitives env clock (.start files)).self = self) ∨
      ∃ disk rest, ReachesMerge primitives env self files clock disk rest ∧
        (self.save primitives env clock (.start files)).self =
          { self with
            vault := (mergeEntries self.deletedServices disk.entries
              self.vault rest).1 } := by
  unfold VaultService.save at threw ⊢
  cases acquired : acquireFileLock env.lock self.vaultPath (.start files) with
  | mk result storage =>
      rw [acquired] at threw
      cases result with
      | error error =>
          refine .inl ⟨?_, rfl⟩
          intro disk rest reached
          exact acquireFileLock_denied acquired ⟨reached.opened, reached.locked⟩
      | ok done =>
          obtain ⟨opened, locked⟩ := acquireFileLock_granted acquired
          have same : storage.files self.vaultPath = files self.vaultPath :=
            (acquireFileLock_frames acquired).1.now
          dsimp only at threw ⊢
          unfold VaultService.mergeDiskStateWithLockHeld at threw ⊢
          rw [same, loadVault_congr env.load same] at threw ⊢
          by_cases present : (files self.vaultPath).isSome
          · rw [if_pos present] at threw ⊢
            cases loaded : loadVault primitives env.load files self.vaultPath
                self.masterPassword clock with
            | error error =>
                refine .inl ⟨?_, rfl⟩
                intro disk rest reached
                rw [reached.loaded] at loaded
                cases loaded
            | ok result =>
                rw [loaded] at threw
                exact .inr ⟨result.1, result.2, ⟨opened, locked, loaded⟩,
                  commit_threw threw⟩
          · rw [if_neg present] at threw ⊢
            refine .inl ⟨?_, commit_threw threw⟩
            intro disk rest reached
            obtain ⟨blob, found, _⟩ := loadVault_eq_ok reached.loaded
            rw [found] at present
            exact present rfl

/-! ## A call that throws -/

section Threw

variable {state : SoleWriter.State} {call : Call}

/-- What a call on a service that throws past its checks leaves: the vault file
as it was, and the change in memory, merged with the file if it could be
read. -/
structure StagedFailure (primitives : Primitives) (state : SoleWriter.State)
    (call : Call) (staged : VaultService) (outcome : Outcome) : Prop where
  staging : Staging call.clock state.1 call.request staged
  file : outcome.storage.files state.1.vaultPath = state.2 state.1.vaultPath
  left : ((∀ disk rest, ¬ ReachesMerge primitives call.env state.1 state.2
          (call.request.clockAfter call.clock) disk rest) ∧
        outcome.self = staged) ∨
      ∃ disk rest, ReachesMerge primitives call.env state.1 state.2
          (call.request.clockAfter call.clock) disk rest ∧
        outcome.self =
          { staged with
            vault := (mergeEntries staged.deletedServices disk.entries
              staged.vault rest).1 }

theorem locked_eq_save {request : Request} (env : CommitEnv) (clock : Clock)
    (self : VaultService) (storage : Storage)
    (target : request.target = some service) :
    request.locked primitives env clock self storage =
      self.save primitives env clock storage := by
  cases request with
  | addEntry => rfl
  | updateEntry => rfl
  | deleteEntry => rfl
  | save => cases target
  | rekey => cases target

/-- A save depends on the instance's path and password and on the file only as
far as the merge is concerned. -/
theorem ReachesMerge.staged {env : CommitEnv} {files : Files}
    {clock loadClock rest : Clock} {disk : Vault} {request : Request}
    {before staged : VaultService}
    (staging : Staging clock before request staged) :
    ReachesMerge primitives env staged files loadClock disk rest ↔
      ReachesMerge primitives env before files loadClock disk rest := by
  constructor
  · rintro ⟨opened, locked, loaded⟩
    rw [staging.vaultPath_eq, staging.masterPassword_eq] at loaded
    exact ⟨opened, locked, loaded⟩
  · rintro ⟨opened, locked, loaded⟩
    rw [← staging.vaultPath_eq, ← staging.masterPassword_eq] at loaded
    exact ⟨opened, locked, loaded⟩

/-- A call on a service that throws has not written the vault file. -/
theorem LockedOutcome.file_of_threw {request : Request} {env : CommitEnv}
    {clock : Clock} {self : VaultService} {files : Files} {outcome : Outcome}
    {error : DuckpassError}
    (ended : LockedOutcome primitives request env clock self files outcome)
    (target : request.target = some service)
    (threw : outcome.result = .error error) :
    outcome.storage.files self.vaultPath = files self.vaultPath := by
  cases ended with
  | refused vaultFile => exact vaultFile.now
  | failed _ vaultFile => exact vaultFile.now
  | returned => cases threw
  | unkept isRekey =>
      rw [isRekey] at target
      cases target

/-- A call on a service that throws has failed a check, and then nothing has
happened, or is a staged failure. -/
theorem outcome_threw {error : DuckpassError}
    (target : call.request.target = some service)
    (threw : (SoleWriter.outcome primitives state call).result =
      .error error) :
    (call.request.FailsCheck state.1 ∧
        SoleWriter.outcome primitives state call =
          ⟨.error error, state.1, .start state.2⟩) ∨
      ∃ staged, StagedFailure primitives state call staged
        (SoleWriter.outcome primitives state call) := by
  unfold SoleWriter.outcome at threw ⊢
  rw [execute_eq] at threw ⊢
  cases finished : call.request.stage call.clock state.1 with
  | error rejected =>
      rw [finished] at threw
      cases threw
      exact .inl ⟨failsCheck_iff.mpr ⟨_, finished⟩, rfl⟩
  | ok staged =>
      rw [finished] at threw
      dsimp only at threw ⊢
      have staging := stage_eq_ok finished
      have ended := locked_cases primitives call.request call.env
        (call.request.clockAfter call.clock) staged state.2
      have file := ended.file_of_threw target threw
      rw [staging.vaultPath_eq] at file
      refine .inr ⟨staged, staging, file, ?_⟩
      rw [locked_eq_save _ _ _ _ target] at threw ⊢
      rcases save_threw threw with
        ⟨unreached, same⟩ | ⟨disk, rest, reached, same⟩
      · refine .inl ⟨?_, same⟩
        intro disk rest reached
        exact unreached disk rest ((ReachesMerge.staged staging).mpr reached)
      · exact .inr ⟨disk, rest, (ReachesMerge.staged staging).mp reached, same⟩

/-- Past its checks a call on a service binds it to the written entry, or puts
it on the deletion list. -/
theorem Staging.writes {clock : Clock} {self staged : VaultService}
    {request : Request} (staging : Staging clock self request staged)
    (target : request.target = some service) :
    (∃ entry, request.written clock self = some entry ∧
        staged.vault.getEntry service = some entry ∧
        staged.deletedServices = self.deletedServices) ∨
      request.written clock self = none ∧
        staged.deletedServices ≠ self.deletedServices := by
  cases staging with
  | added =>
      cases target
      exact .inl ⟨_, rfl, Vault.getEntry_store.trans (if_pos rfl), rfl⟩
  | updated _ _ _ present =>
      cases target
      refine .inl ⟨_, ?_, Vault.getEntry_store.trans (if_pos rfl), rfl⟩
      unfold Request.written VaultService.getEntry
      dsimp only
      rw [present]
      rfl
  | deleted =>
      refine .inr ⟨rfl, ?_⟩
      intro same
      have longer := congrArg List.length same
      rw [List.length_append] at longer
      exact absurd longer (Nat.ne_of_gt (Nat.lt_succ_self _))
  | save => cases target
  | rekey => cases target

namespace StagedFailure

variable {staged : VaultService} {outcome : Outcome}

theorem deletions
    (failure : StagedFailure primitives state call staged outcome) :
    outcome.self.deletedServices = staged.deletedServices := by
  rcases failure.left with ⟨_, same⟩ | ⟨_, _, _, same⟩
  · rw [same]
  · rw [same]

/-- The written entry stays in the cached vault, unless the merge was reached
and has taken a newer one from disk. -/
theorem cached
    (failure : StagedFailure primitives state call staged outcome)
    {entry : VaultEntry} (bound : staged.vault.getEntry service = some entry)
    (sameDeletions : staged.deletedServices = state.1.deletedServices) :
    (outcome.self.getEntry service = some entry ∧
        ¬ OvertakenOnDisk primitives service state call entry) ∨
      OvertakenOnDisk primitives service state call entry ∧
        OnDisk primitives service (state.2 state.1.vaultPath)
          (outcome.self.getEntry service) := by
  rcases failure.left with ⟨unreached, same⟩ | ⟨disk, rest, reached, same⟩
  · refine .inl ⟨?_, ?_⟩
    · rw [same]
      exact bound
    · rintro ⟨disk, rest, _, reached, _⟩
      exact unreached disk rest reached
  · have merge := getEntry_mergeEntries staged.deletedServices service
      disk.distinct staged.vault rest
    rw [bound, sameDeletions] at merge
    have afterEq : outcome.self.getEntry service =
        (mergeEntries state.1.deletedServices disk.entries staged.vault
          rest).1.getEntry service := by
      rw [same, sameDeletions]
      rfl
    rw [← afterEq] at merge
    rcases merge.of_cached with
      ⟨newer, onDisk, supersedes, taken⟩ | ⟨notNewer, kept⟩
    · refine .inr ⟨⟨disk, rest, newer, reached, onDisk, supersedes⟩, ?_⟩
      obtain ⟨blob, present, _, opens⟩ := loadVault_eq_ok reached.loaded
      rw [present, taken]
      exact .opened opens onDisk
    · refine .inl ⟨kept, ?_⟩
      rintro ⟨otherDisk, otherRest, newer, otherReached, onDisk, supersedes⟩
      have sameLoad := reached.loaded.symm.trans otherReached.loaded
      cases sameLoad
      exact notNewer newer onDisk supersedes

theorem onPath
    (failure : StagedFailure primitives state call staged outcome) :
    outcome.self.vaultPath = state.1.vaultPath := by
  have samePath := failure.staging.vaultPath_eq
  rcases failure.left with ⟨_, same⟩ | ⟨_, _, _, same⟩
  · rw [same]
    exact samePath
  · rw [same]
    exact samePath

end StagedFailure

/-- Once the file, the cached entry and the deletion list show no trace, later
calls cannot bring one out. -/
theorem LeavesNoTrace.of_entry (ideal : primitives.Ideal) {outcome : Outcome}
    (onPath : outcome.self.vaultPath = state.1.vaultPath)
    (file : outcome.storage.files state.1.vaultPath =
      state.2 state.1.vaultPath)
    (entry : outcome.self.getEntry service = state.1.getEntry service ∨
      OnDisk primitives service (state.2 state.1.vaultPath)
        (outcome.self.getEntry service))
    (deletions : outcome.self.deletedServices = state.1.deletedServices) :
    LeavesNoTrace primitives service state outcome := by
  refine ⟨file, entry, deletions, ?_⟩
  intro allowed events last replies before onDisk spares finished
  have cached : allowed (outcome.self.vault.credentials service) := by
    rcases entry with same | shown
    · rw [Vault.credentials_congr same]
      exact before
    · exact onDisk _ shown
  have shows : ShowsOnly primitives service allowed
      (outcome.storage.files state.1.vaultPath) := by
    rw [file]
    exact onDisk
  have keeps : KeepsTo primitives service allowed state.1.vaultPath
      (outcome.self, outcome.storage.files) := ⟨onPath, cached, shows⟩
  exact (keeps.run ideal spares finished).file

/-- A call of `add_entry`, `update_entry` or `delete_entry` that throws, in
every state of the instance and of the directory and whatever makes it throw,
leaves no trace exactly if the failure is harmless. -/
theorem failed_call_leaves_no_trace_iff (ideal : primitives.Ideal)
    {error : DuckpassError} (target : call.request.target = some service)
    (threw : (SoleWriter.outcome primitives state call).result =
      .error error) :
    LeavesNoTrace primitives service state
        (SoleWriter.outcome primitives state call) ↔
      HarmlessFailure primitives service state call := by
  rcases outcome_threw target threw with ⟨fails, same⟩ | ⟨staged, failure⟩
  · rw [same]
    refine iff_of_true ?_ (.inl fails)
    exact .of_entry ideal rfl rfl (.inl rfl) rfl
  · have passes := failure.staging.not_failsCheck
    rcases failure.staging.writes target with
      ⟨entry, written, bound, sameDeletions⟩ | ⟨nothing, listed⟩
    · have deletions := failure.deletions.trans sameDeletions
      have cached := failure.cached bound sameDeletions
      constructor
      · intro noTrace
        refine .inr ⟨entry, written, ?_⟩
        rcases cached with ⟨kept, _⟩ | ⟨overtaken, _⟩
        · rcases noTrace.entry with unchanged | shown
          · exact .inl (unchanged.symm.trans kept)
          · rw [kept] at shown
            exact .inr (.inl shown)
        · exact .inr (.inr overtaken)
      · rintro (fails | ⟨other, otherWritten, harmless⟩)
        · exact absurd fails passes
        · rw [written] at otherWritten
          cases otherWritten
          apply LeavesNoTrace.of_entry ideal failure.onPath failure.file _
            deletions
          rcases cached with ⟨kept, notOvertaken⟩ | ⟨_, shown⟩
          · rw [kept]
            rcases harmless with unchanged | shown | overtaken
            · exact .inl unchanged.symm
            · exact .inr shown
            · exact absurd overtaken notOvertaken
          · exact .inr shown
    · -- A delete: the service stays on the deletion list.
      apply iff_of_false
      · intro noTrace
        exact listed (failure.deletions.symm.trans noTrace.deletions)
      · rintro (fails | ⟨entry, written, _⟩)
        · exact passes fails
        · rw [nothing] at written
          cases written

end Threw

namespace FailedOperations

open Symbolic (calm masterPassword)

/-- The disk is full when the temporary file is written. -/
def diskFull : CommitEnv :=
  { calm with
    vaultWrite :=
      { WriteFaults.none with writes := [.failed "No space left on device"] } }

/-- An instance that has just loaded an empty vault. -/
def state : SoleWriter.State :=
  (⟨Symbolic.path, masterPassword, Vault.empty, []⟩,
    Symbolic.files Vault.empty masterPassword)

def add : Call :=
  ⟨.addEntry Symbolic.service [1] [2] [], diskFull, .constant 5⟩

/-- A later call on another service, with room on the disk. -/
def otherAdd : Call := ⟨.addEntry [0x74] [1] [3] [], calm, .constant 6⟩

def failed : Outcome := SoleWriter.outcome Symbolic.primitives state add

def later : Outcome :=
  SoleWriter.outcome Symbolic.primitives (failed.self, failed.storage.files)
    otherAdd

def ioError : DuckpassError :=
  .vaultIo "POSIX write failed: No space left on device"

end FailedOperations

open FailedOperations in
/-- An `add_entry` that throws because the disk is full falls under the
theorem. -/
theorem failed_call_leaves_no_trace_iff_disk_full :
    LeavesNoTrace Symbolic.primitives Symbolic.service state failed ↔
      HarmlessFailure Symbolic.primitives Symbolic.service state add :=
  @failed_call_leaves_no_trace_iff Symbolic.primitives Symbolic.service state
    add Symbolic.ideal ioError rfl (by decide +kernel)

open FailedOperations in
/-- An `add_entry` throws because the disk is full.  The vault on disk is still
empty, but the instance has the entry, and the next successful `add_entry` of
another service writes both. -/
theorem failed_add_is_saved_later :
    failed.result = .error ioError ∧
      state.1.getEntry Symbolic.service = none ∧
      failed.self.getEntry Symbolic.service = some (Symbolic.entry 2 5) ∧
      Symbolic.entriesOnDisk failed.storage.files Symbolic.masterPassword
        (.constant 6) = some [] ∧
      later.result = .ok () ∧
      Symbolic.entriesOnDisk later.storage.files Symbolic.masterPassword
        (.constant 7) =
        some [Symbolic.entry 2 5, ⟨[0x74], [1], [3], [], 6⟩] ∧
      ¬ LeavesNoTrace Symbolic.primitives Symbolic.service state failed := by
  have cached : failed.self.getEntry Symbolic.service =
      some (Symbolic.entry 2 5) := by decide +kernel
  refine ⟨by decide +kernel, rfl, cached, by decide +kernel,
    by decide +kernel, by decide +kernel, ?_⟩
  intro noTrace
  rcases noTrace.entry with same | shown
  · rw [cached] at same
    cases same
  · rw [cached] at shown
    cases shown with
    | opened opens found =>
        have encrypted := Symbolic.encrypted Vault.empty
          Symbolic.masterPassword (by decide +kernel)
        have same := (encrypted.open_eq Symbolic.ideal opens).2
        cases same
        cases found

end DuckPass
