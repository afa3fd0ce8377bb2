/-
Module: DuckPass.Proofs.VaultService
Purpose: Everything a call of `VaultService` can do, said once: the change of
  the cached vault before the lock, and the three ways the half under the lock
  can end.
Trusted boundary: none
Main exports: Clock.stamp, Staging, stage_eq_ok, MergesTo, LockedOutcome,
  locked_cases, execute_eq, Executed, execute_cases
-/
import DuckPass.Proofs.LocalStorage
import DuckPass.Proofs.Merge
import DuckPass.Proofs.VaultFile

namespace DuckPass

open Storage (Untouched)

/-! ## Before the lock -/

namespace Clock

/-- The time a fresh entry ends up with: `std::time`, read once more if it was
the epoch. -/
def stamp (clock : Clock) : UInt64 :=
  if clock.time = 0 then clock.tick.time else clock.time

/-- The clock after a fresh entry was stamped. -/
def afterStamp (clock : Clock) : Clock :=
  if clock.time = 0 then clock.tick.tick else clock.tick

/-- A clock that shows a time is read once. -/
theorem NonZero.stamp_eq {clock : Clock} (nonZero : clock.NonZero) :
    clock.stamp = clock.time := by
  rw [stamp, if_neg nonZero.time]

end Clock

/-- An entry that is built with the clock's time is stored with a time. -/
theorem Vault.addEntry_stamp (vault : Vault)
    (service username password totpSecret : SecureString) (clock : Clock) :
    vault.addEntry ⟨service, username, password, totpSecret, clock.time⟩
        clock.tick =
      (vault.store ⟨service, username, password, totpSecret, clock.stamp⟩,
        clock.afterStamp) := by
  unfold Vault.addEntry Clock.stamp Clock.afterStamp
  dsimp only
  split
  · rfl
  · rfl

/-- What a call does to the instance before it asks for the lock, with every
check it has passed. -/
inductive Staging (clock : Clock) (self : VaultService) :
    Request → VaultService → Prop where
  | added {service username password totpSecret : SecureString}
      (serviceGiven : service ≠ []) (usernameGiven : username ≠ [])
      (passwordGiven : password ≠ [])
      (secretValid : VaultService.checkTotpSecret totpSecret = .ok ())
      (absent : self.vault.getEntry service = none) :
      Staging clock self (.addEntry service username password totpSecret)
        { self with
          vault := self.vault.store
            ⟨service, username, password, totpSecret, clock.stamp⟩ }
  | updated {service : SecureString}
      {newUsername newPassword newTotpSecret : Option SecureString}
      {existing : VaultEntry}
      (usernameGiven : newUsername ≠ some [])
      (passwordGiven : newPassword ≠ some [])
      (secretValid : ∀ secret, newTotpSecret = some secret →
        VaultService.checkTotpSecret secret = .ok ())
      (present : self.vault.getEntry service = some existing) :
      Staging clock self
        (.updateEntry service newUsername newPassword newTotpSecret)
        { self with
          vault := self.vault.store
            ⟨service, newUsername.getD existing.username,
              newPassword.getD existing.password,
              newTotpSecret.getD existing.totpSecret, clock.stamp⟩ }
  | deleted {service : SecureString} {existing : VaultEntry}
      (present : self.vault.getEntry service = some existing) :
      Staging clock self (.deleteEntry service)
        { self with
          vault := (self.vault.removeEntry service).1
          deletedServices := self.deletedServices ++ [service] }
  | save : Staging clock self .save self
  | rekey {newMasterPassword : SecureString}
      (given : newMasterPassword ≠ []) :
      Staging clock self (.rekey newMasterPassword) self

/-- The clock with which the half under the lock begins. -/
def Request.clockAfter (request : Request) (clock : Clock) : Clock :=
  match request with
  | addEntry _ _ _ _ => clock.afterStamp
  | updateEntry _ _ _ _ => clock.afterStamp
  | _ => clock

/-- A field that passes is not set to nothing. -/
theorem checkedField_eq_ok {message : String} {new : Option SecureString}
    {old value : SecureString}
    (checked : VaultService.checkedField message new old = .ok value) :
    new ≠ some [] ∧ value = new.getD old := by
  unfold VaultService.checkedField at checked
  cases new with
  | none =>
      cases checked
      exact ⟨by simp, rfl⟩
  | some given =>
      dsimp only at checked
      split at checked
      · cases checked
      · next nonEmpty =>
          cases checked
          refine ⟨?_, rfl⟩
          intro empty
          cases empty
          exact nonEmpty rfl

/-- A secret that passes is valid. -/
theorem checkedTotpSecret_eq_ok {new : Option SecureString}
    {old value : SecureString}
    (checked : VaultService.checkedTotpSecret new old = .ok value) :
    (∀ secret, new = some secret →
      VaultService.checkTotpSecret secret = .ok ()) ∧
      value = new.getD old := by
  cases new with
  | none =>
      cases checked
      exact ⟨by simp, rfl⟩
  | some given =>
      obtain ⟨_, valid, finished⟩ := bind_eq_ok.mp checked
      cases finished
      refine ⟨?_, rfl⟩
      intro secret same
      cases same
      exact valid

/-- `add_entry` up to its save. -/
theorem stageAdd_eq_ok
    {service username password totpSecret : SecureString}
    {clock after : Clock} {self staged : VaultService}
    (finished : self.stageAdd service username password totpSecret clock =
      .ok (staged, after)) :
    Staging clock self (.addEntry service username password totpSecret)
        staged ∧
      after = clock.afterStamp := by
  unfold VaultService.stageAdd at finished
  obtain ⟨serviceGiven, finished⟩ := throwIf_eq_ok finished
  obtain ⟨absent, finished⟩ := throwIf_eq_ok finished
  obtain ⟨usernameGiven, finished⟩ := throwIf_eq_ok finished
  obtain ⟨passwordGiven, finished⟩ := throwIf_eq_ok finished
  obtain ⟨_, secretValid, finished⟩ := bind_eq_ok.mp finished
  dsimp only at finished
  rw [Vault.addEntry_stamp] at finished
  cases finished
  rw [List.isEmpty_iff] at serviceGiven usernameGiven passwordGiven
  rw [Option.not_isSome_iff_eq_none] at absent
  exact ⟨.added serviceGiven usernameGiven passwordGiven secretValid absent,
    rfl⟩

/-- `update_entry` up to its save. -/
theorem stageUpdate_eq_ok {service : SecureString}
    {newUsername newPassword newTotpSecret : Option SecureString}
    {clock after : Clock} {self staged : VaultService}
    (finished : self.stageUpdate service newUsername newPassword newTotpSecret
      clock = .ok (staged, after)) :
    Staging clock self
        (.updateEntry service newUsername newPassword newTotpSecret) staged ∧
      after = clock.afterStamp := by
  unfold VaultService.stageUpdate at finished
  cases present : self.vault.getEntry service with
  | none =>
      rw [present] at finished
      cases finished
  | some existing =>
      rw [present] at finished
      obtain ⟨username, checkedUsername, finished⟩ := bind_eq_ok.mp finished
      obtain ⟨password, checkedPassword, finished⟩ := bind_eq_ok.mp finished
      obtain ⟨totpSecret, checkedSecret, finished⟩ := bind_eq_ok.mp finished
      obtain ⟨usernameGiven, rfl⟩ := checkedField_eq_ok checkedUsername
      obtain ⟨passwordGiven, rfl⟩ := checkedField_eq_ok checkedPassword
      obtain ⟨secretValid, rfl⟩ := checkedTotpSecret_eq_ok checkedSecret
      dsimp only at finished
      rw [Vault.addEntry_stamp, Vault.service_of_getEntry present] at finished
      cases finished
      exact ⟨.updated usernameGiven passwordGiven secretValid present, rfl⟩

/-- `delete_entry` up to its save. -/
theorem stageDelete_eq_ok {service : SecureString}
    {self staged : VaultService} (clock : Clock)
    (finished : self.stageDelete service = .ok staged) :
    Staging clock self (.deleteEntry service) staged := by
  unfold VaultService.stageDelete at finished
  split at finished
  · next removed =>
      cases finished
      rw [Vault.removeEntry_snd] at removed
      obtain ⟨existing, present⟩ := Option.isSome_iff_exists.mp removed
      exact .deleted present
  · cases finished

/-- A new master password is not empty. -/
theorem checkNewMasterPassword_eq_ok {newMasterPassword : SecureString}
    {result : Unit}
    (finished : VaultService.checkNewMasterPassword newMasterPassword =
      .ok result) : newMasterPassword ≠ [] := by
  unfold VaultService.checkNewMasterPassword at finished
  split at finished
  · cases finished
  · next given =>
      rw [List.isEmpty_iff] at given
      exact given

/-- A call that reaches the lock has made exactly one of the listed changes. -/
theorem stage_eq_ok {request : Request} {clock : Clock}
    {self staged : VaultService}
    (finished : request.stage clock self = .ok staged) :
    Staging clock self request staged := by
  cases request with
  | addEntry service username password totpSecret =>
      obtain ⟨⟨after, clock⟩, added, same⟩ := bind_eq_ok.mp finished
      cases same
      exact (stageAdd_eq_ok added).1
  | updateEntry service newUsername newPassword newTotpSecret =>
      obtain ⟨⟨after, clock⟩, updated, same⟩ := bind_eq_ok.mp finished
      cases same
      exact (stageUpdate_eq_ok updated).1
  | deleteEntry service => exact stageDelete_eq_ok clock finished
  | save =>
      cases finished
      exact .save
  | rekey newMasterPassword =>
      obtain ⟨_, checked, same⟩ := bind_eq_ok.mp finished
      cases same
      exact .rekey (checkNewMasterPassword_eq_ok checked)

/-- Before the lock a call touches no service but its own. -/
theorem Staging.frame {clock : Clock} {self after : VaultService}
    {request : Request} {service : SecureString}
    (staging : Staging clock self request after)
    (other : request.target ≠ some service) :
    after.vault.getEntry service = self.vault.getEntry service ∧
      (service ∈ after.deletedServices ↔ service ∈ self.deletedServices) := by
  cases staging with
  | added =>
      refine ⟨Vault.getEntry_store.trans (if_neg ?_), Iff.rfl⟩
      intro same
      exact other (congrArg some same)
  | updated =>
      refine ⟨Vault.getEntry_store.trans (if_neg ?_), Iff.rfl⟩
      intro same
      exact other (congrArg some same)
  | deleted =>
      have differs : service ≠ _ := fun same =>
        other (congrArg some same.symm)
      refine ⟨Vault.getEntry_removeEntry.trans (if_neg differs), ?_⟩
      rw [List.mem_append, List.mem_singleton]
      exact or_iff_left differs
  | save => exact ⟨rfl, Iff.rfl⟩
  | rekey => exact ⟨rfl, Iff.rfl⟩

/-- An `add_entry` that stages something has not found the service. -/
theorem Staging.absent_of_add {clock : Clock} {self after : VaultService}
    {service username password totpSecret : SecureString}
    (staging : Staging clock self
      (.addEntry service username password totpSecret) after) :
    self.vault.getEntry service = none := by
  cases staging with
  | added _ _ _ _ absent => exact absent

/-- Staging does not touch the password. -/
theorem Staging.masterPassword_eq {clock : Clock} {self after : VaultService}
    {request : Request} (staging : Staging clock self request after) :
    after.masterPassword = self.masterPassword := by
  cases staging <;> rfl

/-- A call is its half before the lock followed by its half under it. -/
theorem execute_eq (primitives : Primitives) (request : Request)
    (env : CommitEnv) (clock : Clock) (self : VaultService)
    (storage : Storage) :
    request.execute primitives env clock self storage =
      match request.stage clock self with
      | .error error => ⟨.error error, self, storage⟩
      | .ok staged =>
          request.locked primitives env (request.clockAfter clock) staged
            storage := by
  cases request with
  | addEntry service username password totpSecret =>
      unfold Request.execute VaultService.addEntry Request.stage
      dsimp only
      cases added : self.stageAdd service username password totpSecret clock
        with
      | error error => rfl
      | ok result =>
          obtain ⟨staged, after⟩ := result
          rw [(stageAdd_eq_ok added).2]
          rfl
  | updateEntry service newUsername newPassword newTotpSecret =>
      unfold Request.execute VaultService.updateEntry Request.stage
      dsimp only
      cases updated : self.stageUpdate service newUsername newPassword
          newTotpSecret clock with
      | error error => rfl
      | ok result =>
          obtain ⟨staged, after⟩ := result
          rw [(stageUpdate_eq_ok updated).2]
          rfl
  | deleteEntry service =>
      unfold Request.execute VaultService.deleteEntry Request.stage
      dsimp only
      cases self.stageDelete service with
      | error error => rfl
      | ok staged => rfl
  | save => rfl
  | rekey newMasterPassword =>
      unfold Request.execute VaultService.rekey Request.stage
      dsimp only
      cases VaultService.checkNewMasterPassword newMasterPassword with
      | error error => rfl
      | ok done => rfl

/-! ## Under the lock -/

/-- `merged` is what `merge_disk_state_with_lock_held` leaves in the instance's
vault when it does not throw. -/
inductive MergesTo (primitives : Primitives) (self : VaultService)
    (content : Option SecureBytes) (clock : Clock) : Vault → Prop where
  | missing (absent : content = none) :
      MergesTo primitives self content clock self.vault
  | loaded {blob : SecureBytes} {disk : Vault} {rest : Clock}
      (present : content = some blob)
      (opened : openVaultBlob primitives none blob self.masterPassword clock =
        .ok (disk, rest)) :
      MergesTo primitives self content clock
        (mergeEntries self.deletedServices disk.entries self.vault rest).1

/-- The merge replaces the cached vault and nothing else. -/
theorem mergeDiskStateWithLockHeld_eq_ok {primitives : Primitives}
    {faults : LoadFaults} {self after : VaultService} {files : Files}
    {clock : Clock}
    (finished : self.mergeDiskStateWithLockHeld primitives faults files clock =
      .ok after) :
    ∃ merged, MergesTo primitives self (files self.vaultPath) clock merged ∧
      after = { self with vault := merged } := by
  unfold VaultService.mergeDiskStateWithLockHeld at finished
  split at finished
  · obtain ⟨⟨disk, rest⟩, loaded, same⟩ := bind_eq_ok.mp finished
    obtain ⟨blob, present, _, opened⟩ := loadVault_eq_ok loaded
    cases same
    exact ⟨_, .loaded present opened, rfl⟩
  · next absent =>
      cases finished
      rw [Option.not_isSome_iff_eq_none] at absent
      exact ⟨self.vault, .missing absent, rfl⟩

/-- The master password of the instance, and of the file, once the call has
returned. -/
def Request.nextPassword (request : Request) (password : SecureString) :
    SecureString :=
  match request with
  | rekey newMasterPassword => newMasterPassword
  | _ => password

/-- The four ways the half under the lock can end.  It may be refused before
anything is taken over from the disk; it may fail once the merged vault is in
memory, with the vault file as it was; or it returns, and then the vault file
has been replaced by an encryption of the merged vault.  The last way is that of
a `rekey` that has replaced both files and cannot keep the new password. -/
inductive LockedOutcome (primitives : Primitives) (request : Request)
    (env : CommitEnv) (clock : Clock) (self : VaultService) (files : Files) :
    Outcome → Prop where
  | refused {error : DuckpassError} {storage : Storage}
      (vaultFile : Untouched self.vaultPath (.start files) storage)
      (backupFile : Untouched self.vaultPath.backup (.start files) storage) :
      LockedOutcome primitives request env clock self files
        ⟨.error error, self, storage⟩
  | failed {error : DuckpassError} {merged : Vault} {storage : Storage}
      (merges :
        MergesTo primitives self (files self.vaultPath) clock merged)
      (vaultFile : Untouched self.vaultPath (.start files) storage) :
      LockedOutcome primitives request env clock self files
        ⟨.error error, { self with vault := merged }, storage⟩
  | returned {merged : Vault} {blob : SecureBytes} {storage : Storage}
      (merges :
        MergesTo primitives self (files self.vaultPath) clock merged)
      (encrypted : SealedBlob primitives
        (request.nextPassword self.masterPassword) merged blob)
      (replaced :
        Replaced self.vaultPath blob (.start files) (.ok ()) storage)
      (backupFile : ∀ newMasterPassword, request = .rekey newMasterPassword →
        storage.files self.vaultPath.backup = some blob) :
      LockedOutcome primitives request env clock self files
        ⟨.ok (),
          { vaultPath := self.vaultPath
            masterPassword := request.nextPassword self.masterPassword
            vault := merged
            deletedServices := [] },
          storage⟩
  | unkept {newMasterPassword : SecureString} {error : DuckpassError}
      {merged : Vault} {blob : SecureBytes} {storage : Storage}
      (isRekey : request = .rekey newMasterPassword)
      (fault : env.protect = some error)
      (merges :
        MergesTo primitives self (files self.vaultPath) clock merged)
      (encrypted : SealedBlob primitives newMasterPassword merged blob)
      (replaced :
        Replaced self.vaultPath blob (.start files) (.ok ()) storage)
      (backupFile : storage.files self.vaultPath.backup = some blob) :
      LockedOutcome primitives request env clock self files
        ⟨.error error, { self with vault := merged }, storage⟩

/-- Taking the lock touches neither the vault nor its backup. -/
theorem acquireFileLock_frames {faults : LockFaults} {path : Path}
    {storage after : Storage} {result : Except DuckpassError Unit}
    (acquired : acquireFileLock faults path storage = (result, after)) :
    Untouched path storage after ∧ Untouched path.backup storage after := by
  have vaultFile := acquireFileLock_untouched path.ne_lock faults storage
  have backupFile :=
    acquireFileLock_untouched path.backup_ne_lock faults storage
  rw [acquired] at vaultFile backupFile
  exact ⟨vaultFile, backupFile⟩

/-- `save` of the merged vault, from the moment the merge has succeeded. -/
theorem commit_cases {primitives : Primitives} {request : Request}
    {env : CommitEnv} {clock : Clock} {self : VaultService} {files : Files}
    {merged : Vault} {storage : Storage}
    (ordinary : request.nextPassword self.masterPassword =
      self.masterPassword)
    (notRekey : ∀ newMasterPassword, request ≠ .rekey newMasterPassword)
    (merges : MergesTo primitives self (files self.vaultPath) clock merged)
    (locked : Untouched self.vaultPath (.start files) storage) :
    LockedOutcome primitives request env clock self files
      (VaultService.commitVaultWithLockHeld primitives env self.masterPassword
        { self with vault := merged } storage) := by
  unfold VaultService.commitVaultWithLockHeld saveVault
  cases encrypted : serializeAndEncryptVault primitives env.encrypt merged
      self.masterPassword with
  | error error => exact .failed merges locked
  | ok blob =>
      have target := Replaced.after locked
        (writeFileAtomic_target env.vaultWrite self.vaultPath blob true storage)
      dsimp only
      cases written : writeFileAtomic env.vaultWrite self.vaultPath blob true
          storage with
      | mk result after =>
          rw [written] at target
          cases result with
          | error error =>
              cases target with
              | threw untouched => exact .failed merges untouched
          | ok done =>
              have whole := @LockedOutcome.returned _ request env _ self _ _ _ _
                merges (ordinary.symm ▸ serializeAndEncryptVault_eq_ok encrypted)
                target
                (fun new isRekey => absurd isRekey (notRekey new))
              rw [ordinary] at whole
              exact whole

/-- Steps 2 to 5 of `rekey`: the backup file is replaced first, and a failure
after that still leaves the vault file alone. -/
theorem rekey_cases {primitives : Primitives} {env : CommitEnv}
    {clock : Clock} {self : VaultService} {files : Files} {merged : Vault}
    {storage : Storage} {newMasterPassword : SecureString}
    (merges : MergesTo primitives self (files self.vaultPath) clock merged)
    (locked : Untouched self.vaultPath (.start files) storage) :
    LockedOutcome primitives (.rekey newMasterPassword) env clock self files
      (VaultService.rekeyWithLockHeld primitives env newMasterPassword
        { self with vault := merged } storage) := by
  unfold VaultService.rekeyWithLockHeld
  cases encrypted : serializeAndEncryptVault primitives env.encrypt merged
      newMasterPassword with
  | error error => exact .failed merges locked
  | ok blob =>
      have backup := writeFileAtomic_target env.backupWrite
        self.vaultPath.backup blob false storage
      have spared := locked.trans (writeFileAtomic_untouched env.backupWrite
        false self.vaultPath.ne_backup
        (self.vaultPath.ne_backup_temporary env.backupWrite.unique)
        (by simp) blob storage)
      dsimp only
      cases backedUp : writeFileAtomic env.backupWrite self.vaultPath.backup
          blob false storage with
      | mk result middle =>
          rw [backedUp] at backup spared
          cases result with
          | error error => exact .failed merges spared
          | ok done =>
              have target := Replaced.after spared
                (writeFileAtomic_target env.vaultWrite self.vaultPath blob
                  false middle)
              have kept := writeFileAtomic_untouched env.vaultWrite false
                self.vaultPath.ne_backup.symm
                (self.vaultPath.backup_ne_temporary env.vaultWrite.unique)
                (by simp) blob middle
              dsimp only
              cases written : writeFileAtomic env.vaultWrite self.vaultPath
                  blob false middle with
              | mk result after =>
                  rw [written] at target kept
                  cases result with
                  | error error =>
                      cases target with
                      | threw untouched => exact .failed merges untouched
                  | ok done =>
                      have sealedBlob :=
                        serializeAndEncryptVault_eq_ok encrypted
                      have backupNow : after.files self.vaultPath.backup =
                          some blob := by
                        cases backup with
                        | returned _ content => exact kept.now.trans content
                      dsimp only
                      cases fault : env.protect with
                      | some error =>
                          exact .unkept rfl fault merges sealedBlob target
                            backupNow
                      | none =>
                          exact .returned merges sealedBlob target
                            fun _ _ => backupNow

/-- What `save` and `rekey` have in common: the lock, the merge, and then
`finish`. -/
def VaultService.underLock (primitives : Primitives) (env : CommitEnv)
    (clock : Clock) (finish : VaultService → Storage → Outcome)
    (self : VaultService) (storage : Storage) : Outcome :=
  match acquireFileLock env.lock self.vaultPath storage with
  | (.error error, storage) => ⟨.error error, self, storage⟩
  | (.ok (), storage) =>
      match self.mergeDiskStateWithLockHeld primitives env.load storage.files
          clock with
      | .error error => ⟨.error error, self, storage⟩
      | .ok self => finish self storage

/-- `save` is a commit under the lock. -/
theorem save_eq (primitives : Primitives) (env : CommitEnv) (clock : Clock)
    (self : VaultService) (storage : Storage) :
    self.save primitives env clock storage =
      self.underLock primitives env clock
        (fun self => VaultService.commitVaultWithLockHeld primitives env
          self.masterPassword self) storage := rfl

/-- So is `rekey`, with the other body. -/
theorem rekeyLocked_eq (primitives : Primitives) (env : CommitEnv)
    (clock : Clock) (newMasterPassword : SecureString) (self : VaultService)
    (storage : Storage) :
    self.rekeyLocked primitives env clock newMasterPassword storage =
      self.underLock primitives env clock
        (VaultService.rekeyWithLockHeld primitives env newMasterPassword)
        storage := rfl

/-- Up to `finish` nothing but the lock file is touched. -/
theorem underLock_cases {primitives : Primitives} {request : Request}
    {env : CommitEnv} {clock : Clock} {self : VaultService} {files : Files}
    {finish : VaultService → Storage → Outcome}
    (finishes : ∀ merged storage,
      MergesTo primitives self (files self.vaultPath) clock merged →
      Untouched self.vaultPath (.start files) storage →
      LockedOutcome primitives request env clock self files
        (finish { self with vault := merged } storage)) :
    LockedOutcome primitives request env clock self files
      (self.underLock primitives env clock finish (.start files)) := by
  unfold VaultService.underLock
  cases acquired : acquireFileLock env.lock self.vaultPath (.start files) with
  | mk result storage =>
      obtain ⟨vaultFile, backupFile⟩ := acquireFileLock_frames acquired
      cases result with
      | error error => exact .refused vaultFile backupFile
      | ok done =>
          dsimp only
          cases merge : self.mergeDiskStateWithLockHeld primitives env.load
              storage.files clock with
          | error error => exact .refused vaultFile backupFile
          | ok after =>
              obtain ⟨merged, merges, rfl⟩ :=
                mergeDiskStateWithLockHeld_eq_ok merge
              rw [vaultFile.now] at merges
              exact finishes merged storage merges vaultFile

/-- Every run of the half under the lock ends in one of the four ways. -/
theorem locked_cases (primitives : Primitives) (request : Request)
    (env : CommitEnv) (clock : Clock) (self : VaultService) (files : Files) :
    LockedOutcome primitives request env clock self files
      (request.locked primitives env clock self (.start files)) := by
  have ordinary :
      request.nextPassword self.masterPassword = self.masterPassword →
      (∀ new, request ≠ .rekey new) →
      LockedOutcome primitives request env clock self files
        (self.save primitives env clock (.start files)) := by
    intro samePassword notRekey
    rw [save_eq]
    apply underLock_cases
    intro merged storage
    exact commit_cases samePassword notRekey
  cases request with
  | addEntry => exact ordinary rfl (by simp)
  | updateEntry => exact ordinary rfl (by simp)
  | deleteEntry => exact ordinary rfl (by simp)
  | save => exact ordinary rfl (by simp)
  | rekey newMasterPassword =>
      rw [Request.locked, rekeyLocked_eq]
      apply underLock_cases
      intro merged storage
      exact rekey_cases

/-- How a whole call can go: a check turns it down before it has done anything,
or it is staged and its half under the lock ends in one of the four ways. -/
inductive Executed (primitives : Primitives) (request : Request)
    (env : CommitEnv) (clock : Clock) (self : VaultService) (files : Files) :
    Outcome → Prop where
  | rejected {error : DuckpassError}
      (failed : request.stage clock self = .error error) :
      Executed primitives request env clock self files
        ⟨.error error, self, .start files⟩
  | ran {staged : VaultService} {outcome : Outcome}
      (staging : Staging clock self request staged)
      (ended : LockedOutcome primitives request env (request.clockAfter clock)
        staged files outcome) :
      Executed primitives request env clock self files outcome

/-- How any request ends. -/
theorem execute_cases (primitives : Primitives) (request : Request)
    (env : CommitEnv) (clock : Clock) (self : VaultService) (files : Files) :
    Executed primitives request env clock self files
      (request.execute primitives env clock self (.start files)) := by
  rw [execute_eq]
  cases finished : request.stage clock self with
  | error error => exact .rejected finished
  | ok staged =>
      exact .ran (stage_eq_ok finished)
        (locked_cases primitives request env (request.clockAfter clock) staged
          files)

end DuckPass
